import Modbus.Console.Form

/-!
# Help

The help of a command is written from its form: what it does, how it is called,
and its commands, operands and options.  Columns are aligned.  In full help an
option takes a paragraph of its own.
-/

namespace Modbus.Console.Form

/-- A text filled up with spaces on the right. -/
def padded (width : Nat) (text : String) : String :=
  text ++ String.ofList (List.replicate (width - text.length) ' ')

def columns (rows : List (String × String)) : String :=
  let width := (rows.map fun row => row.1.length).foldl max 0
  String.join (rows.map fun row => "  " ++ padded width row.1 ++ "  " ++ row.2 ++ "\n")

/-- Paragraphs with a heading each. -/
def paragraphs (rows : List (String × String)) : String :=
  "\n".intercalate (rows.map fun row => "  " ++ row.1 ++ "\n          " ++ row.2 ++ "\n")

/-- What something does, and the value that is taken if it is not given. -/
def explained (about : String) (fallback : Option String) : String :=
  match fallback with
  | some value => if about.isEmpty then "[default: " ++ value ++ "]"
      else about ++ " [default: " ++ value ++ "]"
  | none => about

def operandName (operand : OperandForm) : String :=
  let name :=
    if operand.optional then "[" ++ operand.name ++ "]" else "<" ++ operand.name ++ ">"
  name ++ if operand.many then "..." else ""

def optionName (option : OptionForm) : String :=
  let letter := match option.letter with
    | some letter => "-" ++ String.singleton letter ++ ", "
    | none => "    "
  let value := match option.value with
    | some (_, name) => " <" ++ name ++ ">"
    | none => ""
  letter ++ "--" ++ option.word ++ value

/-- What options of one place are ordered by: their letters, or else their words. -/
def optionKey (option : OptionForm) : String :=
  match option.letter with
  | some letter => String.singleton letter ++ "0"
  | none => option.word

/-- Whether an option stands before another one in help. -/
def isBefore (first second : OptionForm) : Bool :=
  if first.place = second.place then optionKey first ≤ optionKey second
  else first.place < second.place

/-- The options that stand behind those of the form itself. -/
def standing (form : Form) (full : Bool) : List (String × String) :=
  let hint :=
    if form.details.isNone then ""
    else if full then " (see a summary with '-h')"
    else " (see more with '--help')"
  (if form.explains then [("-h, --help", "Print help" ++ hint)] else [])
    ++ if form.version.isSome then [("-V, --version", "Print version")] else []

/-- How a command is called. -/
def usage (form : Form) : String :=
  let operands := form.operands.map fun operand => " " ++ operandName operand
  form.name ++ (if form.explains then " [OPTIONS]" else "") ++ String.join operands
    ++ if form.commands.isEmpty then "" else " <COMMAND>"

def operandRows (form : Form) : List (String × String) :=
  form.operands.map fun operand =>
    (operandName operand, explained operand.about operand.fallback)

def optionRows (form : Form) (full : Bool) : List (String × String) :=
  let rows := (form.options.mergeSort isBefore).map fun option =>
    (optionName option, explained option.about option.fallback)
  rows ++ form.standing full

/-- The part of help under one heading; without rows there is none. -/
def part (heading : String) (rows : List (String × String))
    (layOut : List (String × String) → String) : List String :=
  if rows.isEmpty then [] else [heading ++ ":\n" ++ layOut rows]

/-- The help of a command.  There is full help only where there is more to say. -/
def help (form : Form) (full : Bool) : String :=
  let full := full && form.details.isSome
  let about := if full then form.details.getD form.about else form.about
  let parts := part "Commands" form.commands columns
    ++ part "Arguments" form.operandRows columns
    ++ part "Options" (form.optionRows full) (if full then paragraphs else columns)
  about ++ "\n\nUsage: " ++ form.usage ++ "\n\n" ++ "\n".intercalate parts

end Modbus.Console.Form
