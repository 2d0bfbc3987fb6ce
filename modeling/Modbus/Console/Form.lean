import Modbus.Bound
import Modbus.Console.Value

/-!
# Forms of command lines

A form says which options a command has and which operands follow it.  A
command line is taken apart by its form: options in any order among the
operands, with their values behind an equals sign, in the next word, or directly
behind the letter.  What the form does not provide for is a usage error.  An
option whose value is a word of its own counts only when more has been read, so
that behind it help can still be asked for.
-/

namespace Modbus.Console

/-- The kinds of values of options and operands. -/
inductive ValueKind where
  | text
  /-- A text that is not empty. -/
  | path
  | unit
  | port
  | size
  | word
  | coil
  deriving DecidableEq, Repr, Inhabited

namespace ValueKind

/-- Reads an integer that is neither negative nor greater than `most`. -/
def natural? (most : Nat) (value : String) : Option Nat :=
  match value.toList with
  | '-' :: zeros => (Text.Natural.parse? 10 0 zeros).filter fun _ => zeros.head? != some '+'
  | digits => Text.Natural.parse? 10 most digits

def unit? (value : String) : Option UInt8 := (natural? 255 value).map UInt8.ofNat

def port? (value : String) : Option UInt16 := (natural? 65535 value).map UInt16.ofNat

def size? (value : String) : Option Nat := Text.Natural.parse? 10 Bound.most64 value.toList

def accepts (kind : ValueKind) (value : String) : Bool :=
  match kind with
  | text => true
  | path => !value.isEmpty
  | unit => (unit? value).isSome
  | port => (port? value).isSome
  | size => (size? value).isSome
  | word => (parseWord value).isOk
  | coil => (parseCoil value).isOk

end ValueKind

/-- An option. -/
structure OptionForm where
  /-- The letter that stands for it behind one hyphen. -/
  letter : Option Char
  /-- The word that stands for it behind two hyphens. -/
  word : String
  /-- The kind of its value and what the value is called; a switch has no value. -/
  value : Option (ValueKind × String)
  about : String
  /-- The value that is taken if the option is not given, in help. -/
  fallback : Option String
  /-- Its place among the options, in help. -/
  place : Nat
  deriving DecidableEq, Repr, Inhabited

/-- An operand. -/
structure OperandForm where
  name : String
  kind : ValueKind
  about : String
  /-- The value that is taken if the operand is not given, if it does not have to be. -/
  fallback : Option String
  /-- Whether any number of values may follow; it is the last operand then. -/
  many : Bool
  /-- Whether it may be left out. -/
  optional : Bool
  deriving DecidableEq, Repr, Inhabited

/-- The form of a command. -/
structure Form where
  /-- The words up to the command itself. -/
  name : String
  about : String
  options : List OptionForm
  operands : List OperandForm
  /-- The commands that may follow, each with what it does. -/
  commands : List (String × String)
  /-- What stands in place of `about` in the full help, if there is more to say. -/
  details : Option String
  /-- The version, for a command that tells it. -/
  version : Option String
  /-- Whether help on the command can be asked for by an option. -/
  explains : Bool
  deriving DecidableEq, Repr, Inhabited

/-- Why a command line is not carried out. -/
inductive Stop where
  | usage
  /-- Help is asked for, in full or in brief. -/
  | help (full : Bool)
  | version
  deriving DecidableEq, Repr, Inhabited

/-- The parts of a command line. -/
structure Found where
  /-- The values of options by their words, the last one first; that of a switch is empty. -/
  options : List (String × String)
  operands : List String
  /-- The last option, as long as it does not count yet, and its value. -/
  held : Option (OptionForm × String)
  deriving DecidableEq, Repr, Inhabited

namespace Found

/-- No parts yet. -/
def nothing : Found := ⟨[], [], none⟩

/-- One more option, which must not have been given before. -/
def withOption (found : Found) (form : OptionForm) (value : String) : Except Stop Found :=
  let accepted := form.value.all fun (kind, _) => kind.accepts value
  if accepted && !found.options.any fun option => option.1 == form.word then
    .ok { found with options := (form.word, value) :: found.options }
  else
    .error .usage

/-- The parts with the option that does not count yet. -/
def settled (found : Found) : Except Stop Found :=
  match found.held with
  | some (form, value) => ({ found with held := none } : Found).withOption form value
  | none => .ok found

def withOperand (found : Found) (forms : List OperandForm) (value : String) :
    Except Stop Found :=
  let form := match forms[found.operands.length]? with
    | some form => some form
    | none => forms.getLast?.filter OperandForm.many
  match form with
  | some form =>
    if form.kind.accepts value then .ok { found with operands := found.operands ++ [value] }
    else .error .usage
  | none => .error .usage

/-- Whether an option was given. -/
def has (found : Found) (word : String) : Bool := (found.options.lookup word).isSome

end Found

namespace Form

/-- What stops a command line at an option that is not among those of the form. -/
def stopAt (form : Form) (help version : Bool) (full : Bool) : Stop :=
  if help then .help full
  else if version && form.version.isSome then .version
  else .usage

/-- Takes a word of letters behind one hyphen apart.  The result has the option that still
waits for its value, if there is one. -/
def letters (form : Form) : List Char → Found → Except Stop (Found × Option OptionForm)
  | [], found => .ok (found, none)
  | letter :: rest, found =>
    match form.options.find? fun option => option.letter == some letter with
    | none => .error (form.stopAt (letter == 'h') (letter == 'V') false)
    | some option =>
      match option.value, rest with
      | none, rest => do
        let found ← found.withOption option ""
        letters form rest found
      | some _, [] => .ok (found, some option)
      | some _, '=' :: value | some _, value => do
        let found ← found.withOption option (String.ofList value)
        .ok (found, none)

/-- Takes a word behind two hyphens apart, whose value may stand behind an equals sign. -/
def word (form : Form) (characters : List Char) (found : Found) :
    Except Stop (Found × Option OptionForm) :=
  let (name, value) :=
    match Text.Split.first? '=' characters with
    | some (name, value) => (String.ofList name, some (String.ofList value))
    | none => (String.ofList characters, none)
  match form.options.find? fun option => option.word == name with
  | none =>
    .error (form.stopAt (name == "help" && value.isNone) (name == "version" && value.isNone) true)
  | some option =>
    match option.value, value with
    | some _, none => .ok (found, some option)
    | some _, some value => (found.withOption option value).map fun found => (found, none)
    | none, none => (found.withOption option "").map fun found => (found, none)
    | none, some _ => .error .usage

/-- Takes words apart up to a command that may follow.  If `waiting` is set, the next word is
the value of that option; if `literal` is set, all words are operands. -/
def takeApart (form : Form) :
    List String → Option OptionForm → Bool → Found → Except Stop (Found × List String)
  | [], waiting, _, found => if waiting.isSome then .error .usage else .ok (found, [])
  | token :: rest, waiting, literal, found =>
    match literal, waiting, token.toList with
    | true, _, _ => do
      let found ← (← found.settled).withOperand form.operands token
      takeApart form rest none true found
    | false, none, ['-', '-'] => takeApart form rest none true found
    | false, none, '-' :: '-' :: characters => do
      let (found, waiting) ← form.word characters (← found.settled)
      takeApart form rest waiting false found
    | false, none, '-' :: letter :: letters => do
      let (found, waiting) ← form.letters (letter :: letters) (← found.settled)
      takeApart form rest waiting false found
    | false, some _, '-' :: _ :: _ => .error .usage
    | false, some option, _ =>
      takeApart form rest none false { found with held := some (option, token) }
    | false, none, _ =>
      if (form.commands.lookup token).isSome then .ok (found, token :: rest)
      else do
        let found ← (← found.settled).withOperand form.operands token
        takeApart form rest none false found

/-- The operands that were found, with those that may be left out; there may be too few. -/
def complete (form : Form) (found : Found) : Except Stop (List String) :=
  let rest := form.operands.drop found.operands.length
  match rest.mapM OperandForm.fallback with
  | some values => .ok (found.operands ++ values)
  | none => .error .usage

end Form

end Modbus.Console
