import Modbus.Document.Yaml.Scalar
import Modbus.Document.Yaml.Spelling

/-!
# Writing YAML

A record is written with one entry in each row, and a record in it is indented
below its key.  A text is written without quotes where it then reads as the same
text; otherwise between single quotes, or between double quotes if it has
characters that do not show.  A text of several lines is written as a block.
-/

namespace Modbus.Document.Yaml

/-! ## Texts -/

/-- Whether a text would be taken for something else without quotes. -/
def isAmbiguous (characters : List Char) : Bool :=
  isPadded characters
    || match ofPlain characters with
      | text _ => false
      | _ => true

/-- Whether a character shows. -/
def isPrintable (character : Char) : Bool :=
  let code := character.toNat
  code == 0x0A || (0x20 ≤ code && code ≤ 0x7E)
    || (0xA0 ≤ code && code ≤ 0xFFFD && code != 0xFEFF) || 0x10000 ≤ code

/-- Whether a text has a mark, behind its first character, that means something in YAML. -/
def hasMark : List Char → Bool
  | [] => false
  | ':' :: rest => isGap rest || hasMark rest
  | character :: rest => (isGap [character] && rest.head? == some '#') || hasMark rest

def beginsWithMark : List Char → Bool
  | [] => false
  | mark :: rest =>
    if ['-', '?', ':'].contains mark then isGap rest
    else isFlowMark mark
      || ['#', '&', '*', '!', '|', '>', '\'', '"', '%', '@', '\x60'].contains mark

def beginsWithSeparator (characters : List Char) : Bool :=
  "---".toList.isPrefixOf characters || "...".toList.isPrefixOf characters

/-- Whether a text may stand without quotes. -/
def isPlain (characters : List Char) : Bool :=
  !(beginsWithMark characters || beginsWithSeparator characters || hasMark (characters.drop 1)
    || characters.head? == some ' ' || characters.getLast? == some ' '
    || characters.any isBreak)

/-- The digits of a code in hexadecimal, in upper case, filled up to a width. -/
def hexadecimal (width code : Nat) : List Char :=
  let digits := (Nat.toDigits 16 code).map Char.toUpper
  List.replicate (width - digits.length) '0' ++ digits

/-- The letters of escapes by the codes that they stand for. -/
def letters : List (Nat × Char) :=
  [(0, '0'), (7, 'a'), (8, 'b'), (9, 't'), (0x0A, 'n'), (0x0B, 'v'), (0x0C, 'f'), (0x0D, 'r'),
   (0x1B, 'e'), (0x22, '"'), (0x5C, '\\'), (0x85, 'N'), (0xA0, '_'), (0x2028, 'L'),
   (0x2029, 'P')]

/-- A character as it stands between double quotes. -/
def escaped (character : Char) : List Char :=
  let code := character.toNat
  if isPrintable character && !isBreak character && character != '"' && character != '\\' then
    [character]
  else
    match letters.lookup code with
    | some letter => ['\\', letter]
    | none =>
      if code ≤ 0xFF then '\\' :: 'x' :: hexadecimal 2 code
      else if code ≤ 0xFFFF then '\\' :: 'u' :: hexadecimal 4 code
      else '\\' :: 'U' :: hexadecimal 8 code

def inDoubleQuotes (characters : List Char) : String :=
  "\"" ++ String.ofList (characters.flatMap escaped) ++ "\""

/-- A text with a margin in front of every line but the first; `atStart` says whether the
text stands at the front of a line itself. -/
def indented (margin : List Char) (atStart : Bool) : List Char → List Char
  | [] => []
  | character :: rest =>
    if isBreak character then character :: indented margin true rest
    else if atStart then margin ++ character :: indented margin false rest
    else character :: indented margin false rest

def endsWithBreak (characters : List Char) : Bool := characters.getLast?.any isBreak

/-- A text between single quotes, in which a single quote is written twice. -/
def inSingleQuotes (margin characters : List Char) : String :=
  let doubled := characters.flatMap fun character =>
    if character = '\'' then ['\'', '\''] else [character]
  let ending := if endsWithBreak characters then margin else []
  "'" ++ String.ofList (indented margin false doubled ++ ending) ++ "'"

/-- Whether a space stands in front of the end of a line. -/
def hasLooseSpace : List Char → Bool
  | ' ' :: character :: rest => isBreak character || hasLooseSpace (character :: rest)
  | _ :: rest => hasLooseSpace rest
  | [] => false

/-- Whether a space stands behind the end of a line. -/
def hasIndentedLine : List Char → Bool
  | character :: ' ' :: rest => isBreak character || hasIndentedLine rest
  | _ :: rest => hasIndentedLine rest
  | [] => false

/-- A text that is no block. -/
def line (margin characters : List Char) : String :=
  if !characters.all isPrintable || hasLooseSpace characters then inDoubleQuotes characters
  else if isAmbiguous characters || !isPlain characters then
    if hasIndentedLine characters then inDoubleQuotes characters
    else inSingleQuotes margin characters
  else String.ofList characters

/-- What stands behind the mark of a block: how far it is indented, if that does not show, and
what becomes of the ends of lines behind it. -/
def blockHints (characters : List Char) : String :=
  let indentation :=
    match characters with
    | character :: _ => if character == ' ' || isBreak character then "2" else ""
    | [] => ""
  let ending :=
    match characters.reverse with
    | last :: before :: _ => if !isBreak last then "-" else if isBreak before then "+" else ""
    | [last] => if isBreak last then "+" else "-"
    | [] => "-"
  indentation ++ ending

/-- A text as a block of lines; where it ends with the end of a line, the row ends there. -/
def asBlock (margin characters : List Char) : String :=
  "|" ++ blockHints characters ++ "\n" ++ String.ofList (indented margin true characters)
    ++ if endsWithBreak characters then "" else "\n"

/-- A text behind its key, up to the end of the row. -/
def written (margin : List Char) (value : String) : String :=
  let characters := value.toList
  if !characters.contains '\n' then line margin characters ++ "\n"
  else if !characters.all isPrintable || hasLooseSpace characters
      || characters.getLast? == some ' ' then
    inDoubleQuotes characters ++ "\n"
  else
    asBlock margin characters

/-! ## Records -/

mutual

/-- What stands behind a key, the colon included. -/
def behindKey (indent : Nat) : Document → String
  | record [] => " \x7b\x7d\n"
  | record rest => "\n" ++ rows indent rest
  | list items => " [" ++ ", ".intercalate (inRow items) ++ "]\n"
  | text value => " " ++ written (List.replicate indent ' ') value
  | integer value => " " ++ toString value ++ "\n"
  | bool value => " " ++ (if value then "true" else "false") ++ "\n"
  | real shown => " " ++ shown ++ "\n"
  | null | damaged => " null\n"

/-- The rows of the entries of a record. -/
def rows (indent : Nat) : List (Document × Document) → String
  | [] => ""
  | (key, value) :: rest =>
    String.ofList (List.replicate indent ' ') ++ line [] ((key.text?.getD "").toList) ++ ":"
      ++ behindKey (indent + 2) value ++ rows indent rest

def inRow : List Document → List String
  | [] => []
  | item :: rest =>
    (match item with
    | text value => inDoubleQuotes value.toList
    | integer value => toString value
    | bool value => if value then "true" else "false"
    | list items => "[" ++ ", ".intercalate (inRow items) ++ "]"
    | _ => "null") :: inRow rest

end

def print : Document → String
  | record entries => rows 0 entries
  | _ => ""

end Modbus.Document.Yaml
