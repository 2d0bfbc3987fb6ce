import Modbus.Text.Split

/-!
# Places in a YAML text

A cursor stands between two characters of a text and knows what follows it and
how far it has come.  Only few characters must not occur in a text at all; five
of them end a line, and a carriage return and a line feed together end one.
-/

namespace Modbus.Document.Yaml

/-- Whether a character may occur in a text. -/
def isAllowed (character : Char) : Bool :=
  let code := character.toNat
  code == 0x09 || code == 0x0A || code == 0x0D || (0x20 ≤ code && code ≤ 0x7E) || code == 0x85
    || (0xA0 ≤ code && code ≤ 0xFFFD) || 0x10000 ≤ code

/-- Whether a character ends a line. -/
def isBreak (character : Char) : Bool :=
  [0x0A, 0x0D, 0x85, 0x2028, 0x2029].contains character.toNat

/-- Blanks between the parts of a line. -/
def isBlank (character : Char) : Bool := character == ' ' || character == '\t'

/-- The mark that may stand in front of a text. -/
def isByteOrderMark (character : Char) : Bool := character.toNat == 0xFEFF

/-- Whether a blank or the end of a line or of the text follows. -/
def isGap : List Char → Bool
  | [] => true
  | character :: _ => isBlank character || isBreak character

/-- A place in a text. -/
structure Cursor where
  rest : List Char
  /-- How many octets the text in front has. -/
  index : Nat
  /-- How many lines have ended in front. -/
  line : Nat
  /-- How many characters of the line are in front. -/
  column : Nat
  deriving DecidableEq, Repr, Inhabited

namespace Cursor

/-- The place in front of a text. -/
def start (text : List Char) : Cursor := ⟨text, 0, 0, 0⟩

/-- The place behind the next character. -/
def skip (cursor : Cursor) : Cursor :=
  match cursor.rest with
  | [] => cursor
  | character :: rest =>
    { cursor with
      rest := rest
      index := cursor.index + character.utf8Size
      column := cursor.column + 1 }

/-- The place behind the next characters, of which there are at most so many. -/
def skipMany (cursor : Cursor) : Nat → Cursor
  | 0 => cursor
  | count + 1 => skipMany cursor.skip count

/-- The place behind the end of the line that follows. -/
def skipBreak (cursor : Cursor) : Cursor :=
  let behind :=
    match cursor.rest with
    | '\r' :: '\n' :: _ => cursor.skipMany 2
    | _ => cursor.skip
  { behind with line := cursor.line + 1, column := 0 }

/-- The place behind all characters that satisfy a condition. -/
def skipWhile (condition : Char → Bool) (cursor : Cursor) : Cursor :=
  cursor.skipMany (cursor.rest.takeWhile condition).length

def lineEnd (cursor : Cursor) : Char :=
  match cursor.rest with
  | character :: _ =>
    if character.toNat = 0x2028 || character.toNat = 0x2029 then character else '\n'
  | [] => '\n'

/-- Whether one of the marks that separate documents follows, at the front of a line. -/
def isAtMark (mark : String) (cursor : Cursor) : Bool :=
  cursor.column = 0 && (Text.Split.behind? mark.toList cursor.rest).any isGap

def isAtSeparator (cursor : Cursor) : Bool := cursor.isAtMark "---" || cursor.isAtMark "..."

/-- Whether the end of the line or of the text follows. -/
def isAtLineEnd (cursor : Cursor) : Bool :=
  match cursor.rest with
  | [] => true
  | character :: _ => isBreak character

/-- The place behind blanks and a comment, up to the end of the line. -/
def skipComment (cursor : Cursor) : Cursor :=
  let behind := cursor.skipWhile isBlank
  match behind.rest with
  | '#' :: _ => behind.skipWhile fun character => !isBreak character
  | _ => behind

end Cursor

end Modbus.Document.Yaml
