import Modbus.Document.Yaml.Spelling

/-!
# Tokens of YAML

The smallest parts of a text that mean something: marks, names and scalars.
Where a collection is written by indentation, tokens stand for its beginning and
its end as well.
-/

namespace Modbus.Document.Yaml

/-- A part of a text. -/
inductive Token where
  /-- The version of the notation. -/
  | version (major minor : Nat)
  /-- What the handle of a tag stands for. -/
  | tagHandle (handle text : String)
  | documentStart
  | documentEnd
  /-- The beginning of a sequence that is written by indentation. -/
  | sequenceStart
  /-- The beginning of a mapping that is written by indentation. -/
  | mappingStart
  /-- The end of either. -/
  | blockEnd
  | flowSequenceStart
  | flowSequenceEnd
  | flowMappingStart
  | flowMappingEnd
  /-- The mark in front of an item. -/
  | entry
  /-- The comma behind an item of a collection in a row. -/
  | flowEntry
  | key
  | value
  /-- A mark that stands for the node with a number. -/
  | reference (number : Nat)
  /-- The mark in front of a node that has a number. -/
  | anchor (number : Nat)
  | tag (handle suffix : String)
  | scalar (isPlain : Bool) (characters : List Char)
  deriving DecidableEq, Repr, Inhabited

namespace Token

/-- Whether a character may stand in a name. -/
def isNameCharacter (character : Char) : Bool :=
  character.isAlphanum || character == '_' || character == '-'

/-- The name at the front, and what follows it. -/
def name (cursor : Cursor) : String × Cursor :=
  (String.ofList (cursor.rest.takeWhile isNameCharacter), cursor.skipWhile isNameCharacter)

def nodeName? (cursor : Cursor) : Option (String × Cursor) :=
  let (name, behind) := name cursor.skip
  let isOver := isGap behind.rest
    || behind.rest.head?.any ['?', ':', ',', ']', '}', '%', '@', '\x60'].contains
  if name.isEmpty || !isOver then none else some (name, behind)

/-! ## Tags -/

/-- Whether a character may stand in the text of a tag; the marks of collections may only
where the tag is set apart. -/
def isTagCharacter (isApart : Bool) (character : Char) : Bool :=
  isNameCharacter character
    || [';', '/', '?', ':', '@', '&', '=', '+', '$', '.', '!', '~', '*', '\'', '(', ')'].contains
      character
    || (isApart && [',', '[', ']'].contains character)

/-- How many octets follow in a character that begins with an octet. -/
def octetsBehind? (octet : Nat) : Option Nat :=
  if octet < 0x80 then some 0
  else if octet < 0xC0 then none
  else if octet < 0xE0 then some 1
  else if octet < 0xF0 then some 2
  else if octet < 0xF8 then some 3
  else none

/-- The text of a tag, in which a percent sign and two digits stand for an octet; so many more
octets have to follow in a character that has begun. -/
def tagText? (isApart : Bool) : Nat → Nat → Cursor → Option (List Char × Cursor)
  | 0, _, cursor => some ([], cursor)
  | fuel + 1, missing, cursor =>
    match missing, cursor.rest with
    | _, '%' :: high :: low :: _ => do
      let high ← Text.Natural.digit? 16 high
      let low ← Text.Natural.digit? 16 low
      let octet := 16 * high + low
      let missing ←
        if missing = 0 then octetsBehind? octet
        else if 0x80 ≤ octet && octet < 0xC0 then some (missing - 1)
        else none
      let (characters, behind) ← tagText? isApart fuel missing (cursor.skipMany 3)
      some (Char.ofNat octet :: characters, behind)
    | _ + 1, _ => none
    | 0, character :: _ =>
      if isTagCharacter isApart character then
        (tagText? isApart fuel 0 cursor.skip).map fun (characters, behind) =>
          (character :: characters, behind)
      else if character = '%' then none
      else some ([], cursor)
    | 0, [] => some ([], cursor)

/-- The handle of a tag with the mark in front, and perhaps the one behind it. -/
def tagHandle? (cursor : Cursor) : String × Cursor :=
  let (name, behind) := name cursor.skip
  match behind.rest with
  | '!' :: _ => ("!" ++ name ++ "!", behind.skip)
  | _ => ("!" ++ name, behind)

/-- A tag: its handle, the text behind it, and what follows. -/
def tag? (inFlow : Bool) (cursor : Cursor) : Option (Token × Cursor) := do
  let fuel := cursor.rest.length + 1
  let (found, behind) ←
    match cursor.rest with
    | '!' :: '<' :: _ => do
      let (characters, behind) ← tagText? true fuel 0 (cursor.skipMany 2)
      if characters.isEmpty || behind.rest.head? != some '>' then none
      else some (tag "" (String.ofList characters), behind.skip)
    | _ =>
      let (handle, behind) := tagHandle? cursor
      if handle.length ≥ 2 && handle.endsWith "!" then do
        let (characters, behind) ← tagText? false fuel 0 behind
        if characters.isEmpty then none
        else some (tag handle (String.ofList characters), behind)
      else do
        let (characters, behind) ← tagText? false fuel 0 cursor.skip
        if characters.isEmpty then some (tag "" "!", behind)
        else some (tag "!" (String.ofList characters), behind)
  let isOver := isGap behind.rest || (inFlow && behind.rest.head? == some ',')
  if isOver then some (found, behind) else none

/-! ## Directives -/

def versionNumber? (cursor : Cursor) : Option (Nat × Cursor) := do
  let digits := cursor.rest.takeWhile Char.isDigit
  let value ← Text.Natural.parse? 10 999999999 digits
  if digits.length ≤ 9 then some (value, cursor.skipMany digits.length) else none

/-- A directive: a version, or what a handle stands for. -/
def directive? (cursor : Cursor) : Option (Token × Cursor) := do
  let (name, behind) := name cursor.skip
  let arguments := behind.skipWhile isBlank
  let (found, behind) ←
    if !isGap behind.rest then none
    else if name = "YAML" then do
      let (major, behind) ← versionNumber? arguments
      if behind.rest.head? != some '.' then none
      else
        let (minor, behind) ← versionNumber? behind.skip
        some (version major minor, behind)
    else if name = "TAG" then do
      let (handle, behind) := tagHandle? arguments
      if arguments.rest.head? != some '!' || !handle.endsWith "!" then none
      else if !behind.rest.head?.any isBlank then none
      else
        let (characters, behind) ←
          tagText? true (cursor.rest.length + 1) 0 (behind.skipWhile isBlank)
        if characters.isEmpty || !isGap behind.rest then none
        else some (.tagHandle handle (String.ofList characters), behind)
    else none
  let behind := behind.skipComment
  if behind.isAtLineEnd then some (found, behind) else none

end Token

end Modbus.Document.Yaml
