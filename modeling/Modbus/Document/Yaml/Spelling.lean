import Modbus.Document.Yaml.Cursor
import Modbus.Text.Natural

/-!
# Spellings of scalars

A scalar is written without quotes, between single or double ones, or as a block
of lines below a mark.  Where a scalar without a block goes over several lines,
the end of a line counts as a space, and only further ends of lines are kept.
-/

namespace Modbus.Document.Yaml

/-! ## Gaps between words -/

/-- What stands between two words of a scalar. -/
structure Gap where
  /-- The blanks in front of the first end of a line. -/
  blanks : List Char
  /-- The ends of lines. -/
  breaks : List Char
  deriving DecidableEq, Repr, Inhabited

namespace Gap

/-- What a gap contributes to the scalar. -/
def text (gap : Gap) : List Char :=
  match gap.breaks with
  | [] => gap.blanks
  | ['\n'] => [' ']
  | '\n' :: breaks => breaks
  | breaks => breaks

/-- Reads the ends of lines of a gap and drops the blanks among them; a tab must not stand in
front of the column `margin`. -/
def readBreaks (margin : Nat) : Nat → Cursor → Option (List Char × Cursor)
  | 0, cursor => some ([], cursor)
  | fuel + 1, cursor =>
    match cursor.rest with
    | [] => some ([], cursor)
    | character :: _ =>
      if character = '\t' && cursor.column < margin then none
      else if isBlank character then readBreaks margin fuel cursor.skip
      else if isBreak character then
        (readBreaks margin fuel cursor.skipBreak).map fun (found, behind) =>
          (cursor.lineEnd :: found, behind)
      else some ([], cursor)

def read (margin : Nat) (cursor : Cursor) : Option (Gap × Cursor) := do
  let blanks := cursor.rest.takeWhile isBlank
  let behind := cursor.skipWhile isBlank
  if behind.rest.head?.any isBreak then
    let (found, behind) ← readBreaks margin (behind.rest.length + 1) behind
    some (⟨blanks, found⟩, behind)
  else
    some (⟨blanks, []⟩, behind)

end Gap

/-! ## Quotes -/

/-- A character that is named by so many hexadecimal digits. -/
def coded (count : Nat) (rest : List Char) : Option Char := do
  let digits ← (rest.take count).mapM (Text.Natural.digit? 16)
  let code := digits.foldl (fun code digit => code * 16 + digit) 0
  let isScalar := code < 0xD800 || (0xE000 ≤ code && code < 0x110000)
  if digits.length = count && isScalar then some (Char.ofNat code) else none

/-- The characters that a backslash and one letter stand for. -/
def escapes : List (Char × Nat) :=
  [('0', 0), ('a', 7), ('b', 8), ('t', 9), ('\t', 9), ('n', 10), ('v', 11), ('f', 12), ('r', 13),
   ('e', 0x1B), (' ', 0x20), ('"', 0x22), ('/', 0x2F), ('\\', 0x5C), ('N', 0x85), ('_', 0xA0),
   ('L', 0x2028), ('P', 0x2029)]

/-- How many hexadecimal digits follow a letter that takes some. -/
def digitCounts : List (Char × Nat) := [('x', 2), ('u', 4), ('U', 8)]

/-- The character that the text behind a backslash stands for, and the length of that text. -/
def escape? : List Char → Option (Char × Nat)
  | [] => none
  | letter :: rest =>
    match digitCounts.lookup letter with
    | some count => (coded count rest).map fun character => (character, count + 1)
    | none => (escapes.lookup letter).map fun code => (Char.ofNat code, 1)

/-- Reads a text behind its opening quote up to the closing one; `fuel` bounds its length. -/
def quoted (single : Bool) : Nat → Cursor → Option (List Char × Cursor)
  | 0, _ => none
  | fuel + 1, cursor =>
    if cursor.isAtSeparator then none
    else
      match single, cursor.rest with
      | _, [] => none
      | true, '\'' :: '\'' :: _ => do
        let (characters, behind) ← quoted single fuel (cursor.skipMany 2)
        some ('\'' :: characters, behind)
      | true, '\'' :: _ | false, '"' :: _ => some ([], cursor.skip)
      | false, '\\' :: rest =>
        if rest.head?.any isBreak then do
          let lines := cursor.skip.skipBreak
          let (breaks, behind) ← Gap.readBreaks 0 (lines.rest.length + 1) lines
          let (characters, behind) ← quoted single fuel behind
          some (breaks ++ characters, behind)
        else do
          let (character, length) ← escape? rest
          let (characters, behind) ← quoted single fuel (cursor.skipMany (length + 1))
          some (character :: characters, behind)
      | _, character :: _ =>
        if isGap [character] then do
          let (gap, behind) ← Gap.read 0 cursor
          let (characters, behind) ← quoted single fuel behind
          some (gap.text ++ characters, behind)
        else do
          let (characters, behind) ← quoted single fuel cursor.skip
          some (character :: characters, behind)

/-! ## No quotes -/

/-- The marks of collections in a row. -/
def isFlowMark (character : Char) : Bool := [',', '[', ']', '{', '}'].contains character

/-- The marks, other than those, that a scalar without quotes must not begin with. -/
def reserved : List Char := ['#', '&', '*', '!', '|', '>', '\'', '"', '%', '@', '\x60']

/-- Whether a scalar without quotes may begin here. -/
def startsPlain (inFlow : Bool) : List Char → Bool
  | [] => false
  | mark :: rest =>
    if mark = '-' then !isGap rest
    else if mark = '?' || mark = ':' then !inFlow && !isGap rest
    else !isGap [mark] && !isFlowMark mark && !reserved.contains mark

/-- The length of the word at the front of a text.  It ends at a blank, at the colon behind a
key and, in a collection in a row, at the marks of that collection. -/
def wordLength (inFlow : Bool) : List Char → Option Nat
  | [] => some 0
  | character :: rest =>
    if isGap [character] then some 0
    else if inFlow && character = ':'
        && rest.head?.any (fun mark => mark = '?' || isFlowMark mark) then none
    else if (character = ':' && isGap rest) || (inFlow && isFlowMark character) then some 0
    else (wordLength inFlow rest).map (· + 1)

/-- A scalar without quotes: what it says, where it ends, and whether a line has ended behind
its last word. -/
structure Plain where
  characters : List Char
  behind : Cursor
  endsLine : Bool
  deriving DecidableEq, Repr, Inhabited

/-- Reads a scalar without quotes, whose further lines are indented at least up to `margin`;
`fuel` bounds the number of words. -/
def plain (inFlow : Bool) (margin : Nat) : Nat → Cursor → Option Plain
  | 0, _ => none
  | fuel + 1, cursor => do
    let length ← wordLength inFlow cursor.rest
    let word := cursor.rest.take length
    let behind := cursor.skipMany length
    if behind.rest.isEmpty || !isGap behind.rest then some ⟨word, behind, false⟩
    else
      let (gap, next) ← Gap.read margin behind
      let isOver := (!inFlow && next.column < margin) || next.isAtSeparator
        || next.rest.head? == some '#'
      let more ← if isOver then some 0 else wordLength inFlow next.rest
      if more = 0 then some ⟨word, next, !gap.breaks.isEmpty⟩
      else
        let found ← plain inFlow margin fuel next
        some { found with characters := word ++ gap.text ++ found.characters }

/-! ## Blocks -/

/-- What becomes of the ends of lines behind a block. -/
inductive Chomping where
  /-- One end of a line stays. -/
  | clip
  | strip
  | keep
  deriving DecidableEq, Repr, Inhabited

/-- The mark of what becomes of the ends of lines, and what follows it. -/
def chompingMark (cursor : Cursor) : Option Chomping × Cursor :=
  match cursor.rest with
  | '+' :: _ => (some .keep, cursor.skip)
  | '-' :: _ => (some .strip, cursor.skip)
  | _ => (none, cursor)

/-- The mark of how much further than its key a block is indented, and what follows it. -/
def stepMark (cursor : Cursor) : Option (Option Nat × Cursor) :=
  match cursor.rest.head?.bind (Text.Natural.digit? 10) with
  | some 0 => none
  | some step => some (some step, cursor.skip)
  | none => some (none, cursor)

/-- Both marks, in any order, and what follows them. -/
def blockMarks (cursor : Cursor) : Option (Chomping × Option Nat × Cursor) :=
  match chompingMark cursor with
  | (some chomping, cursor) => (stepMark cursor).map fun (step, cursor) => (chomping, step, cursor)
  | (none, cursor) => (stepMark cursor).map fun (step, cursor) =>
    let (chomping, cursor) := chompingMark cursor
    (chomping.getD .clip, step, cursor)

/-- Reads the empty lines in front of a line of a block, and the blanks that the block is
indented by.  Where that is not known yet, `widest` is the widest indentation so far. -/
def emptyLines (indent : Option Nat) : Nat → Nat → Cursor → Option (List Char × Nat × Cursor)
  | 0, widest, cursor => some ([], widest, cursor)
  | fuel + 1, widest, cursor =>
    let isOpen := indent.all (cursor.column < ·)
    match cursor.rest with
    | ' ' :: _ =>
      if isOpen then emptyLines indent fuel widest cursor.skip
      else some ([], max widest cursor.column, cursor)
    | character :: _ =>
      let widest := max widest cursor.column
      if character = '\t' && isOpen then none
      else if isBreak character then
        (emptyLines indent fuel widest cursor.skipBreak).map fun (breaks, widest, behind) =>
          (cursor.lineEnd :: breaks, widest, behind)
      else some ([], widest, cursor)
    | [] => some ([], max widest cursor.column, cursor)

/-- The lines of a block as far as they are read. -/
structure Lines where
  characters : List Char
  /-- The end of the last line that is not empty. -/
  lineEnd : List Char
  /-- The ends of the empty lines behind it. -/
  breaks : List Char
  /-- Whether the last line begins with a blank. -/
  isIndented : Bool
  deriving DecidableEq, Repr, Inhabited

/-- Reads the lines of a block; `fuel` bounds their number. -/
def blockLines (literal : Bool) (indent : Nat) : Nat → Lines → Cursor → Option (Lines × Cursor)
  | 0, lines, cursor => some (lines, cursor)
  | fuel + 1, lines, cursor =>
    if cursor.column ≠ indent || cursor.rest.isEmpty then some (lines, cursor)
    else do
      let isIndented := cursor.rest.head?.any isBlank
      let joint :=
        if !literal && lines.lineEnd == ['\n'] && !lines.isIndented && !isIndented then
          if lines.breaks.isEmpty then [' '] else lines.breaks
        else lines.lineEnd ++ lines.breaks
      let row := cursor.rest.takeWhile fun character => !isBreak character
      let behind := cursor.skipMany row.length
      let lineEnd := if behind.rest.isEmpty then [] else [behind.lineEnd]
      let next := if behind.rest.isEmpty then behind else behind.skipBreak
      let (breaks, _, next) ← emptyLines (some indent) (next.rest.length + 1) 0 next
      blockLines literal indent fuel
        ⟨lines.characters ++ joint ++ row, lineEnd, breaks, isIndented⟩ next

/-- Reads a block behind its mark; `margin` is the least column of its lines. -/
def block (literal : Bool) (margin : Nat) (cursor : Cursor) : Option (List Char × Cursor) := do
  let (chomping, step, cursor) ← blockMarks cursor
  let cursor := cursor.skipComment
  if !cursor.isAtLineEnd then none
  else
    let cursor := if cursor.rest.isEmpty then cursor else cursor.skipBreak
    let fuel := cursor.rest.length + 1
    let known := step.map fun step => if margin = 0 then step else margin - 1 + step
    let (breaks, widest, cursor) ← emptyLines known fuel 0 cursor
    let indent := known.getD (max (max widest margin) 1)
    let (lines, cursor) ← blockLines literal indent fuel ⟨[], [], breaks, false⟩ cursor
    let ending :=
      match chomping with
      | .strip => []
      | .clip => lines.lineEnd
      | .keep => lines.lineEnd ++ lines.breaks
    some (lines.characters ++ ending, cursor)

end Modbus.Document.Yaml
