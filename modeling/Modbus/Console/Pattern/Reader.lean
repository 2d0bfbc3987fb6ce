import Modbus.Console.Pattern.Tree
import Modbus.Text.Alphanumeric
import Modbus.Text.Blank
import Modbus.Text.Natural

/-!
# Reading search patterns

A pattern is read from left to right.  Of each group and each class that is not
closed yet, what stands around it is kept.  A pattern has a tree if its groups
are closed, what is repeated is there, and its classes and escapes are complete;
numbers of repetitions are not known.
-/

namespace Modbus.Console.Pattern

/-- A pattern without white space and comments in front. -/
def trimmed (inComment : Bool) : List Char → List Char
  | [] => []
  | character :: rest =>
    if inComment then trimmed (character != '\n') rest
    else if Text.isBlank character then trimmed false rest
    else if character = '#' then trimmed true rest
    else character :: rest

namespace Mode

def start : Mode := ⟨false, true, false⟩

/-- What follows, without what means nothing. -/
def skip (mode : Mode) (rest : List Char) : List Char :=
  if mode.isSpaced then trimmed false rest else rest

def switch (mode : Mode) (letters : List Char) : Mode :=
  let off := letters.dropWhile (· != '-')
  let state (letter : Char) (before : Bool) : Bool :=
    if off.contains letter then false else letters.contains letter || before
  ⟨state 'x' mode.isSpaced, state 'u' mode.isUnicode, state 'i' mode.ignoresCase⟩

end Mode

/-! ## Escapes -/

/-- The digits of a code, of which there are exactly so many. -/
def digits? (mode : Mode) : Nat → Nat → List Char → Option (Nat × List Char)
  | 0, code, rest => some (code, rest)
  | count + 1, code, rest =>
    match mode.skip rest with
    | character :: rest => do
      let digit ← Text.Natural.digit? 16 character
      digits? mode count (16 * code + digit) rest
    | [] => none

/-- How many digits follow a letter that takes some. -/
def digitCounts : List (Char × Nat) := [('x', 2), ('u', 4), ('U', 8)]

/-- The letters that stand for control characters. -/
def controls : List (Char × Nat) :=
  [('a', 7), ('f', 12), ('t', 9), ('n', 10), ('r', 13), ('v', 11)]

/-- The leaf that an escape behind a backslash is, and what follows it. -/
def escape? (mode : Mode) : List Char → Option (Leaf × List Char)
  | [] => none
  | mark :: rest =>
    match digitCounts.lookup mark, controls.lookup mark with
    | some count, _ => do
      let (code, rest) ← digits? mode count 0 rest
      if code.isValidChar then some (.literal ⟨code, mark = 'x'⟩, mode.skip rest) else none
    | none, some code => some (.literal ⟨code, false⟩, rest)
    | none, none =>
      if ['d', 's', 'w', 'D', 'S', 'W'].contains mark then some (.kind mark.isUpper, rest)
      else if ['A', 'z'].contains mark then some (.anchor, rest)
      else if ['b', 'B', '<', '>'].contains mark then
        if mark = 'b' && rest.head? == some '\x7b' then none else some (.edge, rest)
      else if mark.toNat ≤ lastAscii && !mark.isAlphanum then some (.literal (.ofChar mark), rest)
      else none

/-! ## Classes -/

def asciiClasses : List String :=
  ["alnum", "alpha", "ascii", "blank", "cntrl", "digit", "graph", "lower", "print", "punct",
   "space", "upper", "word", "xdigit"]

def namedClass? : List Char → Option (Members × List Char)
  | ':' :: rest =>
    let (others, rest) :=
      match rest with
      | '^' :: rest => (true, rest)
      | rest => (false, rest)
    let name := rest.takeWhile (· != ':')
    match rest.drop name.length with
    | ':' :: ']' :: rest =>
      if asciiClasses.contains (String.ofList name) then some (.named others, rest) else none
    | _ => none
  | _ => none

def member? (mode : Mode) : List Char → Option (Members × List Char)
  | [] => none
  | '\\' :: rest => do
    match ← escape? mode rest with
    | (.literal literal, rest) => some (.single literal, rest)
    | (.kind others, rest) => some (.kind others, rest)
    | _ => none
  | character :: rest => some (.single (.ofChar character), rest)

/-- The character behind a hyphen that decides whether the hyphen stands for a range.  Where
white space means nothing, it is the first other character behind at most one number sign. -/
def decider? (mode : Mode) (behind : List Char) : Option Char :=
  if mode.isSpaced then
    let next :=
      match behind.dropWhile Text.isBlank with
      | '#' :: next => next.dropWhile Text.isBlank
      | next => next
    next.head?.or behind.head?
  else behind.head?

def memberOrRange? (mode : Mode) (rest : List Char) : Option (Members × List Char) := do
  let (first, rest) ← member? mode rest
  match mode.skip rest with
  | '-' :: behind =>
    if [']', '-'].any fun mark => decider? mode behind == some mark then
      some (first, '-' :: behind)
    else
      match first, ← member? mode (mode.skip behind) with
      | .single low, (.single high, rest) =>
        if low.code ≤ high.code then some (.range low high, rest) else none
      | _, _ => none
  | rest => some (first, rest)

/-- A class that is not closed yet. -/
structure OpenClass where
  /-- Whether the class stands for what is outside it. -/
  others : Bool
  /-- The members of its last row, the last of them first. -/
  items : List Members
  /-- The members in front of the last operator. -/
  left? : Option Members
  deriving Repr, Inhabited

namespace OpenClass

def push (inside : OpenClass) (item : Members) : OpenClass :=
  { inside with items := item :: inside.items }

def members (inside : OpenClass) : Members :=
  let last := .row inside.items.reverse
  (inside.left?.map fun left => .joined left last).getD last

/-- A class behind an operator. -/
def join (inside : OpenClass) : OpenClass :=
  { inside with items := [], left? := some inside.members }

/-- The hyphens a class begins with, and what follows them; `fuel` bounds their number. -/
def hyphens (mode : Mode) : Nat → List Char → List Members × List Char
  | fuel + 1, '-' :: rest =>
    let (items, rest) := hyphens mode fuel (mode.skip rest)
    (.single (.ofChar '-') :: items, rest)
  | _, rest => ([], rest)

/-- The class behind an opening bracket with what only stands for itself there, and what
follows. -/
def start (mode : Mode) (rest : List Char) : OpenClass × List Char :=
  let (others, rest) :=
    match mode.skip rest with
    | '^' :: rest => (true, mode.skip rest)
    | rest => (false, rest)
  match hyphens mode rest.length rest with
  | ([], ']' :: rest) => (⟨others, [.single (.ofChar ']')], none⟩, mode.skip rest)
  | (items, rest) => (⟨others, items, none⟩, rest)

end OpenClass

/-- The leaf that a class is whose beginning is read, and what follows it.  `around` are the
classes it stands in, and `fuel` bounds the number of members. -/
def class? (mode : Mode) : Nat → OpenClass → List OpenClass → List Char →
    Option (Leaf × List Char)
  | 0, _, _, _ => none
  | fuel + 1, inside, around, rest =>
    match mode.skip rest with
    | [] => none
    | ']' :: rest =>
      match around with
      | [] => some (.oneOf inside.others inside.members, rest)
      | outside :: around =>
        class? mode fuel (outside.push (.inner inside.others inside.members)) around rest
    | '&' :: '&' :: rest | '-' :: '-' :: rest | '~' :: '~' :: rest =>
      class? mode fuel inside.join around rest
    | '[' :: rest =>
      match namedClass? rest with
      | some (item, rest) => class? mode fuel (inside.push item) around rest
      | none =>
        let (inner, rest) := OpenClass.start mode rest
        class? mode fuel inner (inside :: around) rest
    | rest => do
      let (item, rest) ← memberOrRange? mode rest
      class? mode fuel (inside.push item) around rest

/-! ## Groups -/

/-- Whether a character may stand in the name of a group. -/
def isNameCharacter (isFirst : Bool) (character : Char) : Bool :=
  character == '_'
    || if isFirst then Text.isAlphabetic character
      else Text.isAlphanumeric character || ['.', '[', ']'].contains character

def modeLetters : List Char := ['i', 'm', 's', 'U', 'u', 'R', 'x']

/-- The letters up to the end of a list of modes, each once; a hyphen stands in front of those
that are switched off. -/
def modes? (seen : List Char) : List Char → Option (List Char × List Char)
  | [] => none
  | character :: rest =>
    if character = ':' || character = ')' then
      if seen.head? == some '-' then none else some (seen.reverse, character :: rest)
    else if seen.contains character || !(modeLetters ++ ['-']).contains character then none
    else modes? (character :: seen) rest

/-- What stands around a group that is not closed yet. -/
structure Around where
  mode : Mode
  parts : List Tree
  branches : List Tree
  deriving Repr, Inhabited

/-- How far a pattern is read. -/
structure Reading where
  rest : List Char
  mode : Mode
  /-- The parts of the last branch, the last of them first. -/
  parts : List Tree
  /-- The branches in front of the last one, the last of them first. -/
  branches : List Tree
  around : List Around
  names : List (List Char)
  deriving Repr, Inhabited

namespace Reading

def start (pattern : List Char) : Reading := ⟨pattern, .start, [], [], [], []⟩

def push (reading : Reading) (part : Tree) (rest : List Char) : Reading :=
  { reading with rest := rest, parts := part :: reading.parts }

def pushLeaf (reading : Reading) (leaf : Leaf) (rest : List Char) : Reading :=
  reading.push (.leaf reading.mode leaf) rest

/-- All branches since the last parenthesis. -/
def allBranches (reading : Reading) : List Tree :=
  .sequence reading.parts.reverse :: reading.branches

/-- The tree of what is read since the last parenthesis. -/
def content (reading : Reading) : Tree := .choice reading.allBranches.reverse

def openGroup (reading : Reading) (mode : Mode) (rest : List Char) : Reading :=
  { reading with
    rest := rest, mode := mode, parts := [], branches := [],
    around := ⟨reading.mode, reading.parts, reading.branches⟩ :: reading.around }

def openNamed (reading : Reading) (rest : List Char) : Option Reading :=
  let name := rest.takeWhile (· != '>')
  match name, rest.drop name.length with
  | first :: others, '>' :: rest =>
    if isNameCharacter true first && others.all (isNameCharacter false)
        && !reading.names.contains name then
      some { reading.openGroup reading.mode rest with names := name :: reading.names }
    else none
  | _, _ => none

/-- Reads what follows an opening parenthesis. -/
def group (reading : Reading) (rest : List Char) : Option Reading :=
  match reading.mode.skip rest with
  | '?' :: '=' :: _ | '?' :: '!' :: _ | '?' :: '<' :: '=' :: _ | '?' :: '<' :: '!' :: _ => none
  | '?' :: 'P' :: '<' :: rest | '?' :: '<' :: rest => reading.openNamed rest
  | '?' :: rest =>
    match modes? [] rest with
    | some (letters, ':' :: rest) => some (reading.openGroup (reading.mode.switch letters) rest)
    | some (letters, _ :: rest) =>
      if letters.isEmpty then none
      else some { reading.pushLeaf .modes rest with mode := reading.mode.switch letters }
    | _ => none
  | rest => some (reading.openGroup reading.mode rest)

def closeGroup (reading : Reading) (rest : List Char) : Option Reading :=
  match reading.around with
  | [] => none
  | outside :: around =>
    some { reading with
      rest := rest, mode := outside.mode, parts := .group reading.content :: outside.parts,
      branches := outside.branches, around := around }

/-- Begins another branch. -/
def branch (reading : Reading) (rest : List Char) : Reading :=
  { reading with rest := rest, parts := [], branches := reading.allBranches }

def repeatLast (reading : Reading) (rest : List Char) : Option Reading :=
  match reading.parts with
  | part :: parts =>
    if part.isModes then none
    else some { reading with rest := rest, parts := .repeated part :: parts }
  | [] => none

/-- Reads the next part of a pattern that is not at its end. -/
def step (reading : Reading) (character : Char) (rest : List Char) : Option Reading :=
  match character with
  | '(' => reading.group rest
  | ')' => reading.closeGroup rest
  | '|' => some (reading.branch rest)
  | '[' => do
    let (inside, rest) := OpenClass.start reading.mode rest
    let (leaf, rest) ← class? reading.mode (rest.length + 1) inside [] rest
    some (reading.pushLeaf leaf rest)
  | '?' | '*' | '+' =>
    -- A question mark right behind the operator only says which match comes first.
    match rest with
    | '?' :: rest | rest => reading.repeatLast rest
  | '\x7b' => none
  | '\\' => do
    let (leaf, rest) ← escape? reading.mode rest
    some (reading.pushLeaf leaf rest)
  | '.' => some (reading.pushLeaf .any rest)
  | '^' | '$' => some (reading.pushLeaf .anchor rest)
  | character => some (reading.pushLeaf (.literal (.ofChar character)) rest)

/-- Reads to the end; `fuel` bounds the number of parts. -/
def finish? : Nat → Reading → Option Tree
  | 0, _ => none
  | fuel + 1, reading =>
    match reading.mode.skip reading.rest with
    | [] => if reading.around.isEmpty then some reading.content else none
    | character :: rest => do finish? fuel (← reading.step character rest)

end Reading

def Tree.parse? (pattern : List Char) : Option Tree :=
  (Reading.start pattern).finish? (pattern.length + 1)

end Modbus.Console.Pattern
