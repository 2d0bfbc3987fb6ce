import Modbus.Document.Yaml.Layout

/-!
# Nodes

The tokens of a text make up one node, in which others lie.  A node may have a
number, by which it can be referred to elsewhere, and a tag that says what it
is.  What is left out where a node is expected is an empty scalar.
-/

namespace Modbus.Document.Yaml

/-- What stands in front of a node. -/
structure Properties where
  number : Option Nat
  tag : Option String
  deriving DecidableEq, Repr, Inhabited

/-- A node. -/
inductive Node where
  /-- Stands for the node with a number. -/
  | reference (number : Nat)
  | scalar (properties : Properties) (isPlain : Bool) (characters : List Char)
  | sequence (properties : Properties) (items : List Node)
  | mapping (properties : Properties) (entries : List (Node × Node))
  deriving Repr, Inhabited

namespace Node

/-- A node without anything in front of it. -/
def unmarked : Properties := ⟨none, none⟩

/-- The scalar that stands where a node is left out. -/
def empty (properties : Properties) : Node := scalar properties true []

/-! ## Properties -/

/-- What handles of tags stand for. -/
abbrev Handles := List (String × String)

/-- The handles that every text has. -/
def commonHandles : Handles := [("!", "!"), ("!!", "tag:yaml.org,2002:")]

/-- The tag that a handle and a text stand for. -/
def tagOf (handles : Handles) (handle suffix : String) : Option String :=
  if handle.isEmpty then some suffix else (handles.lookup handle).map (· ++ suffix)

/-- The properties at the front, in any order, and what follows them. -/
def properties (handles : Handles) : List Token → Option (Properties × List Token)
  | .anchor number :: .tag handle suffix :: rest
  | .tag handle suffix :: .anchor number :: rest =>
    (tagOf handles handle suffix).map fun tag => (⟨some number, some tag⟩, rest)
  | .anchor number :: rest => some (⟨some number, none⟩, rest)
  | .tag handle suffix :: rest =>
    (tagOf handles handle suffix).map fun tag => (⟨none, some tag⟩, rest)
  | rest => some (unmarked, rest)

/-- The tag of a scalar; a lone exclamation mark stands for none, and the scalar then counts
as one without quotes. -/
def scalarOf (properties : Properties) (isPlain : Bool) (characters : List Char) : Node :=
  scalar { properties with tag := properties.tag.filter (· != "!") } isPlain characters

/-! ## Collections -/

/-- Whether an item of a sequence is left out. -/
def endsItem : List Token → Bool
  | [] | .entry :: _ | .blockEnd :: _ => true
  | _ => false

/-- Whether a key or a value of a mapping is left out, or an item of a sequence that is not
indented. -/
def endsEntry : List Token → Bool
  | [] | .key :: _ | .value :: _ | .blockEnd :: _ => true
  | _ => false

/-- Whether an item of a collection in a row is left out. -/
def endsFlow (close : Token) : List Token → Bool
  | [] => true
  | token :: _ => token == .flowEntry || token == close

mutual

/-- The node at the front of the tokens, and what follows it.  Where `inBlock` is set, it may
be written by indentation; where `indentless` is set, its items need not be indented. -/
def read (handles : Handles) (inBlock indentless : Bool) :
    Nat → List Token → Option (Node × List Token)
  | 0, _ => none
  | _ + 1, .reference number :: rest => some (reference number, rest)
  | fuel + 1, tokens => do
    let (properties, rest) ← properties handles tokens
    match inBlock, indentless, rest with
    | _, true, .entry :: _ =>
      let (items, rest) ← looseItems handles fuel rest
      some (sequence properties items, rest)
    | _, _, .scalar isPlain characters :: rest =>
      some (scalarOf properties isPlain characters, rest)
    | _, _, .flowSequenceStart :: rest =>
      let (items, rest) ← flowItems handles true fuel rest
      some (sequence properties items, rest)
    | _, _, .flowMappingStart :: rest =>
      let (entries, rest) ← flowEntries handles true fuel rest
      some (mapping properties entries, rest)
    | true, _, .sequenceStart :: rest =>
      let (items, rest) ← items handles fuel rest
      some (sequence properties items, rest)
    | true, _, .mappingStart :: rest =>
      let (entries, rest) ← entries handles fuel rest
      some (mapping properties entries, rest)
    | _, _, rest => if properties == unmarked then none else some (empty properties, rest)

/-- A node that may be left out. -/
def readUnless (handles : Handles) (isOut inBlock indentless : Bool) :
    Nat → List Token → Option (Node × List Token)
  | 0, _ => none
  | fuel + 1, tokens =>
    if isOut then some (empty unmarked, tokens) else read handles inBlock indentless fuel tokens

/-- The items of a sequence that is written by indentation. -/
def items (handles : Handles) : Nat → List Token → Option (List Node × List Token)
  | 0, _ => none
  | fuel + 1, tokens =>
    match tokens with
    | .entry :: rest => do
      let (item, rest) ← readUnless handles (endsItem rest) true false fuel rest
      let (others, rest) ← items handles fuel rest
      some (item :: others, rest)
    | .blockEnd :: rest => some ([], rest)
    | _ => none

/-- The items of a sequence that is not indented further than the key in front of it. -/
def looseItems (handles : Handles) : Nat → List Token → Option (List Node × List Token)
  | 0, _ => none
  | fuel + 1, tokens =>
    match tokens with
    | .entry :: rest => do
      let isOut := endsItem rest || endsEntry rest
      let (item, rest) ← readUnless handles isOut true false fuel rest
      let (others, rest) ← looseItems handles fuel rest
      some (item :: others, rest)
    | rest => some ([], rest)

/-- The entries of a mapping that is written by indentation. -/
def entries (handles : Handles) : Nat → List Token → Option (List (Node × Node) × List Token)
  | 0, _ => none
  | fuel + 1, tokens =>
    match tokens with
    | .key :: rest => do
      let (key, rest) ← readUnless handles (endsEntry rest) true true fuel rest
      let (value, rest) ← valueOf handles fuel rest
      let (others, rest) ← entries handles fuel rest
      some ((key, value) :: others, rest)
    | .blockEnd :: rest => some ([], rest)
    | _ => none

/-- The value behind a key. -/
def valueOf (handles : Handles) : Nat → List Token → Option (Node × List Token)
  | 0, _ => none
  | fuel + 1, tokens =>
    match tokens with
    | .value :: rest => readUnless handles (endsEntry rest) true true fuel rest
    | rest => some (empty unmarked, rest)

/-- The items of a sequence in a row, with a comma in front of all but the first. -/
def flowItems (handles : Handles) (isFirst : Bool) :
    Nat → List Token → Option (List Node × List Token)
  | 0, _ => none
  | fuel + 1, tokens =>
    match isFirst, tokens with
    | _, .flowSequenceEnd :: rest => some ([], rest)
    | false, .flowEntry :: .flowSequenceEnd :: rest => some ([], rest)
    | false, .flowEntry :: rest | true, rest => do
      let (item, rest) ← flowItem handles fuel rest
      let (others, rest) ← flowItems handles false fuel rest
      some (item :: others, rest)
    | _, _ => none

/-- An item of a sequence in a row; a key in it makes up a mapping with one entry.  Where the
key is left out, the mark behind it is passed over. -/
def flowItem (handles : Handles) : Nat → List Token → Option (Node × List Token)
  | 0, _ => none
  | fuel + 1, tokens =>
    match tokens with
    | .key :: rest => do
      let isOut := endsFlow .flowSequenceEnd rest || rest.head? == some .value
      let behind := if isOut then rest.drop 1 else rest
      let (key, rest) ← readUnless handles isOut false false fuel behind
      let (value, rest) ← flowValue handles .flowSequenceEnd fuel rest
      some (mapping unmarked [(key, value)], rest)
    | rest => read handles false false fuel rest

/-- The entries of a mapping in a row, with a comma in front of all but the first. -/
def flowEntries (handles : Handles) (isFirst : Bool) :
    Nat → List Token → Option (List (Node × Node) × List Token)
  | 0, _ => none
  | fuel + 1, tokens =>
    match isFirst, tokens with
    | _, .flowMappingEnd :: rest => some ([], rest)
    | false, .flowEntry :: .flowMappingEnd :: rest => some ([], rest)
    | false, .flowEntry :: rest | true, rest => do
      let (entry, rest) ← flowEntry handles fuel rest
      let (others, rest) ← flowEntries handles false fuel rest
      some (entry :: others, rest)
    | _, _ => none

/-- An entry of a mapping in a row; without a key mark it has a key only. -/
def flowEntry (handles : Handles) : Nat → List Token → Option ((Node × Node) × List Token)
  | 0, _ => none
  | fuel + 1, tokens =>
    match tokens with
    | .key :: rest => do
      let isOut := endsFlow .flowMappingEnd rest || rest.head? == some .value
      let (key, rest) ← readUnless handles isOut false false fuel rest
      let (value, rest) ← flowValue handles .flowMappingEnd fuel rest
      some ((key, value), rest)
    | rest => do
      let (key, rest) ← read handles false false fuel rest
      some ((key, empty unmarked), rest)

def flowValue (handles : Handles) (close : Token) : Nat → List Token → Option (Node × List Token)
  | 0, _ => none
  | fuel + 1, tokens =>
    match tokens with
    | .value :: rest => readUnless handles (endsFlow close rest) false false fuel rest
    | rest => some (empty unmarked, rest)

end

/-! ## Parts -/

mutual

/-- A node and all that lie in it, in the order of the text. -/
def all : Node → List Node
  | reference number => [reference number]
  | scalar properties isPlain characters => [scalar properties isPlain characters]
  | sequence properties items => sequence properties items :: allOfItems items
  | mapping properties entries => mapping properties entries :: allOfEntries entries

def allOfItems : List Node → List Node
  | [] => []
  | item :: rest => all item ++ allOfItems rest

def allOfEntries : List (Node × Node) → List Node
  | [] => []
  | (key, value) :: rest => all key ++ all value ++ allOfEntries rest

end

def number? : Node → Option Nat
  | reference _ => none
  | scalar properties _ _ | sequence properties _ | mapping properties _ => properties.number

/-- How many marks a node itself takes up: a collection has one at either end. -/
def marks : Node → Nat
  | reference _ | scalar _ _ _ => 1
  | sequence _ _ | mapping _ _ => 2

/-! ## Texts -/

/-- The handles that directives in front of a document give, and the document; only behind
directives it needs the mark in front. -/
def handlesOf (hasVersion : Bool) (found : Handles) : List Token → Option (Handles × List Token)
  | .version major minor :: rest =>
    if hasVersion || major ≠ 1 || (minor ≠ 1 && minor ≠ 2) then none
    else handlesOf true found rest
  | .tagHandle handle meaning :: rest =>
    if (found.lookup handle).isSome then none
    else handlesOf hasVersion ((handle, meaning) :: found) rest
  | .documentStart :: rest => some (found ++ commonHandles, .documentStart :: rest)
  | rest => if hasVersion || !found.isEmpty then none else some (commonHandles, rest)

def endsDocument : List Token → Bool
  | [] | .documentEnd :: _ | .documentStart :: _ | .version _ _ :: _ | .tagHandle _ _ :: _ => true
  | _ => false

/-- The node of a text that is one document; a text without any token has no node. -/
def ofTokens? (tokens : List Token) : Option (Option Node) := do
  if tokens.isEmpty then some none
  else
    let (handles, rest) ← handlesOf false [] tokens
    let fuel := 3 * tokens.length + 3
    let (node, rest) ←
      match rest with
      | .documentStart :: rest => readUnless handles (endsDocument rest) true false fuel rest
      | rest => read handles true false fuel rest
    if rest.all (· == .documentEnd) then some (some node) else none

end Node

end Modbus.Document.Yaml
