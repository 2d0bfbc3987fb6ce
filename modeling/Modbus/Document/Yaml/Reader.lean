import Modbus.Document.Yaml.Node
import Modbus.Document.Yaml.Scalar

/-!
# Reading YAML

The node of a text stands for a document.  A key is what a scalar says, however
it is written and whatever its tag; of two entries with one key the later one
counts.  A reference stands for the last node of the text with its number.
Nodes must not lie in too many others, and not too many references are followed.
-/

namespace Modbus.Document.Yaml

/-! ## Scalars -/

/-- What the tags of all texts begin with. -/
def commonTag : String := "tag:yaml.org,2002:"

/-- What a scalar stands for.  A tag that is not common to all texts is refused. -/
def ofScalar (tag : Option String) (isPlain : Bool) (characters : List Char) : Option Document :=
  let said := text (String.ofList characters)
  match tag with
  | none => some (if isPlain then ofPlain characters else said)
  | some tag =>
    if tag.startsWith "!" then none
    else if tag = commonTag ++ "bool" then (booleans.lookup (String.ofList characters)).map bool
    else if tag = commonTag ++ "int" then (integer? characters).map integer
    else if tag = commonTag ++ "float" then (float? characters).map real
    else if tag = commonTag ++ "null" then
      if !characters.isEmpty && nulls.contains (String.ofList characters) then some null else none
    else some said

/-! ## Nodes -/

/-- How many collections may lie in one another. -/
def mostDepth : Nat := 128

/-- What the nodes of a text have in common. -/
structure References where
  /-- The nodes that have numbers, the last ones first. -/
  nodes : List (Nat × Node)
  /-- How many references may be followed. -/
  most : Nat
  deriving Repr, Inhabited

namespace References

/-- The references of a text, given its node. -/
def ofNode (node : Node) : References :=
  let nodes := node.all
  ⟨(nodes.filterMap fun node => node.number?.map fun number => (number, node)).reverse,
   100 * nodes.foldl (fun count node => count + node.marks) 0⟩

/-- The node that one stands for; the state counts the references that have been followed. -/
def follow (references : References) : Node → StateT Nat Option Node
  | .reference number => do
    let count ← get
    if count < references.most then
      set (count + 1)
      references.nodes.lookup number
    else failure
  | node => pure node

def keyOf (references : References) (node : Node) : StateT Nat Option String := do
  match ← references.follow node with
  | .scalar _ _ characters => pure (String.ofList characters)
  | _ => failure

end References

/-- The entries of a record with one more; an earlier one with the same key goes. -/
def put (entries : List (String × Document)) (key : String) (value : Document) :
    List (String × Document) :=
  entries.filter (fun entry => entry.1 != key) ++ [(key, value)]

/-- Whether a collection has no tag of its own; it must not have one inside another one. -/
def isCommon (properties : Properties) : Bool := properties.tag.all fun tag => !tag.startsWith "!"

/-- What a node stands for in which collections lie in one another so often at most. -/
def ofNode (references : References) : Nat → Node → StateT Nat Option Document
  | depth, node => do
    match depth, ← references.follow node with
    | _, .scalar properties isPlain characters => ofScalar properties.tag isPlain characters
    | depth + 1, .sequence properties items =>
      if isCommon properties then return list (← items.mapM (ofNode references depth))
      else failure
    | depth + 1, .mapping properties entries =>
      if isCommon properties then
        let found ← entries.foldlM (fun found (key, value) => do
          return put found (← references.keyOf key) (← ofNode references depth value)) []
        return ofFields found
      else failure
    | _, _ => failure

/-- Reads a document, which has to be a record, whatever its tag; where there is nothing, it is
one without entries. -/
def parse (source : String) : Option Document := do
  let tokens ← Token.all? source
  match ← Node.ofTokens? tokens with
  | none | some (.scalar _ true []) => some (record [])
  | some (.mapping properties entries) =>
    let references := References.ofNode (.mapping properties entries)
    (ofNode references mostDepth (.mapping Node.unmarked entries)).run' 0
  | some _ => none

end Modbus.Document.Yaml
