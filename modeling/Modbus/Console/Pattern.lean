import Modbus.Console.Pattern.Reader

/-!
# Search patterns

A search pattern is checked for whether it could be used, not run.  It has to be
complete and not nested too deep, and what it asks for has to be known.
-/

namespace Modbus.Console.Pattern

/-- Why a pattern cannot be used. -/
inductive Fault where
  | malformed
  /-- It asks for the edge of a word of any script. -/
  | wordEdge
  deriving DecidableEq, Repr, Inhabited

/-- A fault in words. -/
def Fault.message : Fault → String
  | malformed => "error building NFA"
  | wordEdge => "unsupported regex feature for DFAs: cannot build DFAs for regexes with Unicode "
      ++ "word boundaries; switch to ASCII word boundaries, or heuristically enable Unicode "
      ++ "word boundaries or use a different regex engine"

/-- How deep a pattern may be nested. -/
def mostDepth : Nat := 250

/-- Whether a pattern can be made into something that searches, edges of words apart. -/
def Tree.isUsable (tree : Tree) : Bool :=
  tree.depth ≤ mostDepth && tree.leaves.all fun (mode, part) => part.isUsable mode

/-- Refuses a pattern that cannot be used. -/
def check (pattern : List Char) : Except Fault Unit :=
  match (Tree.parse? pattern).filter Tree.isUsable with
  | none => .error .malformed
  | some tree =>
    if tree.leaves.any fun (mode, part) => part.isWordEdge mode then .error .wordEdge else .ok ()

end Modbus.Console.Pattern
