/-!
# The form of search patterns

A pattern is read as a tree.  Its leaves stand for characters or for places
between them, and each knows the mode it is read in.  What decides whether a tree
can be used is how deep it is nested and what its leaves ask for: of letters,
digits and white space only those of ASCII are known, and no leaf may match a
part of a character.
-/

namespace Modbus.Console.Pattern

/-- How a part of a pattern is read. -/
structure Mode where
  /-- Whether white space and comments mean nothing. -/
  isSpaced : Bool
  /-- Whether characters are matched; otherwise it is octets. -/
  isUnicode : Bool
  /-- Whether small letters and capitals are the same. -/
  ignoresCase : Bool
  deriving DecidableEq, Repr, Inhabited

def lastAscii : Nat := 0x7F

/-- A character that stands for itself. -/
structure Literal where
  code : Nat
  /-- Whether it is written as an octet. -/
  isOctet : Bool
  deriving DecidableEq, Repr, Inhabited

namespace Literal

def ofChar (character : Char) : Literal := ⟨character.toNat, false⟩

/-- Whether a character can be matched in a mode: no case is known but that of ASCII, and an
octet behind ASCII is a part of a character. -/
def isUsable (mode : Mode) (literal : Literal) : Bool :=
  if mode.isUnicode then !mode.ignoresCase else !literal.isOctet || literal.code ≤ lastAscii

/-- Whether a character can be a member of a class.  A class of octets has no others than those
of ASCII. -/
def canBeMember (mode : Mode) (literal : Literal) : Bool :=
  if mode.isUnicode then !mode.ignoresCase else literal.code ≤ lastAscii

end Literal

/-- Whether a mode knows the digits, the white space and the characters of words, or all others:
the kinds are known for octets only, and the others are parts of characters. -/
def Mode.knowsKind (mode : Mode) (others : Bool) : Bool := !mode.isUnicode && !others

/-- Whether a mode has the characters outside a class. -/
def Mode.allows (mode : Mode) (others : Bool) : Bool := mode.isUnicode || !others

/-- How deep a row is nested: one level more than its items, if it has several. -/
def rowDepth (count deepest : Nat) : Nat := if 1 < count then deepest + 1 else deepest

/-! ## Classes -/

/-- What a class of characters is made of. -/
inductive Members where
  | single (literal : Literal)
  | range (low high : Literal)
  /-- A class of ASCII with a name, or what is outside it. -/
  | named (others : Bool)
  /-- Digits, white space or the characters of words, or all others. -/
  | kind (others : Bool)
  /-- A class in a class, or what is outside it. -/
  | inner (others : Bool) (members : Members)
  /-- What an operator makes of two sides. -/
  | joined (left right : Members)
  | row (items : List Members)
  deriving Repr, Inhabited

namespace Members

mutual

/-- How deep the members of a class are nested. -/
def depth : Members → Nat
  | inner _ members => members.depth + 1
  | joined left right => max left.depth right.depth + 1
  | row items => rowDepth items.length (deepest items)
  | single _ | range _ _ | named _ | kind _ => 0

/-- The depth of the deepest item. -/
def deepest : List Members → Nat
  | [] => 0
  | item :: rest => max item.depth (deepest rest)

end

mutual

/-- Whether a class can be matched in a mode. -/
def isUsable (mode : Mode) : Members → Bool
  | single literal => literal.canBeMember mode
  | range low high => low.canBeMember mode && high.canBeMember mode
  | named others => if mode.isUnicode then !mode.ignoresCase else !others
  | kind others => mode.knowsKind others
  | inner others members => mode.allows others && members.isUsable mode
  | joined left right => left.isUsable mode && right.isUsable mode
  | row items => areUsable mode items

/-- Whether all items of a row can be matched in a mode. -/
def areUsable (mode : Mode) : List Members → Bool
  | [] => true
  | item :: rest => item.isUsable mode && areUsable mode rest

end

end Members

/-! ## Trees -/

/-- What a pattern is made of in the end. -/
inductive Leaf where
  /-- A change of the mode. -/
  | modes
  | literal (literal : Literal)
  | any
  | anchor
  /-- The edge of a word. -/
  | edge
  /-- A digit, white space or a character of a word, or any other. -/
  | kind (others : Bool)
  /-- A member of a class, or what is outside it. -/
  | oneOf (others : Bool) (members : Members)
  deriving Repr, Inhabited

namespace Leaf

/-- How deep a leaf is nested in itself. -/
def depth : Leaf → Nat
  | oneOf _ members => members.depth + 1
  | _ => 0

/-- Whether a leaf can be matched in a mode. -/
def isUsable (mode : Mode) : Leaf → Bool
  | literal character => character.isUsable mode
  | any => mode.isUnicode
  | kind others => mode.knowsKind others
  | oneOf others members => mode.allows others && members.isUsable mode
  | modes | anchor | edge => true

def isWordEdge (mode : Mode) : Leaf → Bool
  | edge => mode.isUnicode
  | _ => false

end Leaf

/-- A pattern. -/
inductive Tree where
  | leaf (mode : Mode) (leaf : Leaf)
  | repeated (part : Tree)
  | group (content : Tree)
  | choice (branches : List Tree)
  | sequence (parts : List Tree)
  deriving Repr, Inhabited

namespace Tree

def isModes : Tree → Bool
  | leaf _ .modes => true
  | _ => false

mutual

/-- How deep a pattern is nested.  A choice or a sequence of one part is that part. -/
def depth : Tree → Nat
  | leaf _ part => part.depth
  | repeated part | group part => part.depth + 1
  | choice parts | sequence parts => rowDepth parts.length (deepest parts)

/-- The depth of the deepest part. -/
def deepest : List Tree → Nat
  | [] => 0
  | part :: rest => max part.depth (deepest rest)

end

mutual

/-- The leaves of a pattern from left to right, and the modes they are read in. -/
def leaves : Tree → List (Mode × Leaf)
  | leaf mode part => [(mode, part)]
  | repeated part | group part => part.leaves
  | choice parts | sequence parts => leavesOf parts

def leavesOf : List Tree → List (Mode × Leaf)
  | [] => []
  | part :: rest => part.leaves ++ leavesOf rest

end

end Tree

end Modbus.Console.Pattern
