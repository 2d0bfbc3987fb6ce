import Modbus.Text.Natural
import Modbus.Text.Split

/-!
# Network addresses

An address of 32 bits is written as up to four numbers between points, the last
of which takes up all the octets that are left.  A number is decimal, octal
behind a zero, or hexadecimal.
-/

namespace Modbus.Address

def number? (most : Nat) (digits : List Char) : Option Nat :=
  let (radix, digits) :=
    match digits with
    | '0' :: 'x' :: rest | '0' :: 'X' :: rest => (16, rest)
    | '0' :: digit :: rest => (8, digit :: rest)
    | digits => (10, digits)
  if digits.head? == some '+' then none else Text.Natural.parse? radix most digits

/-- The value of a row of numbers that take up so many octets. -/
def value? : Nat → List (List Char) → Option Nat
  | 0, _ | _, [] => none
  | octets + 1, [digits] => number? (Nat.pow 256 (octets + 1) - 1) digits
  | octets + 1, digits :: rest => do
    let number ← number? 255 digits
    let below ← value? octets rest
    some (number * Nat.pow 256 octets + below)

def ofText? (text : String) : Option Nat := value? 4 (Text.Split.parts '.' text.toList)

/-- Whether an address is one by which a machine knows itself: any of its own, or one of a
block that leads back to it. -/
def isOwn (address : Nat) : Bool := address = 0 || address / Nat.pow 256 3 = 127

end Modbus.Address
