/-!
# Numbers read from text

A number is a row of digits of a radix, perhaps after one plus sign, and has to
fit the field it is meant for.  The first fault from the left is reported; a
character that is no digit counts before the overflow it stands behind.
-/

namespace Modbus.Text

/-- Why a text is not a number. -/
inductive NumberFault where
  | empty
  | invalidDigit
  | overflow
  deriving DecidableEq, Repr, Inhabited

/-- A fault in words. -/
def NumberFault.message : NumberFault → String
  | empty => "cannot parse integer from empty string"
  | invalidDigit => "invalid digit found in string"
  | overflow => "number too large to fit in target type"

namespace Natural

def digit? (radix : Nat) (character : Char) : Option Nat :=
  let value :=
    if '0' ≤ character ∧ character ≤ '9' then some (character.toNat - '0'.toNat)
    else if 'a' ≤ character ∧ character ≤ 'z' then some (character.toNat - 'a'.toNat + 10)
    else if 'A' ≤ character ∧ character ≤ 'Z' then some (character.toNat - 'A'.toNat + 10)
    else none
  value.filter fun value => value < radix

/-- Reads digits behind those that make up `value`; `most` is the largest number allowed. -/
def digits (radix most : Nat) (value : Nat) : List Char → Except NumberFault Nat
  | [] => .ok value
  | character :: rest =>
    match digit? radix character with
    | none => .error .invalidDigit
    | some digit =>
      let value := value * radix + digit
      if most < value then .error .overflow else digits radix most value rest

def parse (radix most : Nat) (text : List Char) : Except NumberFault Nat :=
  match text with
  | [] => .error .empty
  | ['+'] => .error .invalidDigit
  | '+' :: rest => digits radix most 0 rest
  | text => digits radix most 0 text

/-- The number that a text stands for, if it is one that is at most `most`. -/
def parse? (radix most : Nat) (text : List Char) : Option Nat :=
  (parse radix most text).toOption

end Natural

end Modbus.Text
