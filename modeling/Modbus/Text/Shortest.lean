import Modbus.Text.Decimal

/-!
# Shortest decimals

A decimal number stands for the floating-point number with 64 bits that is
nearest to it.  It is shown with the fewest digits that are read as that number,
of several such rows with the nearest one, of two equally near ones with the
greater, and without an exponent.
-/

namespace Modbus.Text.Shortest

open Decimal (Scientific)

/-- A quotient of whole numbers. -/
structure Quotient where
  numerator : Nat
  denominator : Nat
  deriving DecidableEq, Repr, Inhabited

/-- A whole number times a power of a base. -/
def scaled (base value : Nat) : Int → Quotient
  | .ofNat exponent => ⟨value * Nat.pow base exponent, 1⟩
  | .negSucc exponent => ⟨value, Nat.pow base (exponent + 1)⟩

namespace Quotient

def less (one other : Quotient) : Bool :=
  one.numerator * other.denominator < other.numerator * one.denominator

/-- The distance between two quotients. -/
def distance (one other : Quotient) : Quotient :=
  let left := one.numerator * other.denominator
  let right := other.numerator * one.denominator
  ⟨(left - right) + (right - left), one.denominator * other.denominator⟩

def dividedBy (one : Quotient) (base : Nat) (exponent : Int) : Quotient :=
  let power := scaled base 1 (-exponent)
  ⟨one.numerator * power.numerator, one.denominator * power.denominator⟩

/-- The greatest whole number that is not above a quotient. -/
def floor (one : Quotient) : Nat := one.numerator / one.denominator

/-- The whole number next to a quotient; halfway between two it is the even one. -/
def round (one : Quotient) : Nat :=
  let twice := 2 * (one.numerator % one.denominator)
  if one.denominator < twice || (twice = one.denominator && one.floor % 2 = 1) then one.floor + 1
  else one.floor

end Quotient

/-- A floating-point number: a whole number of at most 53 bits times a power of two. -/
structure Binary where
  mantissa : Nat
  exponent : Int
  deriving DecidableEq, Repr, Inhabited

/-- The least number that needs 53 bits. -/
def leastFull : Nat := Nat.pow 2 52

/-- The exponent of the smallest floating-point numbers. -/
def leastExponent : Int := -1074

/-- The floating-point number next to a quotient that is not zero. -/
def nearest (value : Quotient) : Binary :=
  let size := (Nat.log2 value.numerator : Int) - Nat.log2 value.denominator
  let first := size - 53
  let exponent := if (value.dividedBy 2 first).floor < 2 * leastFull then first else first + 1
  let exponent := max exponent leastExponent
  let mantissa := (value.dividedBy 2 exponent).round
  if mantissa = 2 * leastFull then ⟨leastFull, exponent + 1⟩ else ⟨mantissa, exponent⟩

namespace Binary

def quarters (number : Binary) (count : Nat) : Quotient := scaled 2 count (number.exponent - 2)

/-- The number itself. -/
def value (number : Binary) : Quotient := number.quarters (4 * number.mantissa)

/-- Whether a decimal is read as the number: it lies between the middles to both
neighbours, of which the even number takes both. -/
def isRead (number : Binary) (decimal : Quotient) : Bool :=
  let below :=
    if number.mantissa = leastFull && leastExponent < number.exponent then 1 else 2
  let low := number.quarters (4 * number.mantissa - below)
  let high := number.quarters (4 * number.mantissa + 2)
  if number.mantissa % 2 = 0 then !decimal.less low && !high.less decimal
  else low.less decimal && decimal.less high

/-- The decimals of one number of digits around a number that are read as it, the nearest
first; each is a whole number times ten to the power of `exponent`. -/
def candidates (number : Binary) (exponent : Int) : List Nat :=
  let floor := (number.value.dividedBy 10 exponent).floor
  let near := fun digits => (scaled 10 digits exponent).distance number.value
  let pair :=
    if (near floor).less (near (floor + 1)) then [floor, floor + 1] else [floor + 1, floor]
  pair.filter fun digits => number.isRead (scaled 10 digits exponent)

/-- The first candidate, from rows of ten to the power of `exponent` on to finer ones. -/
def search (number : Binary) : Nat → Int → Nat × Int
  | 0, exponent => ((number.value.dividedBy 10 exponent).round, exponent)
  | fuel + 1, exponent =>
    match number.candidates exponent with
    | digits :: _ => (digits, exponent)
    | [] => search number fuel (exponent - 1)

/-- How many digits a number has in front of the point; it is not positive for numbers below
one tenth. -/
def places (number : Binary) : Int :=
  let value := number.value
  let guess := ((Nat.log2 value.numerator : Int) - Nat.log2 value.denominator) * 30103 / 100000
  if (value.dividedBy 10 guess).floor = 0 then guess
  else if (value.dividedBy 10 (guess + 1)).floor = 0 then guess + 1
  else guess + 2

end Binary

/-- Digits times a power of ten without an exponent. -/
def positional (digits : Nat) (exponent : Int) : String :=
  let row := (toString digits).toList
  match exponent with
  | .ofNat exponent => String.ofList (row ++ List.replicate exponent '0')
  | .negSucc exponent =>
    let places := exponent + 1
    let padded := List.replicate (places + 1 - row.length) '0' ++ row
    let whole := padded.length - places
    String.ofList (padded.take whole ++ '.' :: padded.drop whole)

def magnitude (number : Scientific) : String :=
  let digits := number.digits.dropWhile (· == '0')
  if digits.isEmpty || (digits.length : Int) + number.exponent < -330 then "0"
  else if !number.isFinite then "inf"
  else
    let binary := nearest (scaled 10 (Decimal.value digits) number.exponent)
    if binary.mantissa = 0 then "0"
    else
      let (digits, exponent) := binary.search 17 (binary.places - 1)
      if digits = 10 then positional 1 (exponent + 1) else positional digits exponent

/-- A number as it is shown. -/
def text (number : Scientific) : String :=
  (if number.negative then "-" else "") ++ magnitude number

end Modbus.Text.Shortest
