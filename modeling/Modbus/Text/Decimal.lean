/-!
# Decimal numbers

The grammar of decimal numbers: digits with a point among or around them, and
an exponent.  A number may be too large for a floating-point number with 64
bits.
-/

namespace Modbus.Text.Decimal

def value (digits : List Char) : Nat :=
  digits.foldl (fun total digit => total * 10 + (digit.toNat - '0'.toNat)) 0

/-- The value of a text that is a row of at least one decimal digit. -/
def digits? (text : List Char) : Option Nat :=
  if !text.isEmpty && text.all Char.isDigit then some (value text) else none

/-- The exponent that stands behind the digits of a number; there may be none. -/
def exponent? : List Char → Option Int
  | [] => some 0
  | mark :: text =>
    if mark = 'e' ∨ mark = 'E' then
      match text with
      | '-' :: text => (digits? text).map fun value => -(value : Int)
      | '+' :: text => (digits? text).map fun value => (value : Int)
      | text => (digits? text).map fun value => (value : Int)
    else
      none

/-- A number is its digits, without the point, times a power of ten, perhaps below zero. -/
structure Scientific where
  negative : Bool
  digits : List Char
  exponent : Int
  deriving DecidableEq, Repr, Inhabited

/-- Reads a number without a sign. -/
def unsigned? (text : List Char) : Option Scientific := do
  let whole := text.takeWhile Char.isDigit
  let rest := text.drop whole.length
  let (fraction, rest) :=
    match rest with
    | '.' :: rest => (rest.takeWhile Char.isDigit, rest.dropWhile Char.isDigit)
    | rest => ([], rest)
  let exponent ← exponent? rest
  if whole.isEmpty && fraction.isEmpty then none
  else some ⟨false, whole ++ fraction, exponent - fraction.length⟩

/-- Reads a number, which may have one sign. -/
def parse? : List Char → Option Scientific
  | '+' :: text => unsigned? text
  | '-' :: text => (unsigned? text).map fun number => { number with negative := true }
  | text => unsigned? text

/-- The least magnitude that is out of range: it lies halfway between the largest number
and the next power of two. -/
def overflow : Nat := Nat.pow 2 1024 - Nat.pow 2 970

/-- Whether a number is within range. -/
def Scientific.isFinite (number : Scientific) : Bool :=
  let digits := number.digits.dropWhile (· == '0')
  let size := (digits.length : Int) + number.exponent
  if digits.isEmpty || size < 309 then true
  else if 309 < size then false
  else if number.exponent < 0 then
    decide (value digits < overflow * Nat.pow 10 number.exponent.natAbs)
  else
    decide (value digits * Nat.pow 10 number.exponent.natAbs < overflow)

end Modbus.Text.Decimal
