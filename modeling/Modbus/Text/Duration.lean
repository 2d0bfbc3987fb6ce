/-!
# Durations as text

A duration counts nanoseconds.  Its text uses the largest unit that leaves a
whole part, and as many decimal places as are needed.
-/

namespace Modbus.Text.Duration

/-- Decimal digits of `value`, filled up with zeros on the left to `width` places. -/
def padded (width value : Nat) : List Char :=
  let digits := Nat.toDigits 10 value
  List.replicate (width - digits.length) '0' ++ digits

/-- A whole part and a fraction of `places` digits, without the zeros at its end. -/
def decimal (whole fraction places : Nat) : String :=
  let digits := ((padded places fraction).reverse.dropWhile (· == '0')).reverse
  if digits.isEmpty then toString whole else toString whole ++ "." ++ String.ofList digits

/-- The text of a duration in nanoseconds, such as `3s`, `1.5s`, `250ms` or `0ns`. -/
def toText (nanoseconds : Nat) : String :=
  if nanoseconds ≥ 1000000000 then
    decimal (nanoseconds / 1000000000) (nanoseconds % 1000000000) 9 ++ "s"
  else if nanoseconds ≥ 1000000 then
    decimal (nanoseconds / 1000000) (nanoseconds % 1000000) 6 ++ "ms"
  else if nanoseconds ≥ 1000 then
    decimal (nanoseconds / 1000) (nanoseconds % 1000) 3 ++ "µs"
  else
    toString nanoseconds ++ "ns"

end Modbus.Text.Duration
