import Modbus.Bound
import Modbus.Document
import Modbus.Text.Natural
import Modbus.Text.Shortest

/-!
# Plain scalars

In YAML a scalar without quotes may be nothing, a truth value or a number; it
is a text only if it is none of them.  A number with superfluous zeros in front
is a text.
-/

namespace Modbus.Document.Yaml

/-- The spellings of nothing. -/
def nulls : List String := ["", "~", "null", "Null", "NULL"]

/-- The spellings of the truth values. -/
def booleans : List (String × Bool) :=
  [("true", true), ("True", true), ("TRUE", true),
   ("false", false), ("False", false), ("FALSE", false)]

/-- The spellings of numbers that are infinite or no numbers, and how they are shown. -/
def irregular : List (String × String) :=
  [(".inf", "inf"), (".Inf", "inf"), (".INF", "inf"), ("+.inf", "inf"), ("+.Inf", "inf"),
   ("+.INF", "inf"), ("-.inf", "-inf"), ("-.Inf", "-inf"), ("-.INF", "-inf"),
   (".nan", "NaN"), (".NaN", "NaN"), (".NAN", "NaN")]

/-- A text without the sign in front of it. -/
def unsigned : List Char → List Char
  | '+' :: rest | '-' :: rest => rest
  | scalar => scalar

/-- Whether a text is a row of digits with superfluous zeros in front. -/
def isPadded (scalar : List Char) : Bool :=
  match unsigned scalar with
  | '0' :: digit :: rest => (digit :: rest).all Char.isDigit
  | _ => false

def radixDigits : List Char → Nat × List Char
  | '0' :: 'x' :: digits => (16, digits)
  | '0' :: 'o' :: digits => (8, digits)
  | '0' :: 'b' :: digits => (2, digits)
  | digits => (10, digits)

/-- The integer that a text without a sign stands for, if it is at most `most`. -/
def magnitude? (most : Nat) (scalar : List Char) : Option Nat :=
  let (radix, digits) := radixDigits scalar
  if isPadded scalar || digits.head? == some '+' then none
  else Text.Natural.parse? radix most digits

/-- The integer that a text stands for; it has 128 bits. -/
def integer? : List Char → Option Int
  | '-' :: rest => (magnitude? Bound.negative128 rest).map fun value => -(value : Int)
  | '+' :: rest => (magnitude? Bound.most128 rest).map fun value => (value : Int)
  | scalar => (magnitude? Bound.most128 scalar).map fun value => (value : Int)

/-- The floating-point number that a text stands for, as it is shown. -/
def float? (scalar : List Char) : Option String :=
  match irregular.lookup (String.ofList scalar) with
  | some shown => some shown
  | none => ((Text.Decimal.parse? scalar).filter Text.Decimal.Scientific.isFinite).map
      Text.Shortest.text

/-- What a scalar without quotes stands for. -/
def ofPlain (scalar : List Char) : Document :=
  let name := String.ofList scalar
  if nulls.contains name then null
  else
    match booleans.lookup name, integer? scalar, float? scalar with
    | some value, _, _ => bool value
    | none, some value, _ => integer value
    | none, none, some shown => if isPadded scalar then text name else real shown
    | none, none, none => text name

end Modbus.Document.Yaml
