import Modbus.Octets
import Modbus.Text.Hex
import Modbus.Text.Natural
import Modbus.Text.Split

/-!
# Values on the command line

Words are read in decimal, or in hexadecimal behind `0x`; coils are read as
words of everyday language.  Answers are written as octets in hexadecimal, as
they travel.
-/

namespace Modbus.Console

/-- Why a text is not the value that is asked for. -/
inductive ValueFault where
  | word (text : String) (fault : Text.NumberFault)
  | coil (text : String)
  deriving DecidableEq, Repr, Inhabited

def ValueFault.message : ValueFault → String
  | word text fault => "'" ++ text ++ "' is not a 16-bit value: " ++ fault.message
  | coil text => "'" ++ text ++ "' is not a coil state (on/off)"

def wordDigits (characters : List Char) : Nat × List Char :=
  match characters with
  | '0' :: 'x' :: digits | '0' :: 'X' :: digits => (16, digits)
  | digits => (10, digits)

def parseWord (text : String) : Except ValueFault UInt16 :=
  let (radix, digits) := wordDigits text.toList
  match Text.Natural.parse radix 65535 digits with
  | .ok value => .ok (UInt16.ofNat value)
  | .error fault => .error (.word text fault)

def coilStates : List (String × Bool) :=
  [("on", true), ("true", true), ("1", true), ("off", false), ("false", false), ("0", false)]

/-- Reads the state of a coil; capital letters are as good as small ones. -/
def parseCoil (text : String) : Except ValueFault Bool :=
  match coilStates.lookup (text.map Char.toLower) with
  | some state => .ok state
  | none => .error (.coil text)

/-- Registers as text, four digits each. -/
def registersText (values : List UInt16) : String :=
  Text.Hex.ofOctets (Words.toOctets values)

/-- Coils as text, eight to two digits. -/
def coilsText (values : List Bool) : String :=
  Text.Hex.ofOctets (Bits.pack values)

end Modbus.Console
