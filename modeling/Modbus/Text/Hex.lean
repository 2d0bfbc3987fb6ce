/-!
# Hexadecimal text

Octet strings are written in lower case, the numbers in messages in upper case.
-/

namespace Modbus.Text.Hex

/-- The digit of a value below sixteen, letters in lower case. -/
def digit (value : Nat) : Char :=
  if value < 10 then Char.ofNat (48 + value) else Char.ofNat (87 + value)

/-- The value of a digit. -/
def value? (character : Char) : Option Nat :=
  if '0' ≤ character ∧ character ≤ '9' then some (character.toNat - '0'.toNat)
  else if 'a' ≤ character ∧ character ≤ 'f' then some (character.toNat - 'a'.toNat + 10)
  else if 'A' ≤ character ∧ character ≤ 'F' then some (character.toNat - 'A'.toNat + 10)
  else none

/-- Reads octets, two digits each. -/
def toOctets? : List Char → Option (List UInt8)
  | [] => some []
  | [_] => none
  | high :: low :: rest => do
    let octets ← toOctets? rest
    some (UInt8.ofNat ((← value? high) * 16 + (← value? low)) :: octets)

/-- Two digits per octet, in lower case. -/
def ofOctets (octets : List UInt8) : String :=
  String.ofList <| octets.flatMap fun octet => [digit (octet.toNat / 16), digit (octet.toNat % 16)]

def octet (value : UInt8) : String :=
  String.ofList <| [digit (value.toNat / 16), digit (value.toNat % 16)].map Char.toUpper

/-- The four digits of a word, in upper case. -/
def word (value : UInt16) : String :=
  octet (UInt8.ofNat (value.toNat / 256)) ++ octet (UInt8.ofNat (value.toNat % 256))

/-- The digits of a number without leading zeros. -/
def ofNat (value : Nat) : String :=
  String.ofList (Nat.toDigits 16 value)

end Modbus.Text.Hex
