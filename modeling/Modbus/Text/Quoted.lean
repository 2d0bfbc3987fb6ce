import Modbus.Text.Hex
import Modbus.Text.Hidden

/-!
# Quoted text

Text between double quotes, with a backslash in front of what would end it or
would not show.
-/

namespace Modbus.Text.Quoted

/-- A character as it stands between the quotes. -/
def character (value : Char) : String :=
  match value with
  | '"' => "\\\""
  | '\\' => "\\\\"
  | '\n' => "\\n"
  | '\r' => "\\r"
  | '\t' => "\\t"
  | '\x00' => "\\0"
  | value =>
    if isHidden value then "\\u\x7b" ++ Hex.ofNat value.toNat ++ "\x7d" else String.singleton value

/-- A text between double quotes. -/
def encode (text : String) : String :=
  "\"" ++ String.join (text.toList.map character) ++ "\""

end Modbus.Text.Quoted
