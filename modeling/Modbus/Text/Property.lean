/-!
# Properties of characters

A property of characters is written down as the codes at which it changes, in
ascending order: the characters from the first code up to the second one have
it, those from the second up to the third do not, and so on.
-/

namespace Modbus.Text.Property

/-- Whether the character with a code has the property that changes at the given codes. -/
def holds (code : Nat) : List Nat → Bool
  | [] => false
  | change :: rest => if code < change then false else !holds code rest

end Modbus.Text.Property
