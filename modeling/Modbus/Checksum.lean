/-!
# The checksum of serial frames

A cyclic redundancy check of 16 bits over the polynomial
`x^16 + x^15 + x^2 + 1`, lowest bit first, with a register that starts out full
of ones.  It travels behind the frame, low octet first.
-/

namespace Modbus.Checksum

/-- The polynomial without its leading term, lowest power in the top bit. -/
def polynomial : UInt16 := 0xA001

/-- Shifts one bit out of the register and divides by the polynomial. -/
def shift (register : UInt16) : UInt16 :=
  if register &&& 1 = 1 then (register >>> 1) ^^^ polynomial else register >>> 1

/-- Takes one octet into the register. -/
def absorb (register : UInt16) (octet : UInt8) : UInt16 :=
  Nat.repeat shift 8 (register ^^^ octet.toUInt16)

def ofOctets (octets : List UInt8) : UInt16 :=
  octets.foldl absorb 0xFFFF

end Modbus.Checksum
