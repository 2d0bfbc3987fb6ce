/-!
# Bounds of whole numbers

Numbers that come from outside are kept in fields of a width.  These are the
bounds of the wide ones.
-/

namespace Modbus.Bound

/-- The greatest number of 32 bits. -/
def most32 : Nat := 0xFFFFFFFF

/-- The greatest number of 64 bits. -/
def most64 : Nat := 0xFFFFFFFFFFFFFFFF

/-- The greatest magnitude of a negative number of 64 bits. -/
def negative64 : Nat := 0x8000000000000000

/-- The greatest number of 128 bits. -/
def most128 : Nat := 0xFFFFFFFFFFFFFFFFFFFFFFFFFFFFFFFF

/-- The greatest magnitude of a negative number of 128 bits. -/
def negative128 : Nat := 0x80000000000000000000000000000000

end Modbus.Bound
