/-!
# Limits of the protocol

How much one message may carry.  The quantities are chosen so that every
request and every answer fits the payload of a serial frame.
-/

namespace Modbus.Limits

/-- Longest payload of a frame: function code and data. -/
def pdu : Nat := 253

/-- Longest serial frame: unit, payload and checksum. -/
def serialFrame : Nat := 256

/-- Octets of the prefix of a network frame before the unit. -/
def networkPrefix : Nat := 6

/-- Largest value of the length field of a network frame: unit and payload. -/
def networkLength : Nat := 254

def networkFrame : Nat := 260

/-- Most coils or discrete inputs read at once. -/
def readBits : Nat := 2000

/-- Most registers read at once. -/
def readRegisters : Nat := 125

/-- Most coils written at once. -/
def writeCoils : Nat := 1968

/-- Most registers written at once. -/
def writeRegisters : Nat := 123

/-- Most registers written by a request that also reads. -/
def exchangeRegisters : Nat := 121

/-- Most values held by a FIFO queue. -/
def fifo : Nat := 31

/-- Largest transaction identifier that is given out. -/
def transactionId : Nat := 32767

end Modbus.Limits
