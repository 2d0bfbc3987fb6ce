import Modbus.Text.Hex

/-!
# Exception codes

The one octet by which a unit says why it refused a request.
-/

namespace Modbus

/-- Why a unit refuses a request. -/
inductive ExceptionCode where
  | illegalFunction
  | illegalDataAddress
  | illegalDataValue
  | slaveDeviceFailure
  | acknowledge
  | slaveDeviceBusy
  | negativeAcknowledge
  | memoryParityError
  | gatewayPathUnavailable
  | gatewayTargetNoResponse
  /-- A code that the protocol does not define. -/
  | unknown (code : UInt8)
  deriving DecidableEq, Repr, Inhabited

namespace ExceptionCode

def ofOctet (code : UInt8) : ExceptionCode :=
  match code.toNat with
  | 1 => illegalFunction
  | 2 => illegalDataAddress
  | 3 => illegalDataValue
  | 4 => slaveDeviceFailure
  | 5 => acknowledge
  | 6 => slaveDeviceBusy
  | 7 => negativeAcknowledge
  | 8 => memoryParityError
  | 10 => gatewayPathUnavailable
  | 11 => gatewayTargetNoResponse
  | _ => unknown code

def toOctet : ExceptionCode → UInt8
  | illegalFunction => 0x01
  | illegalDataAddress => 0x02
  | illegalDataValue => 0x03
  | slaveDeviceFailure => 0x04
  | acknowledge => 0x05
  | slaveDeviceBusy => 0x06
  | negativeAcknowledge => 0x07
  | memoryParityError => 0x08
  | gatewayPathUnavailable => 0x0A
  | gatewayTargetNoResponse => 0x0B
  | unknown code => code

/-- What an exception means, in words. -/
def description : ExceptionCode → String
  | illegalFunction => "Illegal function"
  | illegalDataAddress => "Illegal data address"
  | illegalDataValue => "Illegal data value"
  | slaveDeviceFailure => "Slave device failure"
  | acknowledge => "Acknowledge"
  | slaveDeviceBusy => "Slave device busy"
  | negativeAcknowledge => "Negative acknowledge"
  | memoryParityError => "Memory parity error"
  | gatewayPathUnavailable => "Gateway path unavailable"
  | gatewayTargetNoResponse => "Gateway target device failed to respond"
  | unknown _ => "Unknown exception"

def name : ExceptionCode → String
  | illegalFunction => "IllegalFunction"
  | illegalDataAddress => "IllegalDataAddress"
  | illegalDataValue => "IllegalDataValue"
  | slaveDeviceFailure => "SlaveDeviceFailure"
  | acknowledge => "Acknowledge"
  | slaveDeviceBusy => "SlaveDeviceBusy"
  | negativeAcknowledge => "NegativeAcknowledge"
  | memoryParityError => "MemoryParityError"
  | gatewayPathUnavailable => "GatewayPathUnavailable"
  | gatewayTargetNoResponse => "GatewayTargetNoResponse"
  | unknown code => "Unknown(" ++ toString code.toNat ++ ")"

def message (exception : ExceptionCode) : String :=
  exception.description ++ " (0x" ++ Text.Hex.octet exception.toOctet ++ ")"

theorem toOctet_ofOctet (code : UInt8) : (ofOctet code).toOctet = code := by
  unfold ofOctet
  split <;> first | rfl | (apply UInt8.toNat_inj.mp; simp_all [toOctet])

end ExceptionCode

end Modbus
