import Modbus.ExceptionCode
import Modbus.Function
import Modbus.Text.Duration

/-!
# Errors

Every failure is one of ten kinds, and each kind names its cause.  The kind
decides what a master does next: some errors are worth another attempt, some
ask for a new connection first, the others are final.  A cause that comes from
outside, such as the report of an operating system, is kept as text.
-/

namespace Modbus

/-- The four tables of a process image. -/
inductive TableKind where
  | coil
  | discreteInput
  | inputRegister
  | holdingRegister
  deriving DecidableEq, Repr, Inhabited

def TableKind.cellName : TableKind → String
  | coil => "coil"
  | discreteInput => "discrete input"
  | inputRegister => "input register"
  | holdingRegister => "register"

/-- The quantities that a request may not exceed. -/
inductive Quantity where
  | bitRead
  | registerRead
  | coilWrite
  | registerWrite
  deriving DecidableEq, Repr, Inhabited

/-- What a quantity counts, in words. -/
def Quantity.name : Quantity → String
  | bitRead => "bit read"
  | registerRead => "register read"
  | coilWrite => "coil write"
  | registerWrite => "register write"

/-- What is wrong with a message that was received. -/
inductive ProtocolFault where
  | emptyRequest
  | emptyResponse
  /-- `need` more octets were expected behind the first `offset` ones, `left` were there. -/
  | truncated (need offset left : Nat)
  | trailing (count : Nat) (functionCode : UInt8)
  | oddByteCount (count : Nat)
  | fileResponseLength (length : Nat)
  | fifoCounts (byteCount entries : Nat)
  | unknownResponse (functionCode : UInt8)
  | shortNetworkHeader (octets : Nat)
  | protocolId (value : UInt16)
  | lengthField (value : UInt16)
  | frameLength (announced received : Nat)
  | headlessLength (octets : Nat)
  | checksum (calculated received : UInt16)
  | frameTooLong (peer : String)
  | transactionId (received expected : UInt16)
  | unexpectedResponse (expected : Function) (functionCode : UInt8)
  | registerCount (received requested : Nat)
  | bitCount (received requested : Nat)
  | reported (text : String)
  deriving DecidableEq, Repr, Inhabited

/-- What is wrong with an argument. -/
inductive ArgumentFault where
  | quantity (counted : Quantity) (count most : Nat)
  | byteCount (declared expected : Nat)
  | coilValue (word : UInt16)
  | referenceType (type : UInt8)
  | fileReadByteCount (count : Nat)
  | fileReadSize (requests : Nat)
  | fileWriteSize (octets : Nat)
  | registerOctets (count : Nat)
  | reported (text : String)
  deriving DecidableEq, Repr, Inhabited

/-- What a process image does not hold. -/
inductive AddressFault where
  | vacant (table : TableKind) (offset : Nat)
  | outside (table : TableKind) (first last size : Nat)
  | noFile (file : UInt16)
  | noRecord (file record : UInt16) (size : Nat)
  | noRegister (record : UInt16) (index size : Nat)
  | recordSize (record : UInt16) (size written : Nat)
  | fileRecordSize (file record : UInt16) (size written : Nat)
  | noFifo (address : UInt16)
  | reported (text : String)
  deriving DecidableEq, Repr, Inhabited

/-- What is wrong with the settings of a connection. -/
inductive SettingFault where
  | malformedTarget (address : String)
  | namelessTarget (address : String)
  | unknownScheme (scheme address : String)
  | invalidPort (port : String)
  | openBracket (value : String)
  | malformedHost (value : String)
  | noRetries
  | noTimeout
  | noPortName
  | noBaudRate
  | dataBits (count : Nat)
  | emptyPool
  | noSerialSection
  | unresolved (host reason : String)
  | unopened (port reason : String)
  | reported (text : String)
  deriving DecidableEq, Repr, Inhabited

/-- A failure of the medium. -/
inductive MediumFault where
  /-- A network frame with a damaged header: what follows cannot be told apart any more. -/
  | outOfSync (fault : ProtocolFault) (peer : String)
  | brokenPipe
  | unreachable
  | addressInUse
  | addressNotAvailable
  | reported (text : String)
  deriving DecidableEq, Repr, Inhabited

/-- How a stream came to its end. -/
inductive StreamEnd where
  | insideFrame
  | closed (peer : String)
  | reported (text : String)
  deriving DecidableEq, Repr, Inhabited

/-- What was waited for in vain. -/
inductive Overdue where
  | frame (peer : String) (timeout : Nat)
  | datagram (peer : String) (timeout : Nat)
  | reported (text : String)
  deriving DecidableEq, Repr, Inhabited

/-- A failure, by kind. -/
inductive Error where
  /-- Connecting, reading or writing failed. -/
  | io (fault : MediumFault)
  /-- The peer closed the stream before a frame was complete. -/
  | endOfStream (cause : StreamEnd)
  /-- No complete frame in time. -/
  | timeout (cause : Overdue)
  /-- A malformed or unfitting message. -/
  | protocol (fault : ProtocolFault)
  /-- The remote unit refused the request. -/
  | slaveException (functionCode : UInt8) (exception : ExceptionCode)
  /-- A reference outside the populated part of a process image. -/
  | illegalAddress (fault : AddressFault)
  /-- A malformed argument. -/
  | invalidArgument (fault : ArgumentFault)
  /-- Missing or invalid settings. -/
  | config (fault : SettingFault)
  | notConnected
  /-- All attempts failed, the last one with the given error. -/
  | retriesExhausted (attempts : Nat) (last : Error)
  deriving DecidableEq, Repr, Inhabited

def ProtocolFault.message : ProtocolFault → String
  | emptyRequest => "empty request PDU"
  | emptyResponse => "empty response PDU"
  | truncated need offset left =>
    s!"PDU truncated: need {need} bytes at offset {offset}, have {left}"
  | trailing count functionCode =>
    s!"{count} trailing bytes after FC" ++ Text.Hex.octet functionCode ++ " payload"
  | oddByteCount count => s!"odd register byte count {count}"
  | fileResponseLength length => s!"invalid file sub-response length {length}"
  | fifoCounts byteCount entries =>
    s!"FIFO response with byte count {byteCount} and {entries} entries"
  | unknownResponse functionCode =>
    "unknown response function code 0x" ++ Text.Hex.octet functionCode
  | shortNetworkHeader octets => s!"MBAP header too short: {octets} bytes"
  | protocolId value => s!"Invalid protocol ID: expected 0, got {value.toNat}"
  | lengthField value => s!"Invalid MBAP length field: {value.toNat}"
  | frameLength announced received =>
    s!"Invalid MBAP frame length: header announces {announced} PDU bytes, got {received}"
  | headlessLength octets => s!"Invalid headless frame length: {octets}"
  | checksum calculated received =>
    "CRC mismatch: expected 0x" ++ Text.Hex.word calculated
      ++ ", got 0x" ++ Text.Hex.word received
  | frameTooLong peer => "frame from " ++ peer ++ " exceeds 256 bytes"
  | transactionId received expected =>
    s!"response transaction ID {received.toNat} does not match request {expected.toNat}"
  | unexpectedResponse expected functionCode =>
    "expected " ++ expected.operation ++ " response, got FC=" ++ Text.Hex.octet functionCode
  | registerCount received requested =>
    s!"response carries {received} registers, {requested} requested"
  | bitCount received requested => s!"response carries {received} bits, {requested} requested"
  | reported text => text

def ArgumentFault.message : ArgumentFault → String
  | quantity counted count most => counted.name ++ s!" quantity {count} outside 1..={most}"
  | byteCount declared expected =>
    s!"byte count {declared} does not match quantity ({expected} expected)"
  | coilValue word => "coil value 0x" ++ Text.Hex.word word ++ " is neither 0xFF00 nor 0x0000"
  | referenceType type => s!"file reference type {type.toNat} (expected 6)"
  | fileReadByteCount count => s!"read file record byte count {count} is not a multiple of 7"
  | fileReadSize requests =>
    s!"read file record with {requests} sub-requests does not fit a PDU"
  | fileWriteSize octets => s!"write file record of {octets} bytes does not fit a PDU"
  | registerOctets count => s!"register value needs 2 bytes, got {count}"
  | reported text => text

def AddressFault.message : AddressFault → String
  | vacant table offset => s!"no {table.cellName} at {offset}"
  | outside table first last size =>
    s!"{table.cellName} range {first}..{last} outside 0..{size}"
  | noFile file => s!"no file {file.toNat}"
  | noRecord file record size => s!"file {file.toNat} has no record {record.toNat} (size {size})"
  | noRegister record index size =>
    s!"record {record.toNat} has no register {index} (size {size})"
  | recordSize record size written =>
    s!"record {record.toNat} holds {size} registers, {written} written"
  | fileRecordSize file record size written =>
    s!"file {file.toNat} record {record.toNat} holds {size} registers, {written} written"
  | noFifo address => s!"no FIFO at {address.toNat}"
  | reported text => text

def SettingFault.message : SettingFault → String
  | malformedTarget address => "invalid connection target: " ++ address
  | namelessTarget address => "connection target " ++ address ++ " has no host or port name"
  | unknownScheme scheme address =>
    "unknown connection scheme '" ++ scheme ++ "' in " ++ address
  | invalidPort port => "invalid port '" ++ port ++ "'"
  | openBracket value => "unterminated '[' in " ++ value
  | malformedHost value => "invalid address " ++ value
  | noRetries => "retries must be at least 1"
  | noTimeout => "timeout must be positive"
  | noPortName => "serial port name is empty"
  | noBaudRate => "baud rate must be positive"
  | dataBits count => s!"unsupported data bits: {count}"
  | emptyPool => "pool size must be at least 1"
  | noSerialSection => "serial transport requires serial parameters"
  | unresolved host reason => "cannot resolve " ++ host ++ ": " ++ reason
  | unopened port reason => "cannot open serial port " ++ port ++ ": " ++ reason
  | reported text => text

def StreamEnd.message : StreamEnd → String
  | insideFrame => "early eof"
  | closed peer => peer ++ " closed"
  | reported text => text

def Overdue.message : Overdue → String
  | frame peer timeout =>
    "no complete frame from " ++ peer ++ " within " ++ Text.Duration.toText timeout
  | datagram peer timeout =>
    "no datagram from " ++ peer ++ " within " ++ Text.Duration.toText timeout
  | reported text => text

def MediumFault.message : MediumFault → String
  | outOfSync fault peer =>
    "Protocol error: " ++ fault.message ++ " on " ++ peer ++ ", stream out of sync"
  | brokenPipe => "broken pipe"
  | unreachable => "Network is unreachable (os error 101)"
  | addressInUse => "Address already in use (os error 98)"
  | addressNotAvailable => "Cannot assign requested address (os error 99)"
  | reported text => text

namespace Error

/-- The full text of an error, with the kind in front. -/
def message : Error → String
  | io fault => "I/O error: " ++ fault.message
  | endOfStream cause => "End of stream: " ++ cause.message
  | timeout cause => "Timeout: " ++ cause.message
  | protocol fault => "Protocol error: " ++ fault.message
  | slaveException functionCode exception =>
    "Slave exception for function 0x" ++ Text.Hex.octet functionCode ++ ": " ++ exception.message
  | illegalAddress fault => "Illegal address: " ++ fault.message
  | invalidArgument fault => "Invalid argument: " ++ fault.message
  | config fault => "Configuration error: " ++ fault.message
  | notConnected => "Not connected"
  | retriesExhausted attempts last =>
    s!"Executing transaction failed (tried {attempts} times): " ++ last.message

def kind : Error → String
  | io _ => "Io"
  | endOfStream _ => "EndOfStream"
  | timeout _ => "Timeout"
  | protocol _ => "Protocol"
  | slaveException _ _ => "SlaveException"
  | illegalAddress _ => "IllegalAddress"
  | invalidArgument _ => "InvalidArgument"
  | config _ => "Config"
  | notConnected => "NotConnected"
  | retriesExhausted _ _ => "RetriesExhausted"

/-- An exception answer as an error; the exception bit of the code is dropped. -/
def ofException (functionCode : UInt8) (exception : ExceptionCode) : Error :=
  slaveException (plainCode functionCode) exception

/-- Whether the medium is to blame. -/
def isIo : Error → Bool
  | io _ | endOfStream _ | timeout _ | notConnected | retriesExhausted _ _ => true
  | _ => false

/-- Whether another attempt may help. -/
def isRetryable : Error → Bool
  | retriesExhausted _ _ => false
  | protocol _ => true
  | error => error.isIo

/-- Whether the connection has to be opened anew before another attempt: a late
answer would otherwise be taken for the answer to the next request. -/
def needsReconnect : Error → Bool
  | io _ | endOfStream _ | timeout _ | notConnected => true
  | _ => false

/-- The exception by which a unit reports an error to a master, if there is one. -/
def exception? : Error → Option ExceptionCode
  | slaveException _ exception => some exception
  | illegalAddress _ => some .illegalDataAddress
  | invalidArgument _ => some .illegalDataValue
  | _ => none

end Error

/-- What a medium reports when an operation on it fails. -/
inductive MediumCondition where
  | unexpectedEnd
  | timedOut
  | wouldBlock
  | other
  deriving DecidableEq, Repr, Inhabited

def Error.ofMedium (condition : MediumCondition) (text : String) : Error :=
  match condition with
  | .unexpectedEnd => .endOfStream (.reported text)
  | .timedOut | .wouldBlock => .timeout (.reported text)
  | .other => .io (.reported text)

end Modbus
