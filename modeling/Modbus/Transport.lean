import Modbus.Framing
import Modbus.Line
import Modbus.Shape

/-!
# Transports

A transport reads frames from a line and writes frames to it.  Without a network
header the length of a frame follows from its first octets; that of an unknown
function is not known, so such a frame ends with the next silence.  A serial
line has a timing as well: a silence before every message, an echo that is
read back, and a damaged frame after which everything up to the next silence is
thrown away.
-/

namespace Modbus

/-- Who sent a frame.  A slave waits for a request as long as it takes and then for the
rest of it in time; a master waits for a whole answer in time. -/
inductive Direction where
  | request
  | response
  deriving DecidableEq, Repr, Inhabited

/-- Octets that were sent, and when. -/
structure Transmission where
  time : Nat
  octets : List UInt8
  deriving DecidableEq, Repr, Inhabited

/-- Frames on an open line. -/
structure Transport where
  line : Line
  framing : Framing
  /-- How long a frame may take, in nanoseconds. -/
  timeout : Nat
  timing : Option Timing
  /-- What the peer is called in messages. -/
  peer : String
  /-- When the last frame was read or written. -/
  lastActivity : Option Nat
  /-- Whether nothing can be sent any more. -/
  closed : Bool
  /-- What was sent, in order. -/
  sent : List Transmission
  deriving DecidableEq, Repr, Inhabited

/-- Why a transport did not do what it was asked for. -/
inductive Halt where
  | failed (error : Error)
  /-- It waits for ever. -/
  | waiting
  deriving DecidableEq, Repr, Inhabited

/-- Work on a transport. -/
abbrev Exchange := ExceptT Halt (StateM Transport)

namespace Transport

/-- How long a frame may take if nothing else is said: three seconds. -/
def defaultTimeout : Nat := 3000000000

/-- The silence that ends a frame of unknown length where there is no timing: 20 ms. -/
def headlessQuiet : Nat := 20000000

/-- A transport on which nothing happened yet. -/
def opened (line : Line) (framing : Framing) (peer : String) (timing : Option Timing)
    (timeout : Nat) : Transport where
  line := line
  framing := framing
  timeout := timeout
  timing := timing
  peer := peer
  lastActivity := none
  closed := false
  sent := []

/-- The silence that ends a frame of unknown length. -/
def quiet (transport : Transport) : Nat :=
  match transport.timing with
  | some timing => max timing.messageGap timing.characterGap
  | none => headlessQuiet

/-- Most octets that are ever kept of a frame. -/
def bufferSize : Nat := Limits.serialFrame + Limits.networkPrefix

/-! ## Reading -/

def fail {α : Type} (error : Error) : Exchange α :=
  throw (.failed error)

/-- Waits for exactly `count` octets. -/
def octets (deadline : Option Nat) (count : Nat) : Exchange (List UInt8) := do
  let transport ← get
  let (outcome, line) := transport.line.exactly deadline count
  set { transport with line := line }
  match outcome with
  | .ok octets => pure octets
  | .error .ended => fail (.endOfStream .insideFrame)
  | .error .never => throw .waiting
  | .error _ => fail (.timeout (.frame transport.peer transport.timeout))

/-- Throws everything up to the next silence away. -/
def drain : Exchange Unit :=
  modify fun transport => { transport with line := transport.line.drain transport.quiet }

/-- Waits for `count` octets behind those of a frame that are there already. -/
def more (frame : List UInt8) (deadline count : Nat) : Exchange (List UInt8) := do
  if bufferSize < frame.length + count then
    drain
    fail (.protocol (.frameTooLong (← get).peer))
  let rest ← octets (some deadline) count
  pure (frame ++ rest)

/-- Takes everything up to the next silence. -/
def untilQuiet (frame : List UInt8) (deadline : Nat) : Exchange (List UInt8) := do
  let transport ← get
  let room := Limits.serialFrame + 1 - frame.length
  let (rest, stop, line) := transport.line.stretch transport.quiet (some deadline) room
  set { transport with line := line }
  match stop with
  | .silence => pure (frame ++ rest)
  | .ended => fail (.endOfStream (.closed transport.peer))
  | .full =>
    drain
    fail (.protocol (.frameTooLong transport.peer))

/-- Waits for the first octet of a frame; the result has the deadline for the others. -/
def first (direction : Direction) : Exchange (List UInt8 × Nat) := do
  match direction with
  | .request =>
    let octet ← octets none 1
    let transport ← get
    pure (octet, transport.line.now + transport.timeout)
  | .response =>
    let transport ← get
    let deadline := transport.line.now + transport.timeout
    let octet ← octets (some deadline) 1
    pure (octet, deadline)

/-- Reads a frame with a network header.  Behind a damaged header nothing can be found
any more, so the stream is lost. -/
def readMbap (direction : Direction) : Exchange Frame := do
  let (start, deadline) ← first direction
  let octets ← more start deadline Limits.networkPrefix
  match Mbap.decodeHeader octets with
  | .ok (header, length) =>
    let octets ← more octets deadline length
    pure ⟨header, octets.drop (Limits.networkPrefix + 1)⟩
  | .error fault => fail (.io (.outOfSync fault (← get).peer))

/-- The shape of what follows a function code. -/
def shape? : Direction → UInt8 → Option Shape
  | .request => Shape.request?
  | .response => Shape.response?

/-- Waits for what a shape demands behind the unit and the function code. -/
def shaped (frame : List UInt8) (deadline : Nat) : Shape → Exchange (List UInt8)
  | .fixed length => more frame deadline length
  | .counted offset width => do
    let octets ← more frame deadline (offset + width)
    more octets deadline (Shape.count ((octets.drop (2 + offset)).take width))

/-- Waits for all octets of a frame without a network header. -/
def headlessOctets (direction : Direction) (checksum : Bool) : Exchange (List UInt8) := do
  let (start, deadline) ← first direction
  let octets ← more start deadline 1
  let functionCode := octets.getD 1 0
  match shape? direction functionCode with
  | some shape =>
    let octets ← shaped octets deadline shape
    if checksum then more octets deadline 2 else pure octets
  | none =>
    let octets ← untilQuiet octets deadline
    match direction with
    | .request => pure octets
    | .response => fail (.protocol (.unknownResponse functionCode))

/-- Reads a frame without a network header.  After a damaged frame on a serial line
everything up to the next silence is thrown away. -/
def readHeadless (direction : Direction) (checksum : Bool) : Exchange Frame := do
  let octets ← headlessOctets direction checksum
  match Headless.decode checksum octets with
  | .ok frame => pure frame
  | .error fault =>
    if (← get).timing.isSome then
      drain
    fail (.protocol fault)

/-- Remembers that a frame was read or written just now. -/
def active (transport : Transport) : Transport :=
  { transport with lastActivity := some transport.line.now }

def read (direction : Direction) : Exchange Frame := fun transport =>
  let reading :=
    match transport.framing with
    | .mbap => readMbap direction
    | .headless checksum => readHeadless direction checksum
  let (outcome, transport) := reading transport
  (outcome, transport.active)

/-- Reads an answer. -/
def readResponse : Exchange (Message Response) := do
  let frame ← read .response
  match Message.responseOf frame with
  | .ok message => pure message
  | .error error => fail error

/-! ## Writing -/

/-- Waits until the last frame is long enough ago. -/
def waitGap (transport : Transport) : Transport :=
  match transport.timing, transport.lastActivity with
  | some timing, some last =>
    { transport with line := transport.line.sleepUntil (last + timing.messageGap) }
  | _, _ => transport

def send (octets : List UInt8) : Exchange Unit := do
  let transport ← get
  if transport.closed then
    fail (.io .brokenPipe)
  let transmission : Transmission := ⟨transport.line.now, octets⟩
  set { transport with sent := transport.sent ++ [transmission] }

/-- Reads back what was sent; it does not have to be the same. -/
def readEcho (sent : List UInt8) : Exchange Unit := do
  let transport ← get
  let _ ← octets (some (transport.line.now + transport.timeout)) sent.length

/-- Sends a frame once the line has been silent for long enough; the result is what was
sent. -/
def transmit (frame : Frame) : Exchange (List UInt8) := do
  let encoded := (← get).framing.encode frame
  modify waitGap
  send encoded
  pure encoded

/-- Ends the sending of octets, of which the line may return an echo. -/
def confirm (sent : List UInt8) : Exchange Unit := do
  if (← get).timing.any Timing.echo then
    readEcho sent
  modify active

def write (frame : Frame) : Exchange Unit := do
  let sent ← transmit frame
  confirm sent

/-- Ends sending. -/
def close (transport : Transport) : Transport :=
  { transport with closed := true }

/-- Octets arrive just now. -/
def deliver (transport : Transport) (octets : List UInt8) : Transport :=
  { transport with line := transport.line.deliver octets }

/-- Lets time pass. -/
def sleep (transport : Transport) (duration : Nat) : Transport :=
  { transport with line := transport.line.sleepUntil (transport.line.now + duration) }

end Transport

end Modbus
