import Modbus.Checksum
import Modbus.Frame

/-!
# Framing

On a network a frame is preceded by a header that tells its length.  On a
serial line there is only the unit in front and, as a rule, a checksum behind.
-/

namespace Modbus

/-- How frames are laid out on a medium. -/
inductive Framing where
  /-- Transaction, protocol, length and unit in front. -/
  | mbap
  /-- The unit in front and a checksum behind, if there is one. -/
  | headless (checksum : Bool)
  deriving DecidableEq, Repr, Inhabited

/-- Whether frames come without a transaction identifier. -/
def Framing.isHeadless : Framing → Bool
  | mbap => false
  | headless _ => true

namespace Mbap

def encode (frame : Frame) : List UInt8 :=
  Words.toOctets [frame.header.transactionId, frame.header.protocolId, frame.lengthField]
    ++ frame.header.unitId :: frame.pdu

/-- The header in the first seven octets, and how many octets of the frame
follow them. -/
def decodeHeader (octets : List UInt8) : Except ProtocolFault (Header × Nat) :=
  match octets with
  | t₁ :: t₀ :: p₁ :: p₀ :: l₁ :: l₀ :: unit :: _ =>
    let protocolId := Word.ofOctets p₁ p₀
    let length := Word.ofOctets l₁ l₀
    if protocolId ≠ 0 then
      .error (.protocolId protocolId)
    else if length.toNat < 2 ∨ Limits.networkLength < length.toNat then
      .error (.lengthField length)
    else
      .ok (⟨Word.ofOctets t₁ t₀, protocolId, unit⟩, length.toNat - 1)
  | _ => .error (.shortNetworkHeader octets.length)

def decode (octets : List UInt8) : Except ProtocolFault Frame := do
  let (header, length) ← decodeHeader octets
  let pdu := octets.drop (Limits.networkPrefix + 1)
  if pdu.length = length then
    pure ⟨header, pdu⟩
  else
    throw (.frameLength length pdu.length)

end Mbap

namespace Headless

/-- The checksum of octets as it is sent, low octet first. -/
def trailer (octets : List UInt8) : List UInt8 :=
  (Word.toOctets (Checksum.ofOctets octets)).reverse

def encode (checksum : Bool) (frame : Frame) : List UInt8 :=
  let octets := frame.header.unitId :: frame.pdu
  if checksum then octets ++ trailer octets else octets

/-- Octets without the checksum behind them, if it is the right one. -/
def verify (octets : List UInt8) : Except ProtocolFault (List UInt8) :=
  let body := octets.take (octets.length - 2)
  let received :=
    match octets.drop (octets.length - 2) with
    | [low, high] => Word.ofOctets high low
    | _ => 0
  if received = Checksum.ofOctets body then
    .ok body
  else
    .error (.checksum (Checksum.ofOctets body) received)

def decode (checksum : Bool) (octets : List UInt8) : Except ProtocolFault Frame := do
  if octets.length < (if checksum then 4 else 2) ∨ Limits.serialFrame < octets.length then
    throw (.headlessLength octets.length)
  let body ← if checksum then verify octets else pure octets
  match body with
  | unit :: pdu => pure ⟨⟨0, 0, unit⟩, pdu⟩
  | [] => throw (.headlessLength octets.length)

end Headless

/-- A frame as octets. -/
def Framing.encode (framing : Framing) (frame : Frame) : List UInt8 :=
  match framing with
  | mbap => Mbap.encode frame
  | headless checksum => Headless.encode checksum frame

end Modbus
