import Mathlib.Tactic
import Modbus.Proofs.CanonicalRequests

/-!
# Announced lengths

Without a network header a reader has to know where a frame ends before it has seen the end.  It
takes the length from a table of shapes, one for each function and direction, while the fields of a
payload are read by other rules.  Both agree: whatever is read as a request of an implemented
function or as an answer has the length that its shape tells, so a reader takes exactly its octets.
-/

namespace Modbus

theorem Request.length_clearPadding (octets : List UInt8) :
    (clearPadding octets).length = octets.length := by
  unfold clearPadding
  split
  next =>
    split_ifs
    · simp only [List.length_cons, Bits.length_trimLast]
    · rfl
  next => rfl

/-- The octets of a request are as many as those it is written as. -/
theorem Request.length_of_decode {octets : List UInt8} {request : Request}
    (hread : decode octets = .ok request) : octets.length = request.encode.length := by
  obtain ⟨-, -, hencode⟩ := (decode_eq_ok_iff_clearPadding octets request).mp hread
  rw [hencode, length_clearPadding]

theorem Request.shaped_of_decode {octets : List UInt8} {request : Request}
    (hread : decode octets = .ok request) (himplemented : request.function?.isSome)
    (header : Header) : (Frame.mk header octets).Shaped .request := by
  obtain ⟨function, hfunction⟩ := Option.isSome_iff_exists.mp himplemented
  obtain ⟨hproper, -, payload, rfl, hspells⟩ := (decode_eq_ok_iff octets request).mp hread
  have hknown : Shape.request? request.functionCode = some function.requestShape := by
    rw [Shape.request?, ofCode?_functionCode hproper, hfunction]
    rfl
  exact ⟨request.functionCode, payload, function.requestShape, rfl, hknown,
    hspells.length_requestShape hfunction⟩

/-- An answer may be somewhat longer than a frame should be. -/
theorem Response.length_encode_le {response : Response} (hfits : response.Fits) :
    response.encode.length ≤ 257 := by
  rw [encode, List.length_cons, length_data]
  cases response <;> simp only [Fits, Limits.fifo] at hfits ⊢ <;> omega

namespace Transport

/-- What is read as a request of an implemented function, or as an answer. -/
def Understood : Direction → List UInt8 → Prop
  | .request, pdu => ∃ request, Request.decode pdu = .ok request ∧ request.function?.isSome
  | .response, pdu => ∃ response, Response.decode pdu = .ok response

theorem Understood.shaped {direction : Direction} {pdu : List UInt8}
    (hunderstood : Understood direction pdu) (header : Header) :
    (Frame.mk header pdu).Shaped direction := by
  cases direction with
  | request =>
      obtain ⟨request, hread, himplemented⟩ := hunderstood
      exact Request.shaped_of_decode hread himplemented header
  | response =>
      obtain ⟨response, hread⟩ := hunderstood
      obtain ⟨-, ⟨hfits, -⟩, rfl⟩ := (Response.decode_eq_ok_iff pdu response).mp hread
      exact Response.shaped_responseFrame header hfits

theorem Understood.length_le {direction : Direction} {pdu : List UInt8}
    (hunderstood : Understood direction pdu) : pdu.length ≤ 257 := by
  cases direction with
  | request =>
      obtain ⟨request, hread, himplemented⟩ := hunderstood
      obtain ⟨-, hvalid, -⟩ := (Request.decode_eq_ok_iff pdu request).mp hread
      have hshort := Request.length_encode_le ((Request.validate_eq_ok_iff request ()).mp hvalid)
        himplemented
      rw [Request.length_of_decode hread]
      exact hshort.trans (by decide)
  | response =>
      obtain ⟨response, hread⟩ := hunderstood
      obtain ⟨-, ⟨hfits, -⟩, rfl⟩ := (Response.decode_eq_ok_iff pdu response).mp hread
      exact Response.length_encode_le hfits

/-- The length that the shape of a payload tells, from the function code and the count at its
place, is that of the payload without its function code, for every request of an implemented
function and every answer that is read, exceptions too.  So a reader takes the unit, the payload
and the checksum, if there is one, and nothing behind them. -/
theorem announced_length_eq {direction : Direction} {pdu : List UInt8}
    (hunderstood : Understood direction pdu) :
    (∃ code payload shape, pdu = code :: payload ∧ shape? direction code = some shape ∧
      shape.length payload = pdu.length - 1) ∧
    ∀ (unit : UInt8) (checksum : Bool) (trailing : List UInt8),
      trailing.length = (if checksum then 2 else 0) →
      Takes (fun transport => transport.deadline direction) (headlessOctets direction checksum)
        (unit :: (pdu ++ trailing)) (unit :: (pdu ++ trailing)) := by
  obtain ⟨code, payload, shape, hpdu, hknown, hlength⟩ := hunderstood.shaped default
  change pdu = code :: payload at hpdu
  have hshort := hunderstood.length_le
  subst hpdu
  constructor
  · exact ⟨code, payload, shape, rfl, hknown, hlength⟩
  · intro unit checksum trailing htrailing
    have hroom : 2 + payload.length + trailing.length ≤ bufferSize := by
      rw [List.length_cons] at hshort
      simp only [htrailing, bufferSize, Limits.serialFrame, Limits.networkPrefix]
      split <;> omega
    exact takes_octets_of_shape unit hknown hlength htrailing hroom

/-- Ten coils are written in two octets whatever stands behind the tenth, and an answer with two
values of a queue announces its length in two octets. -/
theorem announced_length_coils_and_queue :
    let coils : List UInt8 := [0x00, 0x13, 0x00, 0x0A, 0x02, 0xCD, 0xFD]
    let queue : List UInt8 := [0x00, 0x06, 0x00, 0x02, 0x01, 0xB8, 0x12, 0x84]
    Understood .request (0x0F :: coils) ∧ Understood .response (0x18 :: queue) ∧
      (∃ shape, shape? .request 0x0F = some shape ∧ shape.length coils = 7) ∧
      ∃ shape, shape? .response 0x18 = some shape ∧ shape.length queue = 8 := by
  intro coils queue
  have hcoils : Understood .request (0x0F :: coils) :=
    ⟨.writeMultipleCoils 0x13
      [true, false, true, true, false, false, true, true, true, false], by decide +kernel, rfl⟩
  have hqueue : Understood .response (0x18 :: queue) :=
    ⟨.readFifoQueue [0x01B8, 0x1284], by decide +kernel⟩
  refine ⟨hcoils, hqueue, ?_, ?_⟩
  · obtain ⟨⟨code, payload, shape, hpdu, hknown, hlength⟩, -⟩ := announced_length_eq hcoils
    obtain ⟨rfl, rfl⟩ := List.cons.inj hpdu
    exact ⟨shape, hknown, hlength⟩
  · obtain ⟨⟨code, payload, shape, hpdu, hknown, hlength⟩, -⟩ := announced_length_eq hqueue
    obtain ⟨rfl, rfl⟩ := List.cons.inj hpdu
    exact ⟨shape, hknown, hlength⟩

end Transport

end Modbus
