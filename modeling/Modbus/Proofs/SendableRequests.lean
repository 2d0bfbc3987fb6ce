import Mathlib.Tactic
import Modbus.Proofs.FrameForms
import Modbus.Proofs.Shapes

/-!
# Requests that can be sent

A master checks the quantities of a request and then sends it.  For every implemented function
the limits of the quantities are such that the request fits a frame on every medium, and the frame
is read at the other end as it was sent.  Nothing limits the data of a request with another function
code: if it is too long, the request is sent all the same, but nobody reads the frame.
-/

namespace Modbus

namespace Request

/-- The frame in which a request goes to a unit. -/
def frameTo (unit : UInt8) (transactionId : UInt16) (request : Request) : Frame :=
  Message.requestFrame ⟨⟨transactionId, 0, unit⟩, request⟩

theorem length_encode_eq (request : Request) : request.encode.length = request.data.length + 1 := by
  rw [encode, List.length_cons]

/-- A valid request fits a frame unless its function is not implemented and its data is too long. -/
theorem length_encode_le_iff {request : Request} (hvalid : request.validate = .ok ()) :
    request.encode.length ≤ Limits.pdu ↔
      request.function?.isSome ∨ request.data.length < Limits.pdu := by
  constructor
  · intro hshort
    rw [length_encode_eq] at hshort
    exact Or.inr hshort
  · rintro (himplemented | hdata)
    · exact length_encode_le ((validate_eq_ok_iff request ()).mp hvalid) himplemented
    · rw [length_encode_eq]
      exact hdata

/-- A frame that is not too long is read at the other end, whatever the medium. -/
theorem frameTo_carried {request : Request} (unit : UInt8) (transactionId : UInt16)
    (hshort : request.encode.length ≤ Limits.pdu) :
    Mbap.decode (Mbap.encode (request.frameTo unit transactionId)) =
        .ok (request.frameTo unit transactionId) ∧
      Headless.decode true (Headless.encode true (request.frameTo unit transactionId)) =
        .ok ⟨⟨0, 0, unit⟩, request.encode⟩ := by
  have hsome : 1 ≤ request.encode.length := by
    rw [length_encode_eq]
    omega
  constructor
  · rw [Mbap.decode_eq_ok_iff_encode]
    exact ⟨⟨rfl, hsome, hshort⟩, rfl⟩
  · exact Headless.decode_encode true hsome hshort

theorem frameTo_refused {request : Request} (unit : UInt8) (transactionId : UInt16)
    (hlong : Limits.pdu < request.encode.length) (read : Frame) :
    Mbap.decode (Mbap.encode (request.frameTo unit transactionId)) ≠ .ok read ∧
      Headless.decode true (Headless.encode true (request.frameTo unit transactionId)) ≠
        .ok read := by
  constructor
  · intro hdecode
    rw [Mbap.decode_eq_ok_iff_encode, Mbap.encode_inj] at hdecode
    obtain ⟨⟨-, -, hshort⟩, rfl⟩ := hdecode
    exact absurd hlong (Nat.not_lt.mpr hshort)
  · intro hdecode
    have hsize := ((Headless.decode_eq_ok_iff_encode _ _ _).mp hdecode).1
    rw [Headless.length_encode] at hsize
    change 1 + request.encode.length + 2 ≤ Limits.serialFrame at hsize
    simp only [Limits.pdu, Limits.serialFrame] at hlong hsize
    omega

/-- A valid request of an implemented function has 1 to 253 octets.  Its frame has a length field
that does not wrap, and is read as it is behind a network header, and with the same payload in
front of a checksum.  The same holds of a request with another function code if it has at most 252
octets of data; if it has more, its frame is refused. -/
theorem valid_request_carried {request : Request} (hvalid : request.validate = .ok ())
    (unit : UInt8) (transactionId : UInt16) :
    let frame := request.frameTo unit transactionId
    1 ≤ request.encode.length ∧
    (request.function?.isSome ∨ request.data.length < Limits.pdu →
      request.encode.length ≤ Limits.pdu ∧
      frame.lengthField.toNat = request.encode.length + 1 ∧
      Mbap.decode (Mbap.encode frame) = .ok frame ∧
      Headless.decode true (Headless.encode true frame) = .ok ⟨⟨0, 0, unit⟩, request.encode⟩) ∧
    (¬(request.function?.isSome ∨ request.data.length < Limits.pdu) →
      Limits.pdu < request.encode.length ∧
      ∀ read, Mbap.decode (Mbap.encode frame) ≠ .ok read ∧
        Headless.decode true (Headless.encode true frame) ≠ .ok read) := by
  intro frame
  have hsome : 1 ≤ request.encode.length := by
    rw [length_encode_eq]
    omega
  refine ⟨hsome, ?_, ?_⟩
  · intro hfits
    have hshort := (length_encode_le_iff hvalid).mpr hfits
    have hfield : frame.lengthField.toNat = request.encode.length + 1 :=
      Frame.lengthField_of_le hshort
    obtain ⟨hmbap, hheadless⟩ := frameTo_carried unit transactionId hshort
    exact ⟨hshort, hfield, hmbap, hheadless⟩
  · intro hfits
    have hlong := Nat.not_le.mp (mt (length_encode_le_iff hvalid).mp hfits)
    exact ⟨hlong, frameTo_refused unit transactionId hlong⟩

/-- The longest request that writes a record fills the payload of a frame. -/
theorem valid_request_carried_record :
    let request := writeFileRecord [⟨1, 0, List.replicate 122 7⟩]
    let frame := request.frameTo 17 42
    request.validate = .ok () ∧ request.encode.length = 253 ∧ frame.lengthField.toNat = 254 ∧
      Mbap.decode (Mbap.encode frame) = .ok frame ∧
      Headless.decode true (Headless.encode true frame) = .ok ⟨⟨0, 0, 17⟩, request.encode⟩ := by
  intro request frame
  have hvalid : request.validate = .ok () := by
    simp [request, validate, RecordData.dataSize, Limits.pdu]
  have hlength : request.encode.length = 253 := by
    rw [length_encode_eq, length_data]
    simp only [request, RecordData.dataSize, List.foldr_cons, List.foldr_nil,
      List.length_replicate]
  obtain ⟨-, hfield, hmbap, hheadless⟩ := (valid_request_carried hvalid 17 42).2.1 (Or.inl rfl)
  rw [hlength] at hfield
  exact ⟨hvalid, hlength, hfield, hmbap, hheadless⟩

/-- The data of a request whose function is not implemented is not limited.  With 253 octets of it
no frame is read.  With 65539 octets the length field wraps, and what is sent begins with a frame of
four octets that are not the request. -/
theorem valid_request_too_long :
    let request := unsupported 0x41 (List.replicate 253 0)
    let wrapped := unsupported 0x41 (List.replicate 65539 0)
    request.validate = .ok () ∧ request.encode.length = 254 ∧
      (∀ read, Mbap.decode (Mbap.encode (request.frameTo 1 0)) ≠ .ok read ∧
        Headless.decode true (Headless.encode true (request.frameTo 1 0)) ≠ .ok read) ∧
      wrapped.validate = .ok () ∧ (wrapped.frameTo 1 0).lengthField.toNat ≠ 65541 ∧
      ∃ rest, Mbap.encode (wrapped.frameTo 1 0) =
        Mbap.encode ⟨⟨0, 0, 1⟩, [0x41, 0, 0, 0]⟩ ++ rest := by
  intro request wrapped
  have hlength : request.encode.length = 254 := by
    rw [length_encode_eq, length_data]
    simp only [request, List.length_replicate]
  have hdata : wrapped.data.length = 65539 := List.length_replicate
  have hwrapped : wrapped.encode.length = 65540 := by rw [length_encode_eq, hdata]
  have hfield : (wrapped.frameTo 1 0).lengthField = 5 := by
    show UInt16.ofNat (wrapped.encode.length + 1) = 5
    rw [hwrapped]
    rfl
  have hlong : Limits.pdu < request.encode.length := by
    rw [hlength]
    decide
  have hsplit : wrapped.encode = [0x41, 0, 0, 0] ++ List.replicate 65536 0 := by
    show 0x41 :: List.replicate (3 + 65536) 0 = _
    rw [List.replicate_add]
    rfl
  refine ⟨rfl, hlength, frameTo_refused 1 0 hlong, rfl, ?_, List.replicate 65536 0, ?_⟩
  · rw [hfield]
    decide
  · show Words.toOctets [0, 0, (wrapped.frameTo 1 0).lengthField] ++ 1 :: wrapped.encode = _
    rw [hfield, hsplit]
    rfl

end Request

end Modbus
