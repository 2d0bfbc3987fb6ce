import Mathlib.Tactic
import Modbus.Proofs.FrameForms
import Modbus.Proofs.FrameStreams

/-!
# Frames taken for requests

Without a network header a slave takes every frame on its line for a request, also
the answers of other units.  How many octets it takes follows from the function code
and from where a request has its count.  For an answer that can be the length of the
answer, or less, or more.
-/

namespace Modbus

/-! ## How far a request reaches -/

/-- A shape that fits into a payload finds its count in the part that it demands. -/
theorem Shape.length_take {shape : Shape} {payload : List UInt8}
    (hfits : shape.length payload ≤ payload.length) :
    shape.length (payload.take (shape.length payload)) =
      (payload.take (shape.length payload)).length := by
  rw [List.length_take, Nat.min_eq_left hfits]
  cases shape with
  | fixed length => rfl
  | counted offset width =>
      simp only [Shape.length] at hfits ⊢
      rw [List.drop_take, List.take_take, Nat.min_eq_left (by omega)]

/-- What follows a payload does not change how long it is. -/
theorem Shape.length_append {shape : Shape} {payload more : List UInt8}
    (hfits : shape.length payload ≤ payload.length) :
    shape.length (payload ++ more) = shape.length payload := by
  cases shape with
  | fixed length => rfl
  | counted offset width =>
      simp only [Shape.length] at hfits ⊢
      rw [List.drop_append_of_le_length (by omega),
        List.take_append_of_le_length (by rw [List.length_drop]; omega)]

namespace Headless

/-- How many octets a reader of requests takes that finds the given ones, checksum and all.
Nothing tells how many it takes if the function is not implemented. -/
def requestSpan (octets : List UInt8) : Option Nat :=
  match octets with
  | _ :: code :: payload => (Shape.request? code).map fun shape => 4 + shape.length payload
  | _ => none

theorem requestSpan_eq_some {octets : List UInt8} {count : Nat}
    (hspan : requestSpan octets = some count) :
    ∃ unit code payload shape, octets = unit :: code :: payload ∧
      Shape.request? code = some shape ∧ count = 4 + shape.length payload := by
  match octets, hspan with
  | unit :: code :: payload, hspan =>
    obtain ⟨shape, hshape, rfl⟩ := Option.map_eq_some_iff.mp hspan
    exact ⟨unit, code, payload, shape, rfl, hshape, rfl⟩

theorem four_le_requestSpan {octets : List UInt8} {count : Nat}
    (hspan : requestSpan octets = some count) : 4 ≤ count := by
  obtain ⟨-, -, -, shape, -, -, rfl⟩ := requestSpan_eq_some hspan
  omega

end Headless

namespace Transport

/-- As many octets are taken as the function code tells, whatever they are. -/
theorem takes_requestSpan {octets : List UInt8} {count : Nat}
    (hspan : Headless.requestSpan octets = some count) (hcount : count ≤ octets.length)
    (hroom : count ≤ bufferSize) :
    Takes (fun transport => transport.deadline .request) (headlessOctets .request true)
      (octets.take count) (octets.take count) := by
  obtain ⟨unit, code, payload, shape, rfl, hshape, rfl⟩ := Headless.requestSpan_eq_some hspan
  simp only [List.length_cons] at hcount
  have hfits : shape.length payload ≤ payload.length := by omega
  have htrailing : ((payload.drop (shape.length payload)).take 2).length = 2 := by
    rw [List.length_take, List.length_drop]
    omega
  have htake : (unit :: code :: payload).take (4 + shape.length payload) =
      unit :: code :: (payload.take (shape.length payload) ++
        (payload.drop (shape.length payload)).take 2) := by
    rw [← List.take_add, Nat.add_comm 4]
    rfl
  rw [htake]
  refine takes_octets_of_shape unit hshape (Shape.length_take hfits) htrailing ?_
  rw [htrailing, List.length_take]
  omega

end Transport

/-! ## What a reader of requests makes of a frame -/

namespace Frame

/-- A frame that a reader of requests takes as it is: it is as long as its function code tells,
or its function is not implemented. -/
def Legible (frame : Frame) : Prop :=
  Headless.requestSpan (Headless.encode true frame) = none ∨
    Headless.requestSpan (Headless.encode true frame) = some (Headless.encode true frame).length

instance (frame : Frame) : Decidable frame.Legible := inferInstanceAs (Decidable (_ ∨ _))

/-- A frame that a reader of requests takes for a damaged one, and gets over: it is as long as
its function code tells, or longer, and what looks like a request has a wrong checksum. -/
def Garbled (frame : Frame) : Prop :=
  ∃ count, Headless.requestSpan (Headless.encode true frame) = some count ∧
    count ≤ (Headless.encode true frame).length ∧
    ∃ fault, Headless.verify ((Headless.encode true frame).take count) = .error fault

/-- A frame that ends before the request that it is taken for. -/
def Short (frame : Frame) : Prop :=
  ∃ count, Headless.requestSpan (Headless.encode true frame) = some count ∧
    (Headless.encode true frame).length < count

theorem encode_eq {unit code : UInt8} {data : List UInt8} {frame : Frame}
    (hunit : frame.header.unitId = unit) (hpdu : frame.pdu = code :: data) :
    Headless.encode true frame =
      unit :: code :: (data ++ Headless.trailer (unit :: code :: data)) := by
  rw [Headless.encode, hunit, hpdu]
  rfl

theorem requestSpan_encode {code : UInt8} {data : List UInt8} {frame : Frame}
    (hpdu : frame.pdu = code :: data) :
    Headless.requestSpan (Headless.encode true frame) =
      (Shape.request? code).map fun shape => 4 + shape.length
        (data ++ Headless.trailer (frame.header.unitId :: code :: data)) := by
  rw [encode_eq rfl hpdu]
  rfl

theorem length_encode {code : UInt8} {data : List UInt8} {frame : Frame}
    (hpdu : frame.pdu = code :: data) :
    (Headless.encode true frame).length = 4 + data.length := by
  rw [Headless.length_encode, hpdu, List.length_cons, if_pos rfl]
  omega

/-- A request for any function, implemented or not. -/
def IsRequest (frame : Frame) : Prop :=
  (Framing.headless true).Carries .request frame ∨
    ∃ code data, frame.pdu = code :: data ∧ Function.ofCode? code = none

theorem legible_of_shaped {frame : Frame} (hshaped : frame.Shaped .request) : frame.Legible := by
  obtain ⟨code, data, shape, hpdu, hknown, hshape⟩ := hshaped
  change Shape.request? code = some shape at hknown
  right
  rw [requestSpan_encode hpdu, length_encode hpdu, hknown, Option.map_some,
    Shape.length_append hshape.le, hshape]

theorem legible_of_unknown {frame : Frame} {code : UInt8} {data : List UInt8}
    (hpdu : frame.pdu = code :: data) (hunknown : Function.ofCode? code = none) :
    frame.Legible := by
  left
  rw [requestSpan_encode hpdu, Shape.request?, hunknown]
  rfl

/-- A request is taken as it is. -/
theorem legible_of_isRequest {frame : Frame} (hrequest : frame.IsRequest) : frame.Legible := by
  rcases hrequest with hcarries | ⟨code, data, hpdu, hunknown⟩
  · exact legible_of_shaped hcarries.delimits.2
  · exact legible_of_unknown hpdu hunknown

/-- No part of a frame in front looks like a request with a right checksum. -/
def Unmistakable (frame : Frame) : Prop :=
  ∀ count, Headless.requestSpan (Headless.encode true frame) = some count →
    count < (Headless.encode true frame).length →
    ∃ fault, Headless.verify ((Headless.encode true frame).take count) = .error fault

/-- A frame that is not too short is got over. -/
theorem passes_of_not_short {frame : Frame} (hlong : ¬frame.Short)
    (hunmistakable : frame.Unmistakable) : frame.Legible ∨ frame.Garbled := by
  cases hspan : Headless.requestSpan (Headless.encode true frame) with
  | none => exact Or.inl (Or.inl hspan)
  | some count =>
      rcases Nat.lt_trichotomy count (Headless.encode true frame).length with hless | hsame | hmore
      · exact Or.inr ⟨count, hspan, hless.le, hunmistakable count hspan hless⟩
      · exact Or.inl (Or.inr (hsame ▸ hspan))
      · exact absurd ⟨count, hspan, hmore⟩ hlong

end Frame

/-! ## Answers of other units -/

namespace Response

/-- Answers that are over before the request that they are taken for: those with less than
three octets of values, and those that say that several coils or registers were written.
After several were written and read the fourth value stands where a request has its count. -/
def EndsEarly : Response → Prop
  | readCoils values | readDiscreteInputs values => values.length ≤ 16
  | readHoldingRegisters values | readInputRegisters values => values.length ≤ 1
  | writeMultipleCoils .. | writeMultipleRegisters .. => True
  | readWriteMultipleRegisters values =>
    ∀ value ∈ values[3]?, 2 * values.length < 8 + value.toNat % 256
  | _ => False

theorem short_iff_shape (header : Header) {response : Response} {function : Function}
    (hfunction : response.function? = some function) :
    (Frame.mk header response.encode).Short ↔
      response.data.length < function.requestShape.length
        (response.data ++ Headless.trailer (header.unitId :: response.encode)) := by
  have hpdu : (Frame.mk header response.encode).pdu =
      response.functionCode :: response.data := rfl
  have hshape : Shape.request? response.functionCode = some function.requestShape := by
    rw [Shape.request?, code_of_function? hfunction, Function.ofCode?_code]
    rfl
  unfold Frame.Short
  rw [Frame.requestSpan_encode hpdu, Frame.length_encode hpdu, hshape]
  simp [encode]

theorem not_short_exception (header : Header) (code : UInt8) (reason : ExceptionCode) :
    ¬(Frame.mk header (exception code reason).encode).Short := by
  have hunknown : Function.ofCode? (exceptionCode code) = none :=
    UInt8.forall_of_fin (fun code => Function.ofCode? (exceptionCode code) = none)
      (by decide +kernel) code
  have hpdu : (Frame.mk header (exception code reason).encode).pdu =
      exceptionCode code :: [reason.toOctet] := rfl
  rintro ⟨count, hspan, -⟩
  rw [Frame.requestSpan_encode hpdu, Shape.request?, hunknown] at hspan
  contradiction

theorem short_iff_endsEarly (header : Header) {response : Response} (hfits : response.Fits) :
    (Frame.mk header response.encode).Short ↔ response.EndsEarly := by
  cases response with
  | exception code reason =>
      simp only [not_short_exception, EndsEarly]
  | readCoils values | readDiscreteInputs values | readHoldingRegisters values
  | readInputRegisters values =>
      rw [short_iff_shape header rfl, length_data]
      simp only [Function.requestShape, Shape.length, EndsEarly]
      omega
  | writeSingleCoil reference value | writeSingleRegister reference value
  | maskWriteRegister reference andMask orMask | readFifoQueue values =>
      rw [short_iff_shape header rfl, length_data]
      simp only [Function.requestShape, Shape.length, EndsEarly, iff_false]
      omega
  | writeMultipleCoils reference count | writeMultipleRegisters reference count =>
      rw [short_iff_shape header rfl, length_data]
      simp only [Function.requestShape, Shape.length, EndsEarly, iff_true]
      omega
  | readFileRecord records | writeFileRecord records =>
      -- Here requests and answers have their count at the same place.
      have hshape := length_responseShape hfits rfl
      rw [short_iff_shape header rfl]
      simp only [EndsEarly, iff_false, Nat.not_lt]
      exact ((Shape.length_append hshape.le).trans hshape).le
  | readWriteMultipleRegisters values =>
      rw [short_iff_shape header rfl, length_data]
      simp only [Function.requestShape, Shape.length, EndsEarly]
      generalize Headless.trailer _ = trailing
      rcases values with _ | ⟨first, _ | ⟨second, _ | ⟨third, _ | ⟨fourth, rest⟩⟩⟩⟩
      case cons.cons.cons.cons =>
        have hcount : (((readWriteMultipleRegisters
            (first :: second :: third :: fourth :: rest)).data ++ trailing).drop 8).take 1 =
              [UInt8.ofNat (fourth.toNat % 256)] := rfl
        have hoctet : (UInt8.ofNat (fourth.toNat % 256)).toNat = fourth.toNat % 256 :=
          UInt8.toNat_ofNat_of_lt' (Nat.mod_lt _ (by decide))
        have hfourth : (first :: second :: third :: fourth :: rest)[3]? = some fourth := rfl
        simp only [hcount, Shape.count_octet, hoctet, hfourth, Option.mem_some_iff, forall_eq']
        omega
      -- With fewer values the answer is over before a request has its count.
      all_goals
        refine iff_of_true ?_ fun value hvalue => by contradiction
        simp only [List.length_cons, List.length_nil]
        omega

end Response

/-- An answer that a slave gets over that takes it for a request. -/
structure Frame.IsHarmlessAnswer (frame : Frame) : Prop where
  answer : ∃ response : Response, frame.pdu = response.encode ∧ response.Fits ∧
    ¬response.EndsEarly
  unmistakable : frame.Unmistakable

theorem Frame.IsHarmlessAnswer.passes {frame : Frame} (hharmless : frame.IsHarmlessAnswer) :
    frame.Legible ∨ frame.Garbled := by
  obtain ⟨header, pdu⟩ := frame
  obtain ⟨⟨response, rfl, hfits, hlate⟩, hunmistakable⟩ := hharmless
  have hlong := mt (Response.short_iff_endsEarly header hfits).mp hlate
  exact passes_of_not_short hlong hunmistakable

end Modbus
