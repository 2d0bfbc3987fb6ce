import Mathlib.Tactic
import Modbus.Proofs.FrameReading
import Modbus.Proofs.Packing

/-!
# One form for each frame

Octets are read as a frame if and only if the frame is written as these octets and is of a length
that its medium allows.  So of two frames that are read none is a part of the other, and a frame
too long for its length field is refused and never read as a shorter one.

The readers match on octets.  Reading them by position gives the same answers, so no position that
is looked at lies behind the end.
-/

namespace Modbus

/-! ## Frames with a network header -/

namespace Mbap

/-- A header is read from at least seven octets, and announces no more than a frame can hold. -/
theorem bounds_of_decodeHeader {octets : List UInt8} {header : Header} {length : Nat}
    (hheader : decodeHeader octets = .ok (header, length)) :
    7 ≤ octets.length ∧ 1 ≤ length ∧ length ≤ Limits.pdu := by
  unfold decodeHeader at hheader
  split at hheader
  next =>
    dsimp only at hheader
    split_ifs at hheader with hprotocol hlength
    obtain ⟨-, rfl⟩ := Prod.mk.inj (Except.ok.inj hheader)
    simp only [Limits.networkLength, Limits.pdu, List.length_cons] at hlength ⊢
    omega
  next => contradiction

theorem length_of_decodeHeader {octets : List UInt8} {header : Header} {length : Nat}
    (hheader : decodeHeader octets = .ok (header, length)) : length ≤ Limits.pdu :=
  (bounds_of_decodeHeader hheader).2.2

/-- What a header announces is what an encoded frame holds. -/
theorem encode_of_decodeHeader {octets pdu : List UInt8} {header : Header} {length : Nat}
    (hheader : decodeHeader octets = .ok (header, length)) (hseven : octets.length = 7)
    (hpdu : pdu.length = length) :
    Framing.mbap.Delimits .request ⟨header, pdu⟩ ∧ encode ⟨header, pdu⟩ = octets ++ pdu := by
  match octets, hseven with
  | [t₁, t₀, p₁, p₀, l₁, l₀, unit], _ =>
    simp only [decodeHeader] at hheader
    split_ifs at hheader with hprotocol hlength
    simp only [Limits.networkLength] at hlength
    obtain ⟨rfl, rfl⟩ := Prod.mk.inj (Except.ok.inj hheader)
    have hcount : pdu.length + 1 = (Word.ofOctets l₁ l₀).toNat := by omega
    have hfield : (Frame.mk ⟨Word.ofOctets t₁ t₀, Word.ofOctets p₁ p₀, unit⟩ pdu).lengthField =
        Word.ofOctets l₁ l₀ := by
      rw [Frame.lengthField, hcount, UInt16.ofNat_toNat]
    refine ⟨⟨not_not.mp hprotocol, ?_, ?_⟩, ?_⟩
    · show 1 ≤ pdu.length
      omega
    · show pdu.length ≤ Limits.pdu
      simp only [Limits.pdu]
      omega
    · simp only [encode, hfield, Words.toOctets_cons, Words.toOctets_nil, Word.toOctets_ofOctets,
        List.cons_append, List.nil_append]

/-- A header is read from the first seven octets. -/
theorem decodeHeader_take (octets : List UInt8) :
    decodeHeader (octets.take 7) = decodeHeader octets := by
  match octets with
  | [] | [_] | [_, _] | [_, _, _] | [_, _, _, _] | [_, _, _, _, _] | [_, _, _, _, _, _]
  | _ :: _ :: _ :: _ :: _ :: _ :: _ :: _ => rfl

theorem decode_eq_of_decodeHeader {octets : List UInt8} {header : Header} {length : Nat}
    (hheader : decodeHeader octets = .ok (header, length)) :
    decode octets =
      if (octets.drop 7).length = length then .ok ⟨header, octets.drop 7⟩
      else .error (.frameLength length (octets.drop 7).length) := by
  unfold decode
  rw [hheader]
  rfl

theorem decode_eq_ok_iff_encode (octets : List UInt8) (frame : Frame) :
    decode octets = .ok frame ↔
      Framing.mbap.Delimits .request frame ∧ encode frame = octets := by
  constructor
  · intro hdecode
    cases hheader : decodeHeader octets with
    | error fault =>
        unfold decode at hdecode
        rw [hheader] at hdecode
        contradiction
    | ok read =>
        obtain ⟨header, length⟩ := read
        rw [decode_eq_of_decodeHeader hheader] at hdecode
        split_ifs at hdecode with hlength
        obtain rfl := Except.ok.inj hdecode
        have hseven : (octets.take 7).length = 7 := by
          have hlong := (bounds_of_decodeHeader hheader).1
          rw [List.length_take]
          omega
        rw [← decodeHeader_take] at hheader
        obtain ⟨hdelimits, hencode⟩ := encode_of_decodeHeader hheader hseven hlength
        rw [List.take_append_drop] at hencode
        exact ⟨hdelimits, hencode⟩
  · rintro ⟨⟨hprotocol, hsome, hshort⟩, rfl⟩
    have hheader := decodeHeader_encode hprotocol hsome hshort
    rw [decodeHeader_take] at hheader
    rw [decode_eq_of_decodeHeader hheader, drop_encode, if_pos rfl]

/-- Different frames are written differently, even if their lengths do not fit their length
fields. -/
theorem encode_inj {frame other : Frame} : encode frame = encode other ↔ frame = other := by
  constructor
  · intro hsame
    have hpdu : frame.pdu = other.pdu := by
      rw [← drop_encode frame, ← drop_encode other, hsame]
    obtain ⟨⟨transactionId, protocolId, unitId⟩, pdu⟩ := frame
    obtain ⟨⟨transactionId', protocolId', unitId'⟩, pdu'⟩ := other
    obtain rfl : pdu = pdu' := hpdu
    obtain ⟨hwords, hbehind⟩ := List.append_inj hsame rfl
    obtain ⟨htransaction, hwords⟩ := List.cons.inj (Words.toOctets_inj.mp hwords)
    obtain ⟨hprotocol, -⟩ := List.cons.inj hwords
    obtain ⟨hunit, -⟩ := List.cons.inj hbehind
    simp only at htransaction hprotocol hunit
    rw [htransaction, hprotocol, hunit]
  · rintro rfl
    rfl

end Mbap

/-! ## Frames without a network header -/

namespace Headless

theorem trailer_eq_iff (body : List UInt8) (low high : UInt8) :
    trailer body = [low, high] ↔ Word.ofOctets high low = Checksum.ofOctets body := by
  rw [trailer, List.reverse_eq_iff, ← Word.toOctets_inj, Word.toOctets_ofOctets, eq_comm]
  rfl

theorem verify_eq_ok_iff {octets : List UInt8} (htwo : 2 ≤ octets.length) (body : List UInt8) :
    verify octets = .ok body ↔ octets = body ++ trailer body := by
  constructor
  · intro hverify
    obtain ⟨low, high, htail⟩ : ∃ low high, octets.drop (octets.length - 2) = [low, high] :=
      List.length_eq_two.mp (by rw [List.length_drop]; omega)
    unfold verify at hverify
    simp only [htail] at hverify
    split_ifs at hverify with hreceived
    obtain rfl := Except.ok.inj hverify
    rw [(trailer_eq_iff _ low high).mpr hreceived, ← htail, List.take_append_drop]
  · rintro rfl
    exact verify_trailer body

/-- As many octets as a frame may have. -/
def Sized (checksum : Bool) (octets : List UInt8) : Prop :=
  (if checksum then 4 else 2) ≤ octets.length ∧ octets.length ≤ Limits.serialFrame

theorem Sized.two_le {checksum : Bool} {octets : List UInt8} (hsized : Sized checksum octets) :
    2 ≤ octets.length := by
  have hlong := hsized.1
  cases checksum <;> simp at hlong <;> omega

/-- What stands in front of the checksum, if there is one. -/
def body (checksum : Bool) (octets : List UInt8) : Except ProtocolFault (List UInt8) :=
  if checksum then verify octets else .ok octets

theorem decode_of_not_sized {checksum : Bool} {octets : List UInt8}
    (hsized : ¬Sized checksum octets) :
    decode checksum octets = .error (.headlessLength octets.length) := by
  rw [Sized, not_and_or, Nat.not_le, Nat.not_le] at hsized
  unfold decode
  rw [if_pos hsized]
  rfl

theorem decode_of_sized {checksum : Bool} {octets : List UInt8} (hsized : Sized checksum octets) :
    decode checksum octets =
      match body checksum octets with
      | .error fault => .error fault
      | .ok [] => .error (.headlessLength octets.length)
      | .ok (unit :: pdu) => .ok ⟨⟨0, 0, unit⟩, pdu⟩ := by
  rw [Sized, ← Nat.not_lt, ← Nat.not_lt, ← not_or] at hsized
  unfold decode
  rw [if_neg hsized]
  cases checksum with
  | false => cases octets <;> rfl
  | true =>
      simp only [body, if_true]
      rcases verify octets with fault | _ | ⟨unit, pdu⟩ <;> rfl

theorem verify_error {octets : List UInt8} {fault : ProtocolFault}
    (hverify : verify octets = .error fault) :
    ∃ expected received, fault = .checksum expected received := by
  unfold verify at hverify
  dsimp only at hverify
  split_ifs at hverify
  exact ⟨_, _, (Except.error.inj hverify).symm⟩

theorem decode_of_verify {octets : List UInt8} {fault : ProtocolFault}
    (hsome : 4 ≤ octets.length) (hshort : octets.length ≤ Limits.serialFrame)
    (hverify : verify octets = .error fault) : decode true octets = .error fault := by
  have hsized : Sized true octets := ⟨hsome, hshort⟩
  rw [decode_of_sized hsized, body, if_pos rfl, hverify]

theorem length_body {checksum : Bool} {octets front : List UInt8}
    (hbody : body checksum octets = .ok front) :
    front.length = octets.length - if checksum then 2 else 0 := by
  cases checksum with
  | false =>
      obtain rfl := Except.ok.inj hbody
      rfl
  | true =>
      change verify octets = .ok front at hbody
      unfold verify at hbody
      dsimp only at hbody
      split_ifs at hbody
      obtain rfl := Except.ok.inj hbody
      rw [List.length_take]
      simp

/-- In front of the checksum there are a unit and a payload. -/
theorem exists_of_body {checksum : Bool} {octets front : List UInt8}
    (hsized : Sized checksum octets) (hbody : body checksum octets = .ok front) :
    ∃ unit pdu, front = unit :: pdu ∧ pdu ≠ [] := by
  have hlength := length_body hbody
  have htwo : 2 ≤ front.length := by
    have hlong := hsized.1
    cases checksum <;> simp at hlong hlength <;> omega
  match front, htwo with
  | unit :: code :: payload, _ => exact ⟨unit, code :: payload, rfl, List.cons_ne_nil _ _⟩

/-- Octets are refused for their number or for their checksum. -/
theorem fault_of_decode {checksum : Bool} {octets : List UInt8} {fault : ProtocolFault}
    (hdecode : decode checksum octets = .error fault) :
    (¬Sized checksum octets ∧ fault = .headlessLength octets.length) ∨
      (Sized checksum octets ∧ ∃ calculated received, fault = .checksum calculated received) := by
  by_cases hsized : Sized checksum octets
  · rw [decode_of_sized hsized] at hdecode
    cases hbody : body checksum octets with
    | ok front =>
        obtain ⟨unit, pdu, rfl, -⟩ := exists_of_body hsized hbody
        rw [hbody] at hdecode
        contradiction
    | error other =>
        rw [hbody] at hdecode
        obtain rfl := Except.error.inj hdecode
        cases checksum with
        | false => contradiction
        | true => exact Or.inr ⟨hsized, verify_error hbody⟩
  · rw [decode_of_not_sized hsized] at hdecode
    exact Or.inl ⟨hsized, (Except.error.inj hdecode).symm⟩

theorem body_eq_ok_iff {checksum : Bool} {octets : List UInt8} (hsized : Sized checksum octets)
    (unit : UInt8) (pdu : List UInt8) :
    body checksum octets = .ok (unit :: pdu) ↔
      encode checksum ⟨⟨0, 0, unit⟩, pdu⟩ = octets := by
  cases checksum with
  | false =>
      simp only [body, Bool.false_eq_true, if_false, Except.ok.injEq]
      exact eq_comm
  | true =>
      simp only [body, if_true]
      rw [verify_eq_ok_iff hsized.two_le, eq_comm]
      rfl

theorem sized_encode {checksum : Bool} {frame : Frame} (hpdu : frame.pdu ≠ [])
    (hshort : (encode checksum frame).length ≤ Limits.serialFrame) :
    Sized checksum (encode checksum frame) := by
  have hlength := length_encode checksum frame
  have hsome := List.length_pos_of_ne_nil hpdu
  refine ⟨?_, hshort⟩
  cases checksum <;> simp at hlength ⊢ <;> omega

theorem decode_eq_ok_iff_encode (checksum : Bool) (octets : List UInt8) (frame : Frame) :
    decode checksum octets = .ok frame ↔
      octets.length ≤ Limits.serialFrame ∧ frame.header.transactionId = 0 ∧
        frame.header.protocolId = 0 ∧ frame.pdu ≠ [] ∧ encode checksum frame = octets := by
  constructor
  · intro hdecode
    by_cases hsized : Sized checksum octets
    · rw [decode_of_sized hsized] at hdecode
      cases hbody : body checksum octets with
      | error fault =>
          rw [hbody] at hdecode
          contradiction
      | ok front =>
          obtain ⟨unit, pdu, rfl, hpdu⟩ := exists_of_body hsized hbody
          rw [hbody] at hdecode
          obtain rfl := Except.ok.inj hdecode
          exact ⟨hsized.2, rfl, rfl, hpdu, (body_eq_ok_iff hsized unit pdu).mp hbody⟩
    · rw [decode_of_not_sized hsized] at hdecode
      contradiction
  · rintro ⟨hshort, htransaction, hprotocol, hpdu, rfl⟩
    obtain ⟨⟨transactionId, protocolId, unit⟩, pdu⟩ := frame
    simp only at htransaction hprotocol hpdu
    subst htransaction hprotocol
    have hsized := sized_encode hpdu hshort
    rw [decode_of_sized hsized, (body_eq_ok_iff hsized unit pdu).mpr rfl]

end Headless

/-! ## Reading by position -/

/-- What stands at a position and behind it, unless the position lies behind the end. -/
def suffixAt? (octets : List UInt8) (position : Nat) : Option (List UInt8) :=
  if position ≤ octets.length then some (octets.drop position) else none

/-- What stands before the last `count` octets, and these. -/
def splitEnd? (octets : List UInt8) (count : Nat) : Option (List UInt8 × List UInt8) :=
  if count ≤ octets.length then
    some (octets.take (octets.length - count), octets.drop (octets.length - count))
  else none

namespace Mbap

def decodeHeaderAt? (octets : List UInt8) : Option (Except ProtocolFault (Header × Nat)) :=
  if octets.length < Limits.networkPrefix + 1 then
    some (.error (.shortNetworkHeader octets.length))
  else do
    let transactionId := Word.ofOctets (← octets[0]?) (← octets[1]?)
    let protocolId := Word.ofOctets (← octets[2]?) (← octets[3]?)
    let length := Word.ofOctets (← octets[4]?) (← octets[5]?)
    let unitId ← octets[6]?
    if protocolId ≠ 0 then
      some (.error (.protocolId protocolId))
    else if length.toNat < 2 ∨ Limits.networkLength < length.toNat then
      some (.error (.lengthField length))
    else
      some (.ok (⟨transactionId, protocolId, unitId⟩, length.toNat - 1))

/-- Reads a frame and its function code by position; there is no result if a position lies behind
the end. -/
def decodeAt? (octets : List UInt8) : Option (Except ProtocolFault Frame) := do
  match ← decodeHeaderAt? octets with
  | .error fault => some (.error fault)
  | .ok (header, length) =>
    let pdu ← suffixAt? octets (Limits.networkPrefix + 1)
    if pdu.length ≠ length then
      some (.error (.frameLength length pdu.length))
    else
      let _functionCode ← pdu[0]?
      some (.ok ⟨header, pdu⟩)

theorem decodeHeaderAt?_eq (octets : List UInt8) :
    decodeHeaderAt? octets = some (decodeHeader octets) := by
  match octets with
  | [] | [_] | [_, _] | [_, _, _] | [_, _, _, _] | [_, _, _, _, _] | [_, _, _, _, _, _] => rfl
  | t₁ :: t₀ :: p₁ :: p₀ :: l₁ :: l₀ :: unit :: rest =>
    have hlong : ¬(t₁ :: t₀ :: p₁ :: p₀ :: l₁ :: l₀ :: unit :: rest).length <
        Limits.networkPrefix + 1 := by
      simp only [List.length_cons, Limits.networkPrefix]
      omega
    unfold decodeHeaderAt? decodeHeader
    rw [if_neg hlong]
    simp only [List.getElem?_cons_zero, List.getElem?_cons_succ, Option.bind_eq_bind,
      Option.bind_some]
    split_ifs <;> rfl

theorem decodeAt?_eq (octets : List UInt8) : decodeAt? octets = some (decode octets) := by
  unfold decodeAt?
  rw [decodeHeaderAt?_eq]
  cases hheader : decodeHeader octets with
  | error fault =>
      unfold decode
      rw [hheader]
      rfl
  | ok read =>
      obtain ⟨header, length⟩ := read
      obtain ⟨hlong, hsome, -⟩ := bounds_of_decodeHeader hheader
      have hsuffix : suffixAt? octets (Limits.networkPrefix + 1) = some (octets.drop 7) :=
        if_pos hlong
      rw [decode_eq_of_decodeHeader hheader]
      simp only [Option.bind_eq_bind, Option.bind_some, hsuffix]
      by_cases hlength : (octets.drop 7).length = length
      · obtain ⟨code, payload, hpdu⟩ :=
          List.exists_cons_of_length_pos (by omega : 0 < (octets.drop 7).length)
        rw [if_neg (not_not.mpr hlength), if_pos hlength, hpdu]
        rfl
      · rw [if_pos hlength, if_neg hlength]

end Mbap

namespace Headless

def verifyAt? (octets : List UInt8) : Option (Except ProtocolFault (List UInt8)) := do
  let (body, tail) ← splitEnd? octets 2
  let received := Word.ofOctets (← tail[1]?) (← tail[0]?)
  if received = Checksum.ofOctets body then
    some (.ok body)
  else
    some (.error (.checksum (Checksum.ofOctets body) received))

def bodyAt? (checksum : Bool) (octets : List UInt8) :
    Option (Except ProtocolFault (List UInt8)) :=
  if checksum then verifyAt? octets else some (.ok octets)

def decodeAt? (checksum : Bool) (octets : List UInt8) : Option (Except ProtocolFault Frame) :=
  if octets.length < (if checksum then 4 else 2) ∨ Limits.serialFrame < octets.length then
    some (.error (.headlessLength octets.length))
  else do
    match ← bodyAt? checksum octets with
    | .error fault => some (.error fault)
    | .ok front =>
      let unit ← front[0]?
      let pdu ← suffixAt? front 1
      some (.ok ⟨⟨0, 0, unit⟩, pdu⟩)

theorem verifyAt?_eq {octets : List UInt8} (htwo : 2 ≤ octets.length) :
    verifyAt? octets = some (verify octets) := by
  obtain ⟨low, high, htail⟩ : ∃ low high, octets.drop (octets.length - 2) = [low, high] :=
    List.length_eq_two.mp (by rw [List.length_drop]; omega)
  have hsplit : splitEnd? octets 2 =
      some (octets.take (octets.length - 2), [low, high]) := by
    rw [splitEnd?, if_pos htwo, htail]
  unfold verifyAt? verify
  rw [hsplit, htail]
  simp only [Option.bind_eq_bind, Option.bind_some, List.getElem?_cons_zero,
    List.getElem?_cons_succ]
  split_ifs <;> rfl

theorem bodyAt?_eq {checksum : Bool} {octets : List UInt8} (hsized : Sized checksum octets) :
    bodyAt? checksum octets = some (body checksum octets) := by
  cases checksum with
  | false => rfl
  | true => exact verifyAt?_eq hsized.two_le

theorem decodeAt?_eq (checksum : Bool) (octets : List UInt8) :
    decodeAt? checksum octets = some (decode checksum octets) := by
  unfold decodeAt?
  by_cases hsized : Sized checksum octets
  · rw [if_neg (by rw [not_or, Nat.not_lt, Nat.not_lt]; exact hsized), bodyAt?_eq hsized,
      decode_of_sized hsized]
    cases hbody : body checksum octets with
    | error fault => rfl
    | ok front =>
        obtain ⟨unit, pdu, rfl, -⟩ := exists_of_body hsized hbody
        rfl
  · rw [decode_of_not_sized hsized, if_pos]
    rwa [Sized, not_and_or, Nat.not_le, Nat.not_le] at hsized

end Headless

/-- Octets are a frame with a network header if and only if the frame has protocol identifier zero
and a payload of 1 to 253 octets and is written as them.  They are a frame without one if and only
if there are at most 256 of them and the frame has a payload, nothing but zeros in front of its
unit, and is written as them.  So what a frame with a network header is written as is read as this
frame or not at all, and it is refused if its length does not fit the length field.  No reader
looks behind the end of its octets. -/
theorem Framing.decode_iff_encode :
    (∀ octets frame, Mbap.decode octets = .ok frame ↔
      frame.header.protocolId = 0 ∧ 1 ≤ frame.pdu.length ∧ frame.pdu.length ≤ Limits.pdu ∧
        Mbap.encode frame = octets) ∧
    (∀ checksum octets frame, Headless.decode checksum octets = .ok frame ↔
      octets.length ≤ Limits.serialFrame ∧ frame.header.transactionId = 0 ∧
        frame.header.protocolId = 0 ∧ frame.pdu ≠ [] ∧ Headless.encode checksum frame = octets) ∧
    (∀ frame read, Mbap.decode (Mbap.encode frame) = .ok read ↔
      frame.header.protocolId = 0 ∧ 1 ≤ frame.pdu.length ∧ frame.pdu.length ≤ Limits.pdu ∧
        read = frame) ∧
    (∀ frame, frame.lengthField.toNat ≠ frame.pdu.length + 1 →
      ∃ fault, Mbap.decode (Mbap.encode frame) = .error fault) ∧
    (∀ octets, Mbap.decodeAt? octets = some (Mbap.decode octets)) ∧
    ∀ checksum octets,
      Headless.decodeAt? checksum octets = some (Headless.decode checksum octets) := by
  have hcarried (frame read : Frame) : Mbap.decode (Mbap.encode frame) = .ok read ↔
      Framing.mbap.Delimits .request frame ∧ read = frame := by
    rw [Mbap.decode_eq_ok_iff_encode, Mbap.encode_inj]
    constructor
    · rintro ⟨hdelimits, rfl⟩
      exact ⟨hdelimits, rfl⟩
    · rintro ⟨hdelimits, rfl⟩
      exact ⟨hdelimits, rfl⟩
  refine ⟨?_, Headless.decode_eq_ok_iff_encode, ?_, ?_, Mbap.decodeAt?_eq, Headless.decodeAt?_eq⟩
  · intro octets frame
    rw [Mbap.decode_eq_ok_iff_encode]
    exact and_assoc.trans (and_congr_right fun _ => and_assoc)
  · intro frame read
    exact (hcarried frame read).trans (and_assoc.trans (and_congr_right fun _ => and_assoc))
  · intro frame hwrapped
    cases hdecode : Mbap.decode (Mbap.encode frame) with
    | error fault => exact ⟨fault, rfl⟩
    | ok read =>
        obtain ⟨⟨-, -, hshort⟩, -⟩ := (hcarried frame read).mp hdecode
        exact absurd (Frame.lengthField_of_le hshort) hwrapped

/-- The length field of a frame with 65540 octets announces four of them; the frame is refused all
the same. -/
theorem Framing.decode_iff_encode_wrapped :
    let frame : Frame := ⟨⟨1, 0, 1⟩, List.replicate 65540 0⟩
    frame.lengthField = 5 ∧ frame.lengthField.toNat ≠ frame.pdu.length + 1 ∧
      ∃ fault, Mbap.decode (Mbap.encode frame) = .error fault := by
  intro frame
  have hlength : frame.pdu.length = 65540 := List.length_replicate
  have hfield : frame.lengthField = 5 := by
    rw [Frame.lengthField, hlength]
    rfl
  have hwrapped : frame.lengthField.toNat ≠ frame.pdu.length + 1 := by
    rw [hfield, hlength]
    decide
  exact ⟨hfield, hwrapped, Framing.decode_iff_encode.2.2.2.1 frame hwrapped⟩

end Modbus
