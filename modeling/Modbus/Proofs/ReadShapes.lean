import Mathlib.Tactic
import Modbus.Proofs.AcceptedAnswers

/-!
# How much a read gives back

A call that reads gives back as many bits or registers as it was asked for, whatever the
connection delivers, or fails.  Of the records of a file it counts the pieces only: as long as
those that were asked for are the pieces if the unit has sent them so.
-/

namespace Modbus

namespace Request

/-- Whether a request says how much is to be read. -/
def asksSize : Request → Bool
  | readCoils .. | readDiscreteInputs .. | readHoldingRegisters .. | readInputRegisters ..
  | readFileRecord _ | readWriteMultipleRegisters .. => true
  | _ => false

/-- The pieces of records in an answer are as long as those that were asked for; other answers
have none. -/
def RecordsFit : Request → Response → Prop
  | readFileRecord records, .readFileRecord values =>
    List.Forall₂ (fun (span : RecordSpan) (registers : List UInt16) =>
      registers.length = span.length.toNat) records values
  | _, _ => True

/-- Octets that say how many octets of bits follow, just as many as a number of bits takes. -/
def CarriesBits (function : Function) (count : Nat) (pdu : List UInt8) (bits : List Bool) : Prop :=
  ∃ packed, packed.length = (count + 7) / 8 ∧
    pdu = function.code :: byteCount packed.length :: packed ∧ bits = Bits.unpack packed count

/-- Octets that say how many octets of registers follow, just as many as the registers take. -/
def CarriesRegisters (function : Function) (count : Nat) (pdu : List UInt8)
    (registers : List UInt16) : Prop :=
  registers.length = count ∧
    pdu = function.code :: byteCount (count * 2) :: Words.toOctets registers

/-- Octets that carry what a request wants to know, no less and no more. -/
def Carries (pdu : List UInt8) : Request → Answer → Prop
  | readCoils _ count, .bits bits => CarriesBits .readCoils count.toNat pdu bits
  | readDiscreteInputs _ count, .bits bits => CarriesBits .readDiscreteInputs count.toNat pdu bits
  | readHoldingRegisters _ count, .registers registers =>
    CarriesRegisters .readHoldingRegisters count.toNat pdu registers
  | readInputRegisters _ count, .registers registers =>
    CarriesRegisters .readInputRegisters count.toNat pdu registers
  | readWriteMultipleRegisters _ count _ _, .registers registers =>
    CarriesRegisters .readWriteMultipleRegisters count.toNat pdu registers
  | readFileRecord records, .records values =>
    values.length = records.length ∧ FileAnswer.dataSize values ≤ 255 ∧
      pdu = Function.readFileRecord.code :: byteCount (FileAnswer.dataSize values) ::
        values.flatMap FileAnswer.encode
  | _, _ => False

variable {request : Request} {answer : Answer} {response : Response} {pdu : List UInt8}

theorem expects_of_takes (hsized : request.asksSize = true)
    (htakes : request.Takes answer response) (hfit : request.RecordsFit response) :
    request.Expects answer := by
  cases request <;> simp only [asksSize, Bool.false_eq_true] at hsized <;> cases response <;>
    simp only [Takes] at htakes
  case readCoils.readCoils =>
    obtain ⟨hleast, -, rfl⟩ := htakes
    exact List.length_take_of_le hleast
  case readDiscreteInputs.readDiscreteInputs =>
    obtain ⟨hleast, -, rfl⟩ := htakes
    exact List.length_take_of_le hleast
  case readFileRecord.readFileRecord =>
    obtain ⟨-, rfl⟩ := htakes
    exact hfit
  all_goals
    obtain ⟨hlength, rfl⟩ := htakes
    exact hlength

theorem carriesBits_of_padded (function : Function) {count : Nat} {values : List Bool}
    (hpadded : Bits.pad values = values) (hleast : count ≤ values.length)
    (hmost : values.length ≤ (count + 7) / 8 * 8) :
    CarriesBits function count
      (function.code :: byteCount (Bits.pack values).length :: Bits.pack values)
      (values.take count) := by
  have hwhole := congrArg List.length hpadded
  rw [Bits.length_pad] at hwhole
  refine ⟨Bits.pack values, ?_, rfl, ?_⟩
  · rw [Bits.length_pack]
    omega
  · rw [Bits.unpack, Bits.flatMap_ofOctet_pack, hpadded]

theorem carries_of_takes (hsized : request.asksSize = true)
    (hdecode : Response.decode pdu = .ok response) (htakes : request.Takes answer response) :
    request.Carries pdu answer := by
  obtain ⟨-, ⟨hfits, hpadded⟩, rfl⟩ := (Response.decode_eq_ok_iff pdu response).mp hdecode
  cases request <;> simp only [asksSize, Bool.false_eq_true] at hsized <;> cases response <;>
    simp only [Takes] at htakes
  case readCoils.readCoils =>
    obtain ⟨hleast, hmost, rfl⟩ := htakes
    exact carriesBits_of_padded .readCoils (Response.readCoils.inj hpadded) hleast hmost
  case readDiscreteInputs.readDiscreteInputs =>
    obtain ⟨hleast, hmost, rfl⟩ := htakes
    exact carriesBits_of_padded .readDiscreteInputs (Response.readDiscreteInputs.inj hpadded) hleast
      hmost
  case readFileRecord.readFileRecord =>
    obtain ⟨hlength, rfl⟩ := htakes
    exact ⟨hlength, hfits, rfl⟩
  all_goals
    obtain ⟨hlength, rfl⟩ := htakes
    exact ⟨hlength, by rw [← hlength]; rfl⟩

/-- Bits that are carried come in whole octets, which are padded already. -/
theorem CarriesBits.exists_values {function : Function} {count : Nat} {bits : List Bool}
    (hcarries : CarriesBits function count pdu bits) :
    ∃ values, Bits.pad values = values ∧ values.length = (count + 7) / 8 * 8 ∧
      pdu = function.code :: byteCount (Bits.pack values).length :: Bits.pack values ∧
      bits = values.take count := by
  obtain ⟨packed, hlength, rfl, rfl⟩ := hcarries
  refine ⟨packed.flatMap Bits.ofOctet, ?_, ?_, ?_, rfl⟩
  · rw [← Bits.flatMap_ofOctet_pack, Bits.pack_flatMap_ofOctet]
  · rw [Bits.length_flatMap_ofOctet, hlength]
  · rw [Bits.pack_flatMap_ofOctet]

/-- Octets that carry what a valid request wants to know are read as an answer that is taken. -/
theorem decode_of_carries (hvalid : request.Valid) (hcarries : request.Carries pdu answer) :
    ∃ response, Response.decode pdu = .ok response ∧ request.Takes answer response := by
  cases request <;> cases answer <;> simp only [Carries] at hcarries <;>
    simp only [Valid, Limits.readBits, Limits.readRegisters] at hvalid
  case readCoils.bits =>
    obtain ⟨values, hpadded, hlength, rfl, rfl⟩ := hcarries.exists_values
    refine ⟨.readCoils values, ?_, by omega, by omega, rfl⟩
    exact (Response.decode_eq_ok_iff ..).mpr
      ⟨trivial, ⟨by simp only [Response.Fits]; omega, congrArg _ hpadded⟩, rfl⟩
  case readDiscreteInputs.bits =>
    obtain ⟨values, hpadded, hlength, rfl, rfl⟩ := hcarries.exists_values
    refine ⟨.readDiscreteInputs values, ?_, by omega, by omega, rfl⟩
    exact (Response.decode_eq_ok_iff ..).mpr
      ⟨trivial, ⟨by simp only [Response.Fits]; omega, congrArg _ hpadded⟩, rfl⟩
  case readFileRecord.records =>
    obtain ⟨hlength, hfits, rfl⟩ := hcarries
    exact ⟨.readFileRecord _,
      (Response.decode_eq_ok_iff ..).mpr ⟨trivial, ⟨hfits, rfl⟩, rfl⟩, hlength, rfl⟩
  case readHoldingRegisters.registers =>
    obtain ⟨hlength, rfl⟩ := hcarries
    refine ⟨.readHoldingRegisters _, ?_, hlength, rfl⟩
    exact (Response.decode_eq_ok_iff ..).mpr
      ⟨trivial, ⟨by simp only [Response.Fits]; omega, rfl⟩, by rw [← hlength]; rfl⟩
  case readInputRegisters.registers =>
    obtain ⟨hlength, rfl⟩ := hcarries
    refine ⟨.readInputRegisters _, ?_, hlength, rfl⟩
    exact (Response.decode_eq_ok_iff ..).mpr
      ⟨trivial, ⟨by simp only [Response.Fits]; omega, rfl⟩, by rw [← hlength]; rfl⟩
  case readWriteMultipleRegisters.registers =>
    obtain ⟨hlength, rfl⟩ := hcarries
    refine ⟨.readWriteMultipleRegisters _, ?_, hlength, rfl⟩
    exact (Response.decode_eq_ok_iff ..).mpr
      ⟨trivial, ⟨by simp only [Response.Fits]; omega, rfl⟩, by rw [← hlength]; rfl⟩

/-- Octets carry what a valid request wants to know if and only if they are read as an answer that
is taken. -/
theorem carries_iff (hsized : request.asksSize = true) (hvalid : request.Valid) :
    request.Carries pdu answer ↔
      ∃ response, Response.decode pdu = .ok response ∧ request.Takes answer response :=
  ⟨decode_of_carries hvalid, fun ⟨_, hdecode, htakes⟩ => carries_of_takes hsized hdecode htakes⟩

end Request

theorem Message.decode_of_responseOf {frame : Frame} {response : Message Response}
    (hframe : Message.responseOf frame = .ok response) :
    Response.decode frame.pdu = .ok response.body := by
  obtain ⟨body, hdecode, hbody⟩ := except_bind_eq_ok_iff.mp hframe
  obtain rfl := Except.ok.inj hbody
  exact hdecode

namespace Master

variable {σ : Type} (master : Master σ) (unit : UInt8) (request : Request)

theorem call_of_took {made : Nat} {response : Message Response} (hvalid : request.Valid)
    (htook : master.Took unit request made response) :
    (master.call unit request).1 = request.interpret response.body :=
  master.call_of_execute unit request
    ((master.execute_eq_ok_iff unit request response).mpr ⟨hvalid, made, htook⟩)

/-- What a call gives back for a read is what was sent, and of the size that was asked for if the
pieces of records are; and a call fails with an error of the protocol if the octets of the
response that it takes carry less or more. -/
theorem call_read_size (hsized : request.asksSize = true) :
    (∀ answer, (master.call unit request).1 = .ok answer →
      ∃ made response, master.Took unit request made response ∧
        request.Takes answer response.body ∧
        (request.RecordsFit response.body → request.Expects answer)) ∧
    ∀ made response frame, request.Valid → master.Took unit request made response →
      Message.responseOf frame = .ok response →
      (∃ answer, request.Carries frame.pdu answer ∧ (master.call unit request).1 = .ok answer) ∨
        (∀ answer, ¬ request.Carries frame.pdu answer) ∧
          ∃ fault, (master.call unit request).1 = .error (.protocol fault) := by
  have hfunction : request.function?.isSome := by
    cases request <;> first | rfl | contradiction
  constructor
  · intro answer hcall
    obtain ⟨-, made, response, htook, -, htakes⟩ :=
      (master.call_eq_ok_iff unit request hfunction answer).mp hcall
    exact ⟨made, response, htook, htakes, Request.expects_of_takes hsized htakes⟩
  · intro made response frame hvalid htook hframe
    have hdecode := Message.decode_of_responseOf hframe
    have hok (answer : Answer) : request.interpret response.body = .ok answer ↔
        request.Carries frame.pdu answer := by
      rw [Request.interpret_eq_ok_iff hfunction, Request.carries_iff hsized hvalid, hdecode]
      simp
    rw [master.call_of_took unit request hvalid htook]
    rcases request.interpret_outcome response.body with ⟨answer, htaken⟩ | ⟨fault, herror⟩
    · exact .inl ⟨answer, (hok answer).mp htaken, htaken⟩
    · refine .inr ⟨fun answer hcarried => ?_, fault, herror⟩
      rw [(hok answer).mpr hcarried] at herror
      contradiction

/-- Two octets of bits answer a call for ten coils, one octet does not. -/
theorem call_read_size_ten_coils :
    let request := Request.readCoils 0 10
    let full := answered true [1, 2, 255, 3] none
    let short := answered true [1, 1, 255] none
    request.asksSize = true ∧
      (full.call 1 request).1 = .ok (.bits (List.replicate 10 true)) ∧
      request.Expects (.bits (List.replicate 10 true)) ∧
      short.Took 1 request 0 ⟨⟨0, 0, 1⟩, .readCoils (List.replicate 8 true)⟩ ∧
      ∃ fault, (short.call 1 request).1 = .error (.protocol fault) := by
  intro request full short
  have hfull : (full.call 1 request).1 = .ok (.bits (List.replicate 10 true)) := by decide +kernel
  have hshort : short.Took 1 request 0 ⟨⟨0, 0, 1⟩, .readCoils (List.replicate 8 true)⟩ :=
    ⟨Nat.zero_le _, fun _ hearlier => absurd hearlier (Nat.not_lt_zero _), by decide +kernel, rfl,
      .inl rfl⟩
  obtain ⟨made, response, -, -, hexpects⟩ :=
    (full.call_read_size 1 request rfl).1 _ hfull
  refine ⟨rfl, hfull, hexpects trivial, hshort, ?_⟩
  have hdecode : Message.responseOf ⟨⟨0, 0, 1⟩, [1, 1, 255]⟩ =
      .ok ⟨⟨0, 0, 1⟩, .readCoils (List.replicate 8 true)⟩ := by decide +kernel
  have hfails : (short.call 1 request).1.isOk = false := by decide +kernel
  rcases (short.call_read_size 1 request rfl).2 0 _ _ ⟨by decide, by decide⟩ hshort
      hdecode with ⟨answer, -, hok⟩ | ⟨-, herror⟩
  · rw [hok] at hfails
    contradiction
  · exact herror

/-- One register answers a call for a piece of two, and three do. -/
theorem call_takes_other_pieces :
    let request := Request.readFileRecord [⟨1, 0, 2⟩]
    let short := answered true [0x14, 4, 3, 6, 0, 7] none
    let long := answered true [0x14, 8, 7, 6, 0, 7, 0, 8, 0, 9] none
    ((short.call 1 request).1 = .ok (.records [[7]]) ∧ ¬ request.Expects (.records [[7]])) ∧
      (long.call 1 request).1 = .ok (.records [[7, 8, 9]]) ∧
      ¬ request.Expects (.records [[7, 8, 9]]) := by
  intro request short long
  have hexpects {registers : List UInt16} (hlength : registers.length ≠ 2) :
      ¬ request.Expects (.records [registers]) := by
    intro hforall
    cases hforall with
    | cons hfirst => exact hlength hfirst
  exact ⟨⟨by decide +kernel, hexpects (by decide)⟩, by decide +kernel, hexpects (by decide)⟩

end Master

end Modbus
