import Mathlib.Tactic
import Modbus.Proofs.TransactionOutcome
import Modbus.Proofs.WireExchange

/-!
# A master sees the image itself

Between a master and the image of a unit there are two encoders, two decoders,
two framings and a line.  None of them shows: calls of a master give what the
same requests give when they are applied to the image directly, and leave the
image that direct access leaves.
-/

namespace Modbus

/-! ## Direct operations -/

namespace Image

/-- A request that is applied to an image directly: what there is to say, and
the image afterwards. -/
def direct (image : Image) (request : Request) : Except Error Answer × Image :=
  match image.perform request with
  | some (answer, after) => (.ok answer, after)
  | none => (.error (.slaveException request.functionCode .illegalDataAddress), image)

/-- Requests that are applied one after another. -/
def directAll (image : Image) : List Request → List (Except Error Answer) × Image
  | [] => ([], image)
  | request :: requests =>
    let (outcome, image) := image.direct request
    let (outcomes, image) := image.directAll requests
    (outcome :: outcomes, image)

theorem unit_direct (image : Image) (request : Request) :
    (image.direct request).2.unit = image.unit := by
  unfold direct
  cases hperform : image.perform request with
  | none => rfl
  | some outcome => exact (sameLayout_perform hperform).unit

/-- Applied directly, a request succeeds or names an address that is not populated. -/
theorem direct_outcome (image : Image) (request : Request) :
    (∃ answer, (image.direct request).1 = .ok answer) ∨
      (image.direct request).1 =
        .error (.slaveException request.functionCode .illegalDataAddress) := by
  unfold direct
  cases image.perform request with
  | none => exact Or.inr rfl
  | some outcome => exact Or.inl ⟨outcome.1, rfl⟩

theorem directAll_outcomes (image : Image) (requests : List Request) :
    ∀ outcome ∈ (image.directAll requests).1, (∃ answer, outcome = .ok answer) ∨
      ∃ request ∈ requests,
        outcome = .error (.slaveException request.functionCode .illegalDataAddress) := by
  induction requests generalizing image with
  | nil =>
      intro outcome houtcome
      contradiction
  | cons request requests ih =>
      intro outcome houtcome
      rcases List.mem_cons.mp houtcome with rfl | hrest
      · rcases image.direct_outcome request with hok | hrefused
        · exact Or.inl hok
        · exact Or.inr ⟨request, List.mem_cons_self, hrefused⟩
      · rcases ih (image.direct request).2 outcome hrest with hok | ⟨other, hother, hrefused⟩
        · exact Or.inl hok
        · exact Or.inr ⟨other, List.mem_cons_of_mem request hother, hrefused⟩

theorem respond_snd {request : Request} (hvalid : request.Valid)
    (hfunction : request.function?.isSome) (image : Image) :
    (image.respond request).2 = (image.direct request).2 := by
  rw [respond_eq hvalid hfunction, direct]
  cases image.perform request <;> rfl

end Image

/-- Calls of a master, one after another. -/
def Master.callAll {σ : Type} (unit : UInt8) (master : Master σ) :
    List Request → List (Except Error Answer) × Master σ
  | [] => ([], master)
  | request :: requests =>
    let (outcome, master) := master.call unit request
    let (outcomes, master) := master.callAll unit requests
    (outcome :: outcomes, master)

/-! ## What a master makes of an answer -/

namespace Request

/-- A master takes back out of an answer what the unit put into it. -/
theorem interpret_reply {request : Request} {answer : Answer}
    (hexpects : request.Expects answer) :
    request.interpret (request.reply answer).padded = .ok answer := by
  have hbits {values : List Bool} {count : UInt16} (hlength : values.length = count.toNat) :
      Answer.exactBits (Bits.pad values) count.toNat = .ok (.bits values) := by
    unfold Answer.exactBits
    rw [← hlength, if_neg (by rw [Bits.length_pad]; omega), Bits.take_pad]
  have hregisters {values : List UInt16} {count : UInt16} (hlength : values.length = count.toNat) :
      Answer.exactRegisters values count.toNat = .ok (.registers values) :=
    if_pos hlength
  cases request <;> cases answer <;> simp only [Expects] at hexpects
  case readCoils.bits => exact hbits hexpects
  case readDiscreteInputs.bits => exact hbits hexpects
  case readHoldingRegisters.registers => exact hregisters hexpects
  case readInputRegisters.registers => exact hregisters hexpects
  case readWriteMultipleRegisters.registers => exact hregisters hexpects
  case writeSingleCoil.coil =>
    subst hexpects
    rfl
  case readFileRecord.records => exact if_pos hexpects.length_eq.symm
  all_goals rfl

theorem isException_reply {request : Request} {answer : Answer}
    (hexpects : request.Expects answer) : (request.reply answer).padded.isException = false := by
  cases request <;> cases answer <;> simp only [Expects] at hexpects <;> rfl

/-- The code of an implemented function survives the exception bit. -/
theorem ofException_refusal {request : Request} (hfunction : request.function?.isSome)
    (reason : ExceptionCode) :
    Error.ofException (plainCode request.functionCode) reason =
      .slaveException request.functionCode reason := by
  obtain ⟨function, hsome⟩ := Option.isSome_iff_exists.mp hfunction
  rw [code_of_function? hsome, Error.ofException]
  cases function <;> rfl

theorem proper_of_function? {request : Request} (hfunction : request.function?.isSome) :
    request.Proper := by
  cases request <;> trivial

end Request

/-! ## Units -/

namespace Units

/-- Every image stands under its own unit. -/
def Consistent (units : Units) : Prop :=
  ∀ unit image, units.ofUnit? unit = some image → image.unit = unit

theorem ofUnit?_add (units : Units) (image : Image) (unit : UInt8) :
    (units.add image).ofUnit? unit =
      if unit = image.unit then some image else units.ofUnit? unit := by
  simp only [add, ofUnit?, Directory.get?_insert, UInt8.toNat_inj]

theorem Consistent.add {units : Units} (hunits : units.Consistent) (image : Image) :
    (units.add image).Consistent := by
  intro unit found hfound
  rw [ofUnit?_add] at hfound
  split at hfound
  next hunit => rw [hunit, ← Option.some.inj hfound]
  next => exact hunits unit found hfound

/-- Units that are made from images are consistent. -/
theorem consistent_ofImages (images : List Image) : (ofImages images).Consistent := by
  have hfold (units : Units) (hunits : units.Consistent) :
      (images.foldl Units.add units).Consistent := by
    induction images generalizing units with
    | nil => exact hunits
    | cons image images ih => exact ih (units.add image) (hunits.add image)
  refine hfold Directory.empty fun unit image himage => ?_
  contradiction

theorem size_insert_of_single {α : Type} {directory : Directory α} {number : Nat}
    {held value : α} (hsize : directory.size = 1) (hheld : directory.get? number = some held) :
    (directory.insert number value).size = 1 := by
  obtain ⟨entries⟩ := directory
  obtain ⟨⟨other, found⟩, rfl⟩ := List.length_eq_one_iff.mp hsize
  simp only [Directory.get?, Directory.find?] at hheld
  split at hheld
  next hsame => simp [Directory.insert, Directory.place, Directory.size, hsame]
  next => contradiction

/-- An image that takes the place of the one that answers for a unit answers for
it from then on, also if it does so for want of another image. -/
theorem resolve_add {units : Units} {unit : UInt8} {wild : Bool} {image after : Image}
    (hunits : units.Consistent) (hresolve : units.resolve unit wild = some image)
    (hsame : after.unit = image.unit) : (units.add after).resolve unit wild = some after := by
  unfold resolve at hresolve
  cases hfound : units.ofUnit? unit with
  | some found =>
      rw [hfound] at hresolve
      obtain rfl := Option.some.inj hresolve
      have hunit : unit = after.unit := by rw [hsame, hunits unit found hfound]
      rw [resolve, ofUnit?_add, if_pos hunit]
  | none =>
      -- The only image answers for every unit, so the new one has to stay the only one.
      rw [hfound] at hresolve
      dsimp only at hresolve
      split at hresolve
      next honly =>
        have hwildcard : after.unit = wildcard := hsame.trans (hunits wildcard image hresolve)
        have hother : unit ≠ after.unit := by
          rintro rfl
          rw [hwildcard, hresolve] at hfound
          contradiction
        have hsize : (units.add after).size = units.size := by
          have hone : units.size = 1 := by
            simpa using (Bool.and_eq_true_iff.mp honly).2
          rw [hone]
          rw [← hwildcard] at hresolve
          exact size_insert_of_single hone hresolve
        rw [resolve, ofUnit?_add, if_neg hother, hfound, hsize]
        dsimp only
        rw [if_pos honly, ofUnit?_add, if_pos hwildcard.symm]
      next => contradiction

end Units

/-! ## A station that answers a request -/

namespace Station

/-- A valid request is answered from the image of its unit. -/
theorem handle_eq {station : Station} {own : Bool} {header : Header} {image : Image}
    {request : Request} (hresolve : station.units.resolve header.unitId own = some image)
    (hproper : request.Proper) (hvalid : request.validate = .ok ()) :
    station.handle own ⟨header, request.encode⟩ =
      (some ⟨header, (image.respond request).1.encode⟩,
        ⟨station.units.add (image.respond request).2,
          station.stats.countAnswer (image.respond request).1⟩) := by
  have hread := Request.decode_encode_of_validate hproper hvalid
  unfold handle
  simp only [hresolve, answer, hread]

end Station

namespace Wire

/-- An idle wire leads to a station that answers for a unit from an image. -/
structure Serves (wire : Wire) (state : State) (unit : UInt8) (image : Image) : Prop where
  idle : wire.Idle state
  units : state.station.units.Consistent
  image : state.station.units.resolve unit wire.lineUse.own = some image

theorem Serves.close {wire : Wire} {state : State} {unit : UInt8} {image : Image}
    (hserves : wire.Serves state unit image) :
    wire.Serves (wire.connection.close state) unit image where
  idle := fun near far hends => by contradiction
  units := hserves.units
  image := hserves.image

/-- An attempt finds the wire open, or opens it. -/
theorem attempt_eq_exchange {wire : Wire} {state : State} {unit : UInt8} {image : Image}
    (hserves : wire.Serves state unit image) (request : Message Request) :
    ∃ opened near far, opened.ends = some (near, far) ∧ wire.Serves opened unit image ∧
      Transaction.attempt wire.connection request state = wire.exchange request opened := by
  cases hends : state.ends with
  | some ends =>
      obtain ⟨near, far⟩ := ends
      refine ⟨state, near, far, hends, hserves, ?_⟩
      have hconnected : wire.connection.connected state = true := by
        simp [connection, hends]
      rw [Transaction.attempt, hconnected]
      rfl
  | none =>
      let near := wire.opened "station" wire.answerTimeout
      let far := wire.opened "master" wire.requestTimeout
      let opened : State :=
        { state with station := state.station.accept, ends := some (near, far) }
      refine ⟨opened, near, far, rfl, ⟨?_, hserves.units, hserves.image⟩, ?_⟩
      · intro near' far' hends'
        obtain ⟨rfl, rfl⟩ := Prod.mk.inj (Option.some.inj hends')
        exact ⟨wire.resting_opened _ _, wire.resting_opened _ _, le_refl 0⟩
      · have hconnected : wire.connection.connected state = false := by
          simp [connection, hends]
        have hconnect : wire.connection.connect state = (.ok (), opened) := by
          simp only [connection, connect, hends]
          rfl
        rw [Transaction.attempt, hconnected, hconnect]
        rfl

/-- The header that a frame arrives with. -/
def arrivingHeader (wire : Wire) (header : Header) : Header :=
  (wire.framing.received ⟨header, []⟩).header

theorem received_eq (wire : Wire) (header : Header) (pdu : List UInt8) :
    wire.framing.received ⟨header, pdu⟩ = ⟨wire.arrivingHeader header, pdu⟩ := by
  unfold arrivingHeader
  cases wire.framing <;> rfl

theorem arrivingHeader_arrivingHeader (wire : Wire) (header : Header) :
    wire.arrivingHeader (wire.arrivingHeader header) = wire.arrivingHeader header := by
  unfold arrivingHeader
  cases wire.framing <;> rfl

theorem unitId_arrivingHeader (wire : Wire) (header : Header) :
    (wire.arrivingHeader header).unitId = header.unitId := by
  unfold arrivingHeader
  cases wire.framing <;> rfl

theorem protocolId_arrivingHeader {wire : Wire} {header : Header}
    (hprotocol : header.protocolId = 0) : (wire.arrivingHeader header).protocolId = 0 := by
  unfold arrivingHeader
  cases wire.framing with
  | mbap => exact hprotocol
  | headless checksum => rfl

/-- One attempt brings the answer of the image, and leaves the image that
answering leaves. -/
theorem attempt_eq {wire : Wire} {state : State} {unit : UInt8} {image : Image}
    {request : Request} (header : Header) (hintime : wire.InTime)
    (hserves : wire.Serves state unit image) (hvalid : request.validate = .ok ())
    (hfunction : request.function?.isSome) (hprotocol : header.protocolId = 0)
    (hunit : header.unitId = unit) :
    ∃ after,
      Transaction.attempt wire.connection ⟨header, request⟩ state =
        (.ok ⟨wire.arrivingHeader header, (image.respond request).1.padded⟩, after) ∧
      wire.Serves after unit (image.respond request).2 := by
  obtain ⟨opened, near, far, hends, hopened, hattempt⟩ :=
    attempt_eq_exchange hserves ⟨header, request⟩
  have hallowed := (Request.validate_eq_ok_iff request ()).mp hvalid
  have hsafe := image.respond_safe hallowed
  have hrequest : (Message.mk header request).requestFrame.Regular .request :=
    Request.regular_requestFrame hprotocol hallowed hfunction
  have hreply : (Frame.mk (wire.arrivingHeader header)
      (image.respond request).1.encode).Regular .response :=
    Response.regular_responseFrame (protocolId_arrivingHeader hprotocol) hsafe
  have hresolve : opened.station.units.resolve (wire.arrivingHeader header).unitId
      wire.lineUse.own = some image := by
    rw [unitId_arrivingHeader, hunit]
    exact hopened.image
  have hhandle := Station.handle_eq hresolve (Request.proper_of_function? hfunction) hvalid
  rw [← received_eq] at hhandle
  have hresponse : Message.responseOf (wire.framing.received
      ⟨wire.arrivingHeader header, (image.respond request).1.encode⟩) =
        .ok ⟨wire.arrivingHeader header, (image.respond request).1.padded⟩ := by
    rw [received_eq, arrivingHeader_arrivingHeader, Message.responseOf,
      Response.decode_encode_of_fits hsafe.proper hsafe.fits]
    rfl
  obtain ⟨ends, hexchange, hidle⟩ :=
    exchange_eq hintime hopened.idle hends hrequest hreply hhandle hresponse
  refine ⟨_, hattempt.trans hexchange, hidle, hopened.units.add _, ?_⟩
  refine Units.resolve_add hopened.units hopened.image ?_
  rw [Image.respond_snd hallowed hfunction]
  exact image.unit_direct request

end Wire

/-! ## Transactions that the first attempt decides -/

namespace Transaction

variable {σ : Type} {policy : Policy} {connection : Connection σ} {request : Message Request}
  {state after : σ} {response : Message Response}

theorem execute_eq_ok (policy : Policy) (request : Message Request) (counter : Counter)
    (hattempt : attempt connection (stamp request counter.next) state = (.ok response, after))
    (hbody : response.body.isException = false)
    (hvalid : isValid policy (connection.headless after) (stamp request counter.next) response =
      true) :
    execute policy connection request counter state =
      (.ok response, advanced policy counter,
        if policy.reconnecting then connection.close after else after) := by
  have hattempts :
      attempts policy connection (stamp request counter.next) (policy.attempts - 1) 0 state =
        (.ok response, after) := by
    unfold attempts
    rw [hattempt]
    simp only [judge_of_not_exception hbody, hvalid, if_true]
  unfold execute
  simp only [hattempts]

theorem execute_eq_error (policy : Policy) (request : Message Request) (counter : Counter)
    {code : UInt8} {reason : ExceptionCode}
    (hattempt : attempt connection (stamp request counter.next) state = (.ok response, after))
    (hbody : response.body = .exception code reason) :
    execute policy connection request counter state =
      (.error (.ofException code reason), counter,
        if policy.reconnecting then connection.close after else after) := by
  have hattempts :
      attempts policy connection (stamp request counter.next) (policy.attempts - 1) 0 state =
        (.error (.ofException code reason), after) := by
    unfold attempts
    rw [hattempt]
    simp only [judge, hbody]
  unfold execute
  simp only [hattempts]

end Transaction

namespace Wire

theorem isValid_arrivingHeader (wire : Wire) (policy : Policy) (header : Header)
    (request : Request) (response : Response) :
    Transaction.isValid policy wire.framing.isHeadless ⟨header, request⟩
      ⟨wire.arrivingHeader header, response⟩ = true := by
  unfold Transaction.isValid arrivingHeader
  cases wire.framing with
  | mbap => simp [Framing.received]
  | headless checksum => rfl

/-- One call gives what the request gives when it is applied to the image
directly, and leaves the image that this leaves. -/
theorem call_eq_direct {wire : Wire} {master : Master State} {unit : UInt8} {image : Image}
    {request : Request} (hintime : wire.InTime) (hwire : master.connection = wire.connection)
    (hserves : wire.Serves master.state unit image) (hvalid : request.validate = .ok ())
    (hfunction : request.function?.isSome) :
    (master.call unit request).1 = (image.direct request).1 ∧
      (master.call unit request).2.connection = wire.connection ∧
      wire.Serves (master.call unit request).2.state unit (image.direct request).2 := by
  have hallowed := (Request.validate_eq_ok_iff request ()).mp hvalid
  have hrespond := Image.respond_eq hallowed hfunction image
  obtain ⟨policy, connection, state, counter⟩ := master
  obtain rfl : connection = wire.connection := hwire
  obtain ⟨after, hattempt, hafter⟩ :=
    attempt_eq ⟨counter.next, 0, unit⟩ hintime hserves hvalid hfunction rfl rfl
  have hclosed : wire.Serves (if policy.reconnecting then wire.connection.close after else after)
      unit (image.respond request).2 := by
    split
    next => exact hafter.close
    next => exact hafter
  unfold Image.direct
  cases hperform : image.perform request with
  | some outcome =>
      obtain ⟨answer, changed⟩ := outcome
      rw [hperform] at hrespond
      have hexpects := Image.perform_expects hperform
      rw [hrespond] at hattempt hclosed
      have hexecute := Transaction.execute_eq_ok policy ⟨⟨0, 0, unit⟩, request⟩ counter hattempt
        (Request.isException_reply hexpects) (wire.isValid_arrivingHeader policy _ _ _)
      simp only [Master.call, Master.execute, hvalid, hexecute, Request.interpret_reply hexpects]
      exact ⟨trivial, trivial, hclosed⟩
  | none =>
      rw [hperform] at hrespond
      rw [hrespond] at hattempt hclosed
      have hexecute := Transaction.execute_eq_error policy ⟨⟨0, 0, unit⟩, request⟩ counter
        hattempt rfl
      rw [Request.ofException_refusal hfunction] at hexecute
      simp only [Master.call, Master.execute, hvalid, hexecute]
      exact ⟨trivial, trivial, hclosed⟩

/-- What holds of one call holds of a run of calls. -/
theorem serves_callAll {wire : Wire} {master : Master State} {unit : UInt8} {image : Image}
    {requests : List Request} (hintime : wire.InTime) (hwire : master.connection = wire.connection)
    (hserves : wire.Serves master.state unit image)
    (hrequests : ∀ request ∈ requests,
      request.validate = .ok () ∧ request.function?.isSome) :
    (master.callAll unit requests).1 = (image.directAll requests).1 ∧
      wire.Serves (master.callAll unit requests).2.state unit (image.directAll requests).2 := by
  induction requests generalizing master image with
  | nil => exact ⟨rfl, hserves⟩
  | cons request requests ih =>
      obtain ⟨hvalid, hfunction⟩ := hrequests request List.mem_cons_self
      obtain ⟨houtcome, hwire', hserves'⟩ :=
        call_eq_direct hintime hwire hserves hvalid hfunction
      obtain ⟨houtcomes, hlast⟩ := ih hwire' hserves' fun other hother =>
        hrequests other (List.mem_cons_of_mem request hother)
      refine ⟨?_, hlast⟩
      simp only [Master.callAll, Image.directAll]
      rw [houtcome, houtcomes]

/-- Calls of a master over a wire that brings every octet in time give what the
same requests give when they are applied to the image directly: what was read,
the success of a write, or the refusal of an address at which there is nothing,
and never another error.  The image is afterwards what direct access makes of it. -/
theorem callAll_eq_directAll {wire : Wire} {master : Master State} {unit : UInt8} {image : Image}
    {requests : List Request} (hintime : wire.InTime) (hwire : master.connection = wire.connection)
    (hserves : wire.Serves master.state unit image)
    (hrequests : ∀ request ∈ requests,
      request.validate = .ok () ∧ request.function?.isSome) :
    let (outcomes, after) := master.callAll unit requests
    let (expected, final) := image.directAll requests
    outcomes = expected ∧
      (∀ outcome ∈ outcomes, (∃ answer, outcome = .ok answer) ∨
        ∃ request ∈ requests,
          outcome = .error (.slaveException request.functionCode .illegalDataAddress)) ∧
      after.state.station.units.resolve unit wire.lineUse.own = some final := by
  obtain ⟨houtcomes, hlast⟩ := serves_callAll hintime hwire hserves hrequests
  refine ⟨houtcomes, ?_, hlast.image⟩
  show ∀ outcome ∈ (master.callAll unit requests).1, _
  rw [houtcomes]
  exact image.directAll_outcomes requests

/-- A serial line on which every octet takes a millisecond: a register is written and
read back, and a coil that is not there is refused. -/
theorem callAll_over_serial_line :
    let wire : Wire :=
      { framing := .headless true
        timing := some (.ofBaud 9600 none false)
        lineUse := .shared
        resolution := millisecond
        answerTimeout := 3000 * millisecond
        requestTimeout := 1000 * millisecond
        outward := fun _ place => place * millisecond
        homeward := fun _ place => place * millisecond }
    let station := Station.serving (.ofImages [.cleared 7 2])
    let master : Master State := ⟨.default, wire.connection, ⟨station, none, 0⟩, .startingAt 0⟩
    (master.callAll 7 [.writeSingleRegister 1 9, .readHoldingRegisters 0 2, .readCoils 0 1]).1 =
      [.ok .done, .ok (.registers [0, 9]), .error (.slaveException 1 .illegalDataAddress)] := by
  intro wire station master
  have hintime : wire.InTime := by
    have hturnaround : wire.turnaround ≤ 10 * millisecond := by decide
    refine ⟨fun exchange place hplace => ?_, fun exchange sent place hsent hplace => ?_, rfl⟩
    · show place * millisecond < 0 * millisecond + 1000 * millisecond
      simp only [millisecond, Limits.networkFrame] at hplace ⊢
      omega
    · show sent * millisecond + wire.turnaround + place * millisecond < 3000 * millisecond
      simp only [millisecond, Limits.networkFrame] at hsent hplace hturnaround ⊢
      omega
  have hserves : wire.Serves master.state 7 (.cleared 7 2) := by
    refine ⟨fun near far hends => ?_, Units.consistent_ofImages [.cleared 7 2], rfl⟩
    contradiction
  refine (callAll_eq_directAll hintime rfl hserves ?_).1.trans ?_
  · decide
  · decide

end Wire

end Modbus
