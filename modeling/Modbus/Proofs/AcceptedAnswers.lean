import Mathlib.Tactic
import Modbus.Master
import Modbus.Proofs.ReplySize
import Modbus.Proofs.TransactionOutcome

/-!
# Which answers a master accepts

A call succeeds with the first answer that decides its transaction, if that is an answer of
the function asked for and carries as much as was asked for.  On connections with headers the
identifier tells answers apart; nothing else does.  The unit that an answer comes from and
what the answer to a write repeats of the request are not compared with the request.
-/

namespace Modbus

/-- What a call makes of an answer of the right function and size. -/
def Request.Takes (answer : Answer) : Request → Response → Prop
  | readCoils _ count, .readCoils values
  | readDiscreteInputs _ count, .readDiscreteInputs values =>
    count.toNat ≤ values.length ∧ values.length ≤ (count.toNat + 7) / 8 * 8 ∧
      answer = .bits (values.take count.toNat)
  | readHoldingRegisters _ count, .readHoldingRegisters values
  | readInputRegisters _ count, .readInputRegisters values
  | readWriteMultipleRegisters _ count _ _, .readWriteMultipleRegisters values =>
    values.length = count.toNat ∧ answer = .registers values
  | readFileRecord records, .readFileRecord values =>
    values.length = records.length ∧ answer = .records values
  | readFifoQueue _, .readFifoQueue values => answer = .registers values
  | writeSingleCoil _ _, .writeSingleCoil _ value => answer = .coil value
  | writeSingleRegister _ _, .writeSingleRegister _ _
  | writeMultipleCoils _ _, .writeMultipleCoils _ _
  | writeMultipleRegisters _ _, .writeMultipleRegisters _ _
  | writeFileRecord _, .writeFileRecord _
  | maskWriteRegister _ _ _, .maskWriteRegister _ _ _ => answer = .done
  | _, _ => False

/-! ## Answers as a master reads them -/

namespace Answer

theorem exactBits_eq_ok_iff (values : List Bool) (count : Nat) (answer : Answer) :
    exactBits values count = .ok answer ↔
      count ≤ values.length ∧ values.length ≤ (count + 7) / 8 * 8 ∧
        answer = .bits (values.take count) := by
  unfold exactBits
  split
  next hsize =>
    constructor
    · intro herror
      contradiction
    · rintro ⟨hleast, hmost, -⟩
      omega
  next hsize =>
    rw [Except.ok.injEq, eq_comm]
    exact ⟨fun hanswer => ⟨by omega, by omega, hanswer⟩, fun hanswer => hanswer.2.2⟩

theorem exactRegisters_eq_ok_iff (values : List UInt16) (count : Nat) (answer : Answer) :
    exactRegisters values count = .ok answer ↔
      values.length = count ∧ answer = .registers values := by
  unfold exactRegisters
  split
  next hsize => simp [hsize, eq_comm]
  next hsize => simp [hsize]

theorem exactBits_outcome (values : List Bool) (count : Nat) :
    (∃ answer, exactBits values count = .ok answer) ∨
      ∃ fault, exactBits values count = .error (.protocol fault) := by
  unfold exactBits
  split
  · exact .inr ⟨_, rfl⟩
  · exact .inl ⟨_, rfl⟩

theorem exactRegisters_outcome (values : List UInt16) (count : Nat) :
    (∃ answer, exactRegisters values count = .ok answer) ∨
      ∃ fault, exactRegisters values count = .error (.protocol fault) := by
  unfold exactRegisters
  split
  · exact .inl ⟨_, rfl⟩
  · exact .inr ⟨_, rfl⟩

end Answer

namespace Request

variable {request : Request}

theorem interpret_eq_ok_iff (hfunction : request.function?.isSome) (response : Response)
    (answer : Answer) :
    request.interpret response = .ok answer ↔ request.Takes answer response := by
  cases request <;> cases response
  case readCoils.readCoils => exact Answer.exactBits_eq_ok_iff ..
  case readDiscreteInputs.readDiscreteInputs => exact Answer.exactBits_eq_ok_iff ..
  case readHoldingRegisters.readHoldingRegisters => exact Answer.exactRegisters_eq_ok_iff ..
  case readInputRegisters.readInputRegisters => exact Answer.exactRegisters_eq_ok_iff ..
  case readWriteMultipleRegisters.readWriteMultipleRegisters =>
    exact Answer.exactRegisters_eq_ok_iff ..
  case readFileRecord.readFileRecord records values =>
    simp only [interpret, Takes]
    split
    next hcount => simp [hcount, eq_comm]
    next hcount => simp [hcount, Answer.unexpected]
  all_goals
    simp_all [interpret, Takes, Answer.unexpected, function?, eq_comm]

/-- An answer that is not taken is an error of the protocol. -/
theorem interpret_outcome (request : Request) (response : Response) :
    (∃ answer, request.interpret response = .ok answer) ∨
      ∃ fault, request.interpret response = .error (.protocol fault) := by
  cases request <;> cases response
  case readCoils.readCoils => exact Answer.exactBits_outcome ..
  case readDiscreteInputs.readDiscreteInputs => exact Answer.exactBits_outcome ..
  case readHoldingRegisters.readHoldingRegisters => exact Answer.exactRegisters_outcome ..
  case readInputRegisters.readInputRegisters => exact Answer.exactRegisters_outcome ..
  case readWriteMultipleRegisters.readWriteMultipleRegisters =>
    exact Answer.exactRegisters_outcome ..
  case readFileRecord.readFileRecord records values =>
    simp only [interpret]
    split
    · exact .inl ⟨_, rfl⟩
    · exact .inr ⟨_, rfl⟩
  all_goals first | exact .inr ⟨_, rfl⟩ | exact .inl ⟨_, rfl⟩

theorem functionCode_of_takes {answer : Answer} {response : Response}
    (htakes : request.Takes answer response) :
    response.functionCode = request.functionCode := by
  cases request <;> cases response <;> first | rfl | exact htakes.elim

end Request

/-! ## Answers that decide a transaction -/

namespace Transaction

section

variable {policy : Policy} {headless : Bool} {request : Message Request}
  {outcome decision other : Except Error (Message Response)}

theorem Decides.unique (hdecides : Decides policy headless request outcome decision)
    (hother : Decides policy headless request outcome other) : decision = other := by
  have hsettled := (judge_of_decides hdecides).symm.trans (judge_of_decides hother)
  cases decision <;> cases other <;> simp_all [settled]

theorem decides_ok_iff {response : Message Response} :
    Decides policy headless request outcome (.ok response) ↔
      outcome = .ok response ∧ response.body.isException = false ∧
        (headless = true ∨ policy.checkValidity = false ∨
          response.header.transactionId = request.header.transactionId) := by
  constructor
  · intro hdecides
    cases hdecides with
    | answer hbody hvalid => exact ⟨rfl, hbody, hvalid⟩
  · rintro ⟨rfl, hbody, hvalid⟩
    exact .answer hbody hvalid

end

/-- A transaction succeeds with the first decision of an attempt, if that is an answer. -/
theorem execute_eq_ok_iff {σ : Type} (policy : Policy) (connection : Connection σ)
    (request : Message Request) (counter : Counter) (state : σ) (response : Message Response) :
    (execute policy connection request counter state).1 = .ok response ↔
      ∃ made ≤ policy.attempts - 1,
        (∀ earlier < made, ∀ decision,
          ¬ DecidesAt policy connection (stamp request counter.next) state earlier decision) ∧
        DecidesAt policy connection (stamp request counter.next) state made (.ok response) := by
  obtain ⟨last, hconcludes⟩ := exists_concludes policy connection (stamp request counter.next)
    (policy.attempts - 1) 0 state
  rw [execute_eq]
  dsimp only
  constructor
  · intro hresult
    have hdecided := hconcludes.result
    rw [hresult] at hdecided
    rcases hdecided with hdecides | ⟨-, -, hexhausted⟩
    · exact ⟨last, hconcludes.within, hconcludes.undecided, hdecides⟩
    · contradiction
  · rintro ⟨made, hmade, hundecided, hdecides⟩
    -- The attempt that decides is the last one: nothing is tried behind it, and nothing before
    -- it ends the transaction.
    have hbefore : ¬ made < last := fun hless => hconcludes.undecided made hless _ hdecides
    rcases hconcludes.result with hlast | ⟨hspare, hopen, -⟩
    · have hafter : ¬ last < made := fun hless => hundecided last hless _ hlast
      obtain rfl : made = last := by omega
      exact hlast.unique hdecides
    · obtain rfl : made = last := by omega
      exact absurd hdecides (hopen _)

end Transaction

namespace Master

open Transaction

variable {σ : Type}

/-- The request of a call as it goes out. -/
def sent (master : Master σ) (unit : UInt8) (request : Request) : Message Request :=
  stamp ⟨⟨0, 0, unit⟩, request⟩ master.counter.next

/-- A call takes a response for the answer: it came of the attempt after `made` others, none of
which decided anything, it is no exception, and its identifier is that of the call unless
frames have none or nobody looks at it. -/
structure Took (master : Master σ) (unit : UInt8) (request : Request) (made : Nat)
    (response : Message Response) : Prop where
  within : made ≤ master.policy.attempts - 1
  undecided : ∀ earlier < made, ∀ decision,
    ¬ DecidesAt master.policy master.connection (master.sent unit request) master.state earlier
      decision
  received : (nth master.connection (master.sent unit request) master.state made).1 = .ok response
  answers : response.body.isException = false
  identified :
    master.connection.headless
        (nth master.connection (master.sent unit request) master.state made).2 = true ∨
      master.policy.checkValidity = false ∨
      response.header.transactionId = master.counter.next

section

variable {master : Master σ} {unit : UInt8} {request : Request} {made : Nat}
  {response : Message Response}

theorem Took.decides (htook : master.Took unit request made response) :
    DecidesAt master.policy master.connection (master.sent unit request) master.state made
      (.ok response) :=
  decides_ok_iff.mpr ⟨htook.received, htook.answers, htook.identified⟩

/-- A call takes one response only. -/
theorem Took.unique {made' : Nat} {response' : Message Response}
    (htook : master.Took unit request made response)
    (htook' : master.Took unit request made' response') : made = made' ∧ response = response' := by
  have hbefore : ¬ made < made' := fun hless => htook'.undecided made hless _ htook.decides
  have hafter : ¬ made' < made := fun hless => htook.undecided made' hless _ htook'.decides
  obtain rfl : made = made' := by omega
  exact ⟨rfl, Except.ok.inj (htook.decides.unique htook'.decides)⟩

end

section

variable (master : Master σ) (unit : UInt8) (request : Request)

theorem execute_eq_ok_iff (response : Message Response) :
    (master.execute ⟨⟨0, 0, unit⟩, request⟩).1 = .ok response ↔
      request.Valid ∧ ∃ made, master.Took unit request made response := by
  unfold execute
  dsimp only
  cases hvalidate : request.validate with
  | error error =>
      have hinvalid : ¬ request.Valid := fun hvalid => by
        rw [(request.validate_eq_ok_iff ()).mpr hvalid] at hvalidate
        contradiction
      simp [hinvalid]
  | ok done =>
      have hvalid := (request.validate_eq_ok_iff done).mp hvalidate
      dsimp only
      refine (Transaction.execute_eq_ok_iff ..).trans ⟨?_, ?_⟩
      · rintro ⟨made, hmade, hundecided, hdecides⟩
        obtain ⟨hreceived, hanswers, hidentified⟩ := decides_ok_iff.mp hdecides
        exact ⟨hvalid, made, hmade, hundecided, hreceived, hanswers, hidentified⟩
      · rintro ⟨-, made, htook⟩
        exact ⟨made, htook.within, htook.undecided, htook.decides⟩

theorem call_of_execute {response : Message Response}
    (hexecute : (master.execute ⟨⟨0, 0, unit⟩, request⟩).1 = .ok response) :
    (master.call unit request).1 = request.interpret response.body := by
  unfold call
  generalize master.execute ⟨⟨0, 0, unit⟩, request⟩ = outcome at hexecute
  obtain ⟨outcome, after⟩ := outcome
  obtain rfl : outcome = .ok response := hexecute
  rfl

theorem call_of_failed {error : Error}
    (hexecute : (master.execute ⟨⟨0, 0, unit⟩, request⟩).1 = .error error) :
    (master.call unit request).1 = .error error := by
  unfold call
  generalize master.execute ⟨⟨0, 0, unit⟩, request⟩ = outcome at hexecute
  obtain ⟨outcome, after⟩ := outcome
  obtain rfl : outcome = .error error := hexecute
  rfl

/-- A call for an implemented function succeeds if and only if the request is valid and a response
is taken that has the code of the request and, if the call reads, carries as much as was asked
for.  No unit, reference, value, count, mask or record in the response is compared with the
request. -/
theorem call_eq_ok_iff (hfunction : request.function?.isSome)
    (answer : Answer) :
    (master.call unit request).1 = .ok answer ↔
      request.Valid ∧ ∃ made response, master.Took unit request made response ∧
        response.body.functionCode = request.functionCode ∧
        request.Takes answer response.body := by
  constructor
  · intro hcall
    cases hexecute : (master.execute ⟨⟨0, 0, unit⟩, request⟩).1 with
    | error error =>
        rw [master.call_of_failed unit request hexecute] at hcall
        contradiction
    | ok response =>
        obtain ⟨hvalid, made, htook⟩ := (master.execute_eq_ok_iff unit request response).mp hexecute
        rw [master.call_of_execute unit request hexecute] at hcall
        have htakes := (Request.interpret_eq_ok_iff hfunction ..).mp hcall
        exact ⟨hvalid, made, response, htook, Request.functionCode_of_takes htakes, htakes⟩
  · rintro ⟨hvalid, made, response, htook, -, htakes⟩
    have hexecute := (master.execute_eq_ok_iff unit request response).mpr ⟨hvalid, made, htook⟩
    rw [master.call_of_execute unit request hexecute]
    exact (Request.interpret_eq_ok_iff hfunction ..).mpr htakes

end

/-- Nothing comes in time, then an answer with another identifier, then one with the right one. -/
theorem call_eq_ok_third :
    let reply : List UInt8 := [6, 0, 3, 0, 7]
    let master : Master Scripted.State :=
      ⟨⟨3, 0, true, false⟩, Scripted.connection,
        ⟨true, false, [], [.fails (.timeout (.reported "slow")), .answers reply (some 9) none,
          .answers reply none none], []⟩, ⟨5⟩⟩
    let request := Request.writeSingleRegister 3 7
    request.function?.isSome ∧ (master.call 1 request).1 = .ok .done ∧
      ∃ made response, master.Took 1 request made response ∧
        response.body.functionCode = request.functionCode ∧ request.Takes .done response.body := by
  intro reply master request
  have hcall : (master.call 1 request).1 = .ok .done := by decide
  obtain ⟨-, htaken⟩ := (master.call_eq_ok_iff 1 request rfl .done).mp hcall
  exact ⟨rfl, hcall, htaken⟩

/-- A master with an open connection whose peer answers once. -/
def answered (headless : Bool) (pdu : List UInt8) (unit : Option UInt8) : Master Scripted.State :=
  ⟨Policy.default, Scripted.connection, ⟨true, headless, [], [.answers pdu none unit], []⟩, ⟨0⟩⟩

/-- A write to unit 1 succeeds with the answer of unit 2 where frames have no headers, and with an
answer about another register and value where they have. -/
theorem call_takes_other_answers :
    let request := Request.writeSingleRegister 3 7
    let stranger := answered true [6, 0, 3, 0, 7] (some 2)
    let distorter := answered false [6, 0, 9, 0, 1] none
    ((stranger.call 1 request).1 = .ok .done ∧
      stranger.Took 1 request 0 ⟨⟨0, 0, 2⟩, .writeSingleRegister 3 7⟩) ∧
    (distorter.call 1 request).1 = .ok .done ∧
      distorter.Took 1 request 0 ⟨⟨0, 0, 1⟩, .writeSingleRegister 9 1⟩ := by
  intro request stranger distorter
  have hnone {earlier : Nat} (hearlier : earlier < 0) : False := Nat.not_lt_zero _ hearlier
  refine ⟨⟨by decide, ?_⟩, by decide, ?_⟩
  · exact ⟨Nat.zero_le _, fun _ hearlier => (hnone hearlier).elim, rfl, rfl, .inl rfl⟩
  · exact ⟨Nat.zero_le _, fun _ hearlier => (hnone hearlier).elim, rfl, rfl, .inr (.inr rfl)⟩

end Master

end Modbus
