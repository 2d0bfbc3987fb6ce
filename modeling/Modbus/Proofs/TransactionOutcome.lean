import Mathlib.Tactic
import Modbus.Connection.Scripted
import Modbus.Transaction

/-!
# What comes of a transaction

Attempts follow each other until one of them decides the transaction or none is
left.  What the attempts before it did is told by a record of everything that the
connection was asked for: when it was opened, which requests went out, and when
it was closed.  Recording changes nothing in a transaction, so the record is the
one of the connection itself.
-/

namespace Modbus

open Scripted (Event)

/-- A connection that keeps a record of what it is asked for. -/
def Connection.recorded {σ : Type} (connection : Connection σ) :
    Connection (σ × List Event) where
  connected state := connection.connected state.1
  headless state := connection.headless state.1
  connect state :=
    let (outcome, after) := connection.connect state.1
    (outcome, after, state.2 ++ [.connect])
  exchange request state :=
    let (outcome, after) := connection.exchange request state.1
    (outcome, after, state.2 ++ [.exchange request])
  close state := (connection.close state.1, state.2 ++ [.close])

namespace Transaction

/-! ## Decisions -/

/-- What the outcome of an attempt decides: an answer ends the transaction unless it has to
carry the identifier of the request and does not, an exception and an error that no other
attempt can mend end it as errors.  Anything else leaves it open. -/
inductive Decides (policy : Policy) (headless : Bool) (request : Message Request) :
    Except Error (Message Response) → Except Error (Message Response) → Prop where
  | answer {response : Message Response} (hbody : response.body.isException = false)
      (hvalid : headless = true ∨ policy.checkValidity = false ∨
        response.header.transactionId = request.header.transactionId) :
      Decides policy headless request (.ok response) (.ok response)
  | refusal {header : Header} {code : UInt8} {reason : ExceptionCode} :
      Decides policy headless request (.ok ⟨header, .exception code reason⟩)
        (.error (.slaveException (plainCode code) reason))
  | failure {error : Error} (hfinal : error.isRetryable = false) :
      Decides policy headless request (.error error) (.error error)

/-- What went wrong with an attempt that decides nothing. -/
def failure (request : Message Request) : Except Error (Message Response) → Error
  | .ok response =>
    .protocol (.transactionId response.header.transactionId request.header.transactionId)
  | .error error => error

/-- The verdict that ends a transaction. -/
def settled : Except Error (Message Response) → Verdict
  | .ok response => .accepted response
  | .error error => .final error

section

variable {policy : Policy} {headless : Bool} {request : Message Request}
  {outcome decision : Except Error (Message Response)}

theorem isValid_eq_true_iff {response : Message Response} :
    isValid policy headless request response = true ↔
      headless = true ∨ policy.checkValidity = false ∨
        response.header.transactionId = request.header.transactionId := by
  simp only [isValid, Bool.or_eq_true, Bool.not_eq_true', beq_iff_eq, or_assoc,
    eq_comm (a := request.header.transactionId)]

theorem judge_of_not_exception {response : Message Response}
    (hbody : response.body.isException = false) :
    judge policy headless request (.ok response) =
      if isValid policy headless request response then .accepted response
      else .again (failure request (.ok response)) := by
  unfold judge
  dsimp only
  split
  next code reason hresponse =>
    rw [hresponse] at hbody
    contradiction
  next => rfl

theorem judge_of_decides (hdecides : Decides policy headless request outcome decision) :
    judge policy headless request outcome = settled decision := by
  cases hdecides with
  | answer hbody hvalid =>
      rw [judge_of_not_exception hbody, if_pos (isValid_eq_true_iff.mpr hvalid), settled]
  | refusal => rfl
  | failure hfinal => simp only [judge, hfinal, Bool.false_eq_true, if_false, settled]

theorem judge_of_open (hopen : ∀ decision, ¬ Decides policy headless request outcome decision) :
    judge policy headless request outcome = .again (failure request outcome) := by
  cases outcome with
  | error error =>
      cases hretry : error.isRetryable with
      | false => exact absurd (.failure hretry) (hopen (.error error))
      | true => simp only [judge, hretry, if_true, failure]
  | ok response =>
      obtain ⟨header, body⟩ := response
      cases hbody : body.isException with
      | true =>
          cases body with
          | exception code reason => exact absurd .refusal (hopen _)
          | _ => contradiction
      | false =>
          have hinvalid : ¬ isValid policy headless request ⟨header, body⟩ = true :=
            fun hvalid => hopen _ (.answer hbody (isValid_eq_true_iff.mp hvalid))
          rw [judge_of_not_exception hbody, if_neg hinvalid]

end

/-! ## Attempts -/

section

variable {σ : Type}

/-- The state in which an attempt leaves the connection for the next one. -/
def settle (connection : Connection σ) (request : Message Request) (state : σ) : σ :=
  match attempt connection request state with
  | (.ok _, after) => after
  | (.error error, after) => recover connection error after

/-- The attempt that comes after a number of others. -/
def nth (connection : Connection σ) (request : Message Request) (state : σ) (made : Nat) :
    Except Error (Message Response) × σ :=
  attempt connection request ((settle connection request)^[made] state)

/-- What the attempt after a number of others decides. -/
def DecidesAt (policy : Policy) (connection : Connection σ) (request : Message Request)
    (state : σ) (made : Nat) (decision : Except Error (Message Response)) : Prop :=
  Decides policy (connection.headless (nth connection request state made).2) request
    (nth connection request state made).1 decision

/-- What an attempt itself asks of the connection: to open if it is not open, and to
exchange the request if it is open then. -/
def called (connection : Connection σ) (request : Message Request) (state : σ) : List Event :=
  if connection.connected state then
    [.exchange request]
  else
    match (connection.connect state).1 with
    | .ok _ => [.connect, .exchange request]
    | .error _ => [.connect]

/-- What is asked of the connection because of the outcome: to close if it has to be opened
anew. -/
def released : Except Error (Message Response) → List Event
  | .ok _ => []
  | .error error => if error.needsReconnect then [.close] else []

/-- What the attempt after a number of others asks of the connection. -/
def asked (connection : Connection σ) (request : Message Request) (state : σ) (made : Nat) :
    List Event :=
  called connection request ((settle connection request)^[made] state) ++
    released (nth connection request state made).1

variable {policy : Policy} {connection : Connection σ} {request : Message Request}
  {decision : Except Error (Message Response)}

theorem needsReconnect_eq_false {error : Error} (hfinal : error.isRetryable = false) :
    error.needsReconnect = false := by
  cases error <;> first | rfl | contradiction

/-- A connection is not closed because of an outcome that decides. -/
theorem settle_of_decides {state : σ}
    (hdecides : DecidesAt policy connection request state 0 decision) :
    settle connection request state = (attempt connection request state).2 := by
  have hattempt : nth connection request state 0 = attempt connection request state := rfl
  unfold DecidesAt at hdecides
  rw [hattempt] at hdecides
  unfold settle
  generalize attempt connection request state = tried at hdecides
  obtain ⟨outcome, after⟩ := tried
  cases hdecides with
  | answer hbody hvalid => rfl
  | refusal => rfl
  | failure hfinal =>
      simp only [recover, needsReconnect_eq_false hfinal, Bool.false_eq_true, if_false]

theorem settle_eq_recover (connection : Connection σ) (request : Message Request) (state : σ) :
    settle connection request state =
      recover connection (failure request (attempt connection request state).1)
        (attempt connection request state).2 := by
  unfold settle
  generalize attempt connection request state = tried
  obtain ⟨outcome, after⟩ := tried
  cases outcome <;> rfl

/-- Recording does not change what an attempt does. -/
theorem attempt_recorded (connection : Connection σ) (request : Message Request) (state : σ)
    (events : List Event) :
    attempt connection.recorded request (state, events) =
      ((attempt connection request state).1, (attempt connection request state).2,
        events ++ called connection request state) := by
  have hconnected : connection.recorded.connected (state, events) = connection.connected state :=
    rfl
  unfold attempt called
  rw [hconnected]
  cases connection.connected state with
  | true => rfl
  | false =>
      simp only [Bool.false_eq_true, if_false]
      have hconnect : connection.recorded.connect (state, events) =
          ((connection.connect state).1, (connection.connect state).2, events ++ [.connect]) :=
        rfl
      rw [hconnect]
      cases hopened : connection.connect state with
      | mk opened after =>
          cases opened with
          | error error => rfl
          | ok _ =>
              show ((connection.exchange request after).1, (connection.exchange request after).2,
                (events ++ [.connect]) ++ [.exchange request]) = _
              rw [List.append_assoc]
              rfl

theorem settle_recorded (connection : Connection σ) (request : Message Request) (state : σ)
    (events : List Event) :
    settle connection.recorded request (state, events) =
      (settle connection request state, events ++ asked connection request state 0) := by
  have hasked : asked connection request state 0 =
      called connection request state ++ released (attempt connection request state).1 := rfl
  rw [hasked, ← List.append_assoc]
  unfold settle
  rw [attempt_recorded]
  generalize attempt connection request state = tried
  obtain ⟨outcome, after⟩ := tried
  cases outcome with
  | ok response => simp only [released, List.append_nil]
  | error error =>
      simp only [recover, released]
      cases error.needsReconnect with
      | true => rfl
      | false => simp only [Bool.false_eq_true, if_false, List.append_nil]

theorem decidesAt_recorded {state : σ} {events : List Event} :
    DecidesAt policy connection.recorded request (state, events) 0 decision ↔
      DecidesAt policy connection request state 0 decision := by
  have hrecorded : nth connection.recorded request (state, events) 0 =
      attempt connection.recorded request (state, events) := rfl
  unfold DecidesAt
  rw [hrecorded, attempt_recorded]
  rfl

theorem open_recorded {state : σ}
    (hopen : ∀ decision, ¬ DecidesAt policy connection request state 0 decision)
    (events : List Event) (decision : Except Error (Message Response)) :
    ¬ DecidesAt policy connection.recorded request (state, events) 0 decision :=
  fun hdecides => hopen decision (decidesAt_recorded.mp hdecides)

theorem attempts_of_decides {state : σ} (spare made : Nat)
    (hdecides : DecidesAt policy connection request state 0 decision) :
    attempts policy connection request spare made state =
      (decision, settle connection request state) := by
  have hjudge : judge policy (connection.headless (attempt connection request state).2) request
      (attempt connection request state).1 = settled decision := judge_of_decides hdecides
  rw [settle_of_decides hdecides]
  unfold attempts
  simp only [hjudge]
  cases decision <;> rfl

section

variable {state : σ}
  (hopen : ∀ decision, ¬ DecidesAt policy connection request state 0 decision)

include hopen

theorem judge_attempt_of_open :
    judge policy (connection.headless (attempt connection request state).2) request
        (attempt connection request state).1 =
      .again (failure request (attempt connection request state).1) :=
  judge_of_open hopen

theorem attempts_last (made : Nat) :
    attempts policy connection request 0 made state =
      (.error (.retriesExhausted (made + 1)
          (failure request (attempt connection request state).1)),
        settle connection request state) := by
  unfold attempts
  simp only [judge_attempt_of_open hopen]
  rw [settle_eq_recover]

theorem attempts_next (spare made : Nat) :
    attempts policy connection request (spare + 1) made state =
      attempts policy connection request spare (made + 1)
        (settle connection request state) := by
  rw [attempts]
  simp only [judge_attempt_of_open hopen]
  rw [settle_eq_recover]

end

/-! ## Runs of attempts -/

/-- What attempts ask of the connection, the first one and those behind it. -/
theorem flatMap_asked (connection : Connection σ) (request : Message Request) (state : σ)
    (count : Nat) :
    (List.range (count + 1)).flatMap (asked connection request state) =
      asked connection request state 0 ++
        (List.range count).flatMap
          (asked connection request (settle connection request state)) := by
  rw [List.range_succ_eq_map, List.flatMap_cons, List.flatMap_map]
  rfl

/-- A run of attempts, with `spare` ones after the first and `made` ones before it, ends with
the attempt of the given number. -/
structure Concludes (policy : Policy) (connection : Connection σ) (request : Message Request)
    (spare made : Nat) (state : σ) (last : Nat) : Prop where
  within : last ≤ spare
  /-- No attempt before the last one decides. -/
  undecided : ∀ earlier < last, ∀ decision,
    ¬ DecidesAt policy connection request state earlier decision
  /-- The last attempt decides, or there are no more. -/
  result : DecidesAt policy connection request state last
      (attempts policy connection request spare made state).1 ∨
    last = spare ∧
      (∀ decision, ¬ DecidesAt policy connection request state last decision) ∧
      (attempts policy connection request spare made state).1 =
        .error (.retriesExhausted (made + spare + 1)
          (failure request (nth connection request state last).1))
  after : (attempts policy connection request spare made state).2 =
    (settle connection request)^[last + 1] state
  /-- What all the attempts asked of the connection. -/
  record : ∀ events, attempts policy connection.recorded request spare made (state, events) =
    ((attempts policy connection request spare made state).1,
      (attempts policy connection request spare made state).2,
      events ++ (List.range (last + 1)).flatMap (asked connection request state))

theorem concludes_of_decides {state : σ} (spare made : Nat)
    (hdecides : DecidesAt policy connection request state 0 decision) :
    Concludes policy connection request spare made state 0 := by
  have hattempts := attempts_of_decides spare made hdecides
  refine ⟨Nat.zero_le spare, fun earlier hearlier => absurd hearlier (Nat.not_lt_zero _),
    Or.inl ?_, ?_, ?_⟩
  · rw [hattempts]
    exact hdecides
  · rw [hattempts]
    rfl
  · intro events
    rw [attempts_of_decides spare made (decidesAt_recorded.mpr hdecides), hattempts,
      settle_recorded, flatMap_asked, List.range_zero, List.flatMap_nil, List.append_nil]

theorem concludes_last {state : σ} (made : Nat)
    (hopen : ∀ decision, ¬ DecidesAt policy connection request state 0 decision) :
    Concludes policy connection request 0 made state 0 := by
  have hattempts := attempts_last hopen made
  refine ⟨le_refl 0, fun earlier hearlier => absurd hearlier (Nat.not_lt_zero _),
    Or.inr ⟨rfl, hopen, ?_⟩, ?_, ?_⟩
  · rw [hattempts]
    rfl
  · rw [hattempts]
    rfl
  · intro events
    rw [attempts_last (open_recorded hopen events), hattempts, settle_recorded, attempt_recorded,
      flatMap_asked, List.range_zero, List.flatMap_nil, List.append_nil]

theorem Concludes.next {state : σ} {spare made last : Nat}
    (hopen : ∀ decision, ¬ DecidesAt policy connection request state 0 decision)
    (hrest : Concludes policy connection request spare (made + 1)
      (settle connection request state) last) :
    Concludes policy connection request (spare + 1) made state (last + 1) := by
  have hattempts := attempts_next hopen spare made
  refine ⟨Nat.succ_le_succ hrest.within, ?_, ?_, ?_, ?_⟩
  · intro earlier hearlier decision
    cases earlier with
    | zero => exact hopen decision
    | succ earlier => exact hrest.undecided earlier (by omega) decision
  · rw [hattempts]
    rcases hrest.result with hdecides | ⟨hlast, hlastopen, hexhausted⟩
    · exact Or.inl hdecides
    · refine Or.inr ⟨by rw [hlast], hlastopen, ?_⟩
      rw [hexhausted, Nat.add_right_comm made 1 spare]
      rfl
  · rw [hattempts]
    exact hrest.after
  · intro events
    rw [attempts_next (open_recorded hopen events), settle_recorded, hrest.record, hattempts,
      flatMap_asked _ _ state, List.append_assoc]

theorem exists_concludes (policy : Policy) (connection : Connection σ)
    (request : Message Request) (spare made : Nat) (state : σ) :
    ∃ last, Concludes policy connection request spare made state last := by
  induction spare generalizing made state with
  | zero =>
      by_cases hdecided : ∃ decision, DecidesAt policy connection request state 0 decision
      · obtain ⟨decision, hdecides⟩ := hdecided
        exact ⟨0, concludes_of_decides 0 made hdecides⟩
      · exact ⟨0, concludes_last made fun decision hdecides => hdecided ⟨decision, hdecides⟩⟩
  | succ spare ih =>
      by_cases hdecided : ∃ decision, DecidesAt policy connection request state 0 decision
      · obtain ⟨decision, hdecides⟩ := hdecided
        exact ⟨0, concludes_of_decides (spare + 1) made hdecides⟩
      · obtain ⟨last, hrest⟩ := ih (made + 1) (settle connection request state)
        exact ⟨last + 1, hrest.next fun decision hdecides => hdecided ⟨decision, hdecides⟩⟩

/-- A transaction is a run of attempts, with the counter and the connection left as the
policy asks. -/
theorem execute_eq (policy : Policy) (connection : Connection σ) (request : Message Request)
    (counter : Counter) (state : σ) :
    execute policy connection request counter state =
      let run := attempts policy connection (stamp request counter.next) (policy.attempts - 1) 0
        state
      (run.1, if run.1.isOk && policy.checkValidity then counter.advance else counter,
        if policy.reconnecting then connection.close run.2 else run.2) := by
  unfold execute
  dsimp only
  generalize attempts policy connection (stamp request counter.next) (policy.attempts - 1) 0
    state = run
  obtain ⟨outcome, after⟩ := run
  cases outcome with
  | error error => rfl
  | ok response => cases hcheck : policy.checkValidity <;> simp only [advanced, hcheck] <;> rfl

/-- A transaction ends with the first attempt that decides it, or fails when all attempts are
used up.  All attempts carry the identifier that the counter has at the beginning; the
counter moves on by one step if the answer was checked and accepted.  The connection is
opened for an attempt if it is not open, and closed after the attempts that ask for that
and, if connections are not kept, at the end. -/
theorem execute_concludes (policy : Policy) (hattempts : 1 ≤ policy.attempts)
    (connection : Connection σ) (request : Message Request) (counter : Counter) (state : σ) :
    let stamped := stamp request counter.next
    let result := (execute policy connection request counter state).1
    let next := (execute policy connection request counter state).2.1
    let after := (execute policy connection request counter state).2.2
    ∃ last < policy.attempts,
      (∀ earlier < last, ∀ decision,
        ¬ DecidesAt policy connection stamped state earlier decision) ∧
      (DecidesAt policy connection stamped state last result ∨
        last + 1 = policy.attempts ∧
          (∀ decision, ¬ DecidesAt policy connection stamped state last decision) ∧
          result = .error (.retriesExhausted policy.attempts
            (failure stamped (nth connection stamped state last).1))) ∧
      next = (if result.isOk && policy.checkValidity then counter.advance else counter) ∧
      ∀ events, execute policy connection.recorded request counter (state, events) =
        (result, next, after,
          events ++ (List.range (last + 1)).flatMap (asked connection stamped state) ++
            if policy.reconnecting then [.close] else []) := by
  obtain ⟨last, hconcludes⟩ := exists_concludes policy connection (stamp request counter.next)
    (policy.attempts - 1) 0 state
  have hwithin := hconcludes.within
  simp only [execute_eq]
  refine ⟨last, by omega, hconcludes.undecided, ?_, trivial, ?_⟩
  · rcases hconcludes.result with hdecides | ⟨hlast, hopen, hexhausted⟩
    · exact Or.inl hdecides
    · refine Or.inr ⟨by omega, hopen, ?_⟩
      rw [hexhausted, Nat.zero_add, Nat.sub_add_cancel hattempts]
  · intro events
    rw [hconcludes.record]
    cases policy.reconnecting with
    | true => rfl
    | false => simp only [Bool.false_eq_true, if_false, List.append_nil]

/-- Nothing comes in time, then an answer to another request, then the right answer. -/
theorem execute_concludes_third :
    let policy : Policy := ⟨3, 0, true, true⟩
    let request : Message Request := ⟨⟨0, 0, 1⟩, .readHoldingRegisters 0 1⟩
    let reply : List UInt8 := [3, 2, 0, 7]
    let state : Scripted.State :=
      ⟨false, false, [], [.fails (.timeout (.reported "slow")), .answers reply (some 9) none,
        .answers reply none none], []⟩
    DecidesAt policy Scripted.connection (stamp request 5) state 2
        (.ok ⟨⟨5, 0, 1⟩, .readHoldingRegisters [7]⟩) ∧
      ∀ events, (execute policy Scripted.connection.recorded request ⟨5⟩ (state, events)).2.2.2 =
        events ++ [.connect, .exchange (stamp request 5), .close, .connect,
          .exchange (stamp request 5), .exchange (stamp request 5), .close] := by
  intro policy request reply state
  obtain ⟨last, hlast, hundecided, hresult, -, hrecord⟩ :=
    execute_concludes policy (by decide) Scripted.connection request ⟨5⟩ state
  have hvalue : (execute policy Scripted.connection request ⟨5⟩ state).1 =
      .ok ⟨⟨5, 0, 1⟩, .readHoldingRegisters [7]⟩ := by decide
  simp only [hvalue] at hresult
  have hdecides : DecidesAt policy Scripted.connection (stamp request 5) state last
      (.ok ⟨⟨5, 0, 1⟩, .readHoldingRegisters [7]⟩) := by
    rcases hresult with hdecides | ⟨-, -, herror⟩
    · exact hdecides
    · contradiction
  obtain rfl : last = 2 := by
    change last < 3 at hlast
    interval_cases last
    · nomatch hdecides
    · nomatch hdecides
    · rfl
  refine ⟨hdecides, fun events => ?_⟩
  rw [hrecord, List.append_assoc]
  rfl

end

end Transaction

end Modbus
