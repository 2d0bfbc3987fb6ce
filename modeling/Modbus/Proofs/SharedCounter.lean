import Mathlib.Tactic
import Modbus.Master
import Modbus.Proofs.StaleAnswers

/-!
# Masters that share a counter

Masters take turns to send requests, each over a connection of its own, and draw
their identifiers from one counter.  The counter moves on when an answer has been
accepted and at no other time, so the identifier of a request tells how many of the
requests before it were answered, whoever sent them.
-/

namespace Modbus

open Scripted (Event)

/-! ## What a master sends -/

namespace Transaction

variable {σ : Type} {connection : Connection σ} {request sent : Message Request} {state : σ}

theorem eq_of_mem_asked {made : Nat}
    (hsent : .exchange sent ∈ asked connection request state made) :
    sent = request := by
  rcases List.mem_append.mp hsent with hcalled | hreleased
  · unfold called at hcalled
    split at hcalled
    next => simpa using hcalled
    next =>
      split at hcalled
      next => simpa using hcalled
      next => simp at hcalled
  · unfold released at hreleased
    split at hreleased
    next => contradiction
    next => split at hreleased <;> simp at hreleased

/-- Recording changes nothing in a transaction, and all that it sends is its request with the
identifier that the counter has at the beginning. -/
theorem exists_events (policy : Policy) (connection : Connection σ) (request : Message Request)
    (counter : Counter) (state : σ) :
    ∃ events,
      (∀ sent, .exchange sent ∈ events → sent = stamp request counter.next) ∧
      ∀ before, execute policy connection.recorded request counter (state, before) =
        let executed := execute policy connection request counter state
        (executed.1, executed.2.1, executed.2.2, before ++ events) := by
  obtain ⟨last, hconcludes⟩ := exists_concludes policy connection (stamp request counter.next)
    (policy.attempts - 1) 0 state
  refine ⟨(List.range (last + 1)).flatMap (asked connection (stamp request counter.next) state) ++
    if policy.reconnecting then [.close] else [], fun sent hsent => ?_, fun before => ?_⟩
  · rcases List.mem_append.mp hsent with hattempted | hclosed
    · obtain ⟨made, -, hasked⟩ := List.mem_flatMap.mp hattempted
      exact eq_of_mem_asked hasked
    · split at hclosed <;> simp at hclosed
  · simp only [execute_eq, hconcludes.record]
    cases policy.reconnecting with
    | true => simp only [if_true, Connection.recorded, List.append_assoc]
    | false => simp only [Bool.false_eq_true, if_false, List.append_nil]

end Transaction

namespace Master

variable {σ : Type}

/-- A master that keeps a record of what it asks of its connection. -/
def recorded (master : Master σ) : Master (σ × List Event) where
  policy := master.policy
  connection := master.connection.recorded
  state := (master.state, [])
  counter := master.counter

/-- What a master asks of its connection because of a request. -/
def events (master : Master σ) (request : Message Request) : List Event :=
  (master.recorded.execute request).2.state.2

/-- A master that keeps a record does what it does without one. -/
theorem execute_recorded (master : Master σ) (request : Message Request) :
    let recorded := master.recorded.execute request
    let plain := master.execute request
    recorded.1 = plain.1 ∧ recorded.2.counter = plain.2.counter ∧
      recorded.2.state = (plain.2.state, master.events request) := by
  obtain ⟨asked, -, hrecorded⟩ := Transaction.exists_events master.policy master.connection request
    master.counter master.state
  unfold events execute
  cases request.body.validate with
  | error error => exact ⟨rfl, rfl, rfl⟩
  | ok valid =>
      have hexecuted := hrecorded []
      simp only [recorded, hexecuted]
      exact ⟨trivial, trivial, trivial⟩

/-- The counter of a master that checks its answers moves on by one step if a request is
answered and stays if it is not. -/
theorem counter_execute {master : Master σ} (hchecked : master.policy.checkValidity = true)
    (request : Message Request) :
    (master.execute request).2.counter =
      if (master.execute request).1.isOk then master.counter.advance else master.counter := by
  unfold execute
  cases request.body.validate with
  | error error => rfl
  | ok valid => simp only [Transaction.execute_eq, hchecked, Bool.and_true]

/-- All that a master sends for a request carries the identifier of its counter. -/
theorem eq_stamp_of_mem_events {master : Master σ} {request sent : Message Request}
    (hsent : .exchange sent ∈ master.events request) :
    sent = Transaction.stamp request master.counter.next := by
  obtain ⟨events, hevents, hrecorded⟩ := Transaction.exists_events master.policy master.connection
    request master.counter master.state
  unfold Master.events execute at hsent
  cases hvalid : request.body.validate with
  | error error =>
      rw [hvalid] at hsent
      contradiction
  | ok valid =>
      have hexecuted := hrecorded []
      simp only [hvalid, recorded, hexecuted, List.nil_append] at hsent
      exact hevents sent hsent

end Master

/-! ## Turns -/

/-- Masters that share a counter, each with a connection of its own. -/
structure Masters (ι : Type) (σ : ι → Type) where
  connection : ∀ index, Connection (σ index)
  state : ∀ index, σ index
  counter : Counter

/-- A turn of one of the masters, which sends a request and checks the answers. -/
structure Turn (ι : Type) (σ : ι → Type) where
  index : ι
  policy : Policy
  checked : policy.checkValidity = true
  /-- What has happened to the connection since the last turn: it may have been opened or
  closed, and time has passed. -/
  meanwhile : σ index → σ index
  request : Message Request

namespace Masters

variable {ι : Type} {σ : ι → Type}

/-- The master whose turn it is. -/
def ready (masters : Masters ι σ) (turn : Turn ι σ) : Master (σ turn.index) where
  policy := turn.policy
  connection := masters.connection turn.index
  state := turn.meanwhile (masters.state turn.index)
  counter := masters.counter

/-- What comes of the request of a turn. -/
def result (masters : Masters ι σ) (turn : Turn ι σ) : Except Error (Message Response) :=
  ((masters.ready turn).execute turn.request).1

/-- What is asked of the connection during a turn. -/
def events (masters : Masters ι σ) (turn : Turn ι σ) : List Event :=
  (masters.ready turn).events turn.request

variable [DecidableEq ι]

/-- The masters after a turn. -/
def next (masters : Masters ι σ) (turn : Turn ι σ) : Masters ι σ :=
  let after := ((masters.ready turn).execute turn.request).2
  { masters with
    state := Function.update masters.state turn.index after.state
    counter := after.counter }

/-- The masters after turns one after another. -/
def after (masters : Masters ι σ) (turns : List (Turn ι σ)) : Masters ι σ :=
  turns.foldl next masters

/-- How many of the turns, one after another, succeed. -/
def successes (masters : Masters ι σ) : List (Turn ι σ) → Nat
  | [] => 0
  | turn :: turns =>
    (if (masters.result turn).isOk then 1 else 0) + (masters.next turn).successes turns

theorem counter_next (masters : Masters ι σ) (turn : Turn ι σ) :
    (masters.next turn).counter =
      if (masters.result turn).isOk then masters.counter.advance else masters.counter :=
  Master.counter_execute turn.checked turn.request

/-- The counter tells how many turns have succeeded, up to the period. -/
theorem counter_after {masters : Masters ι σ} (hrange : masters.counter.next.toNat < Counter.period)
    (turns : List (Turn ι σ)) :
    (masters.after turns).counter.next.toNat =
      (masters.counter.next.toNat + masters.successes turns) % Counter.period := by
  induction turns generalizing masters with
  | nil => exact (Nat.mod_eq_of_lt hrange).symm
  | cons turn turns ih =>
      have hmoved := Counter.next_moved hrange (masters.result turn).isOk
      rw [← counter_next] at hmoved
      have hnext : (masters.next turn).counter.next.toNat < Counter.period := by
        rw [hmoved]
        exact Nat.mod_lt _ (by decide)
      show ((masters.next turn).after turns).counter.next.toNat = _
      rw [ih hnext, hmoved, Nat.mod_add_mod, Nat.add_assoc, successes]

/-- Whatever masters have sent from one counter and whatever came of it, the requests of a turn
all carry one identifier: the one to start with, moved on by as many steps as turns have
succeeded.  It is never beyond the largest one.  A turn that fails leaves it to the next
turn. -/
theorem identifier_of_turn {start : UInt16} (hstart : start ≤ Counter.largest)
    {masters : Masters ι σ} (hcounter : masters.counter = .startingAt start)
    (turns : List (Turn ι σ)) (turn : Turn ι σ) :
    let reached := masters.after turns
    let identifier := (start.toNat + masters.successes turns) % Counter.period
    (∀ sent, .exchange sent ∈ reached.events turn →
        sent = Transaction.stamp turn.request reached.counter.next ∧
        sent.header.transactionId.toNat = identifier ∧
        sent.header.transactionId ≤ Counter.largest) ∧
      reached.counter.next.toNat = identifier ∧
      ((reached.result turn).isOk = false → (reached.next turn).counter = reached.counter) := by
  intro reached identifier
  have hfirst : masters.counter.next = start := by
    rw [hcounter]
    exact if_pos hstart
  have hrange : masters.counter.next.toNat < Counter.period := by
    rw [hcounter]
    exact Counter.next_startingAt start
  have hidentifier : reached.counter.next.toNat = identifier := by
    show _ = (start.toNat + masters.successes turns) % Counter.period
    rw [← hfirst]
    exact counter_after hrange turns
  refine ⟨fun sent hsent => ?_, hidentifier, fun hfailed => ?_⟩
  · obtain rfl := Master.eq_stamp_of_mem_events hsent
    have hwithin : identifier < Counter.period := Nat.mod_lt _ (by decide)
    have hlargest : reached.counter.next ≤ Counter.largest := by
      rw [UInt16.le_iff_toNat_le, hidentifier]
      exact Nat.le_of_lt_succ hwithin
    exact ⟨rfl, hidentifier, hlargest⟩
  · rw [counter_next, hfailed]
    rfl

/-- Two masters, one of them on a line without identifiers, read a register.  The first one
succeeds when it asks again, the other one is refused and then succeeds; so the first one asks
with the identifier that comes after the largest one. -/
theorem identifier_of_turn_wrapped :
    let answer : Scripted.Reply := .answers [3, 2, 0, 7] none none
    let masters : Masters Bool fun _ => Scripted.State := {
      connection := fun _ => Scripted.connection
      state := fun first =>
        if first then
          ⟨false, false, [], [.answers [3, 2, 0, 7] (some 9) none, answer,
            .fails (.timeout (.reported "slow")), answer], []⟩
        else
          ⟨true, true, [], [.answers [131, 2] none none, answer], []⟩
      counter := .startingAt 32766 }
    let request : Message Request := ⟨⟨0, 0, 1⟩, .readHoldingRegisters 0 1⟩
    let turn (first : Bool) : Turn Bool fun _ => Scripted.State :=
      ⟨first, ⟨3, 0, true, false⟩, rfl, id, request⟩
    let reached := masters.after [turn true, turn false, turn false]
    reached.events (turn true) =
        [.exchange (Transaction.stamp request 0), .close, .connect,
          .exchange (Transaction.stamp request 0)] ∧
      reached.counter.next.toNat = (32766 + 2) % 32768 := by
  intro answer masters request turn reached
  obtain ⟨-, hidentifier, -⟩ := @identifier_of_turn Bool (fun _ => Scripted.State) _ 32766
    (by decide) masters rfl [turn true, turn false, turn false] (turn true)
  have hsuccesses : masters.successes [turn true, turn false, turn false] = 2 := by decide +kernel
  rw [hsuccesses] at hidentifier
  exact ⟨by decide +kernel, hidentifier⟩

end Masters

end Modbus
