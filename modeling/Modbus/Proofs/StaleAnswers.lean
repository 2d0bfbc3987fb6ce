import Mathlib.Tactic
import Modbus.Connection.Network
import Modbus.Proofs.TransactionOutcome

/-!
# Which request an answer belongs to

Over a network that delays and repeats answers a master may read an answer to an
earlier request.  It compares identifiers, and the identifier moves on when a
transaction succeeds; so an accepted answer belongs to a request with the same
identifier, which an earlier transaction may have sent if none has succeeded
since.  Exceptions end a transaction without a comparison and may belong to any
request sent since the connection was last closed.
-/

namespace Modbus

/-! ## Identifiers -/

namespace Counter

/-- How many identifiers there are. -/
def period : Nat := Limits.transactionId + 1

theorem next_startingAt (value : UInt16) : (startingAt value).next.toNat < period := by
  have hlargest : largest.toNat = Limits.transactionId := rfl
  show (if value ≤ largest then value else largest).toNat < period
  split
  next hsmall =>
    rw [UInt16.le_iff_toNat_le, hlargest] at hsmall
    exact Nat.lt_succ_of_le hsmall
  next => decide

/-- After the largest identifier they begin again. -/
theorem next_advance {counter : Counter} (hrange : counter.next.toNat < period) :
    counter.advance.next.toNat = (counter.next.toNat + 1) % period := by
  have hlargest : largest.toNat = Limits.transactionId := rfl
  simp only [period, Limits.transactionId] at hrange hlargest ⊢
  unfold advance
  split
  next hlast =>
    rw [UInt16.le_iff_toNat_le, hlargest] at hlast
    have hnext : counter.next.toNat = 32767 := by omega
    rw [hnext]
    rfl
  next hmore =>
    rw [UInt16.le_iff_toNat_le, hlargest] at hmore
    rw [UInt16.toNat_add, UInt16.toNat_one, Nat.mod_eq_of_lt (by omega),
      Nat.mod_eq_of_lt (by omega)]

/-- A counter that moves on only if something succeeded has counted it. -/
theorem next_moved {counter : Counter} (hrange : counter.next.toNat < period) (success : Bool) :
    (if success then counter.advance else counter).next.toNat =
      (counter.next.toNat + if success then 1 else 0) % period := by
  cases success with
  | true => exact next_advance hrange
  | false => exact (Nat.mod_eq_of_lt hrange).symm

end Counter

namespace Network

variable {network : Network} {request : Message Request} {state : State}

/-! ## What the network keeps -/

/-- The peer gave the answer to the request of its number. -/
def Genuine (network : Network) (sent : List (Message Request)) (delivery : Delivery) : Prop :=
  ∃ request, sent[delivery.number]? = some request ∧
    delivery.response ∈ network.answers delivery.number request

/-- What waits was given by the peer, and was asked for since the connection was last closed
unless answers outlive it. -/
structure Sound (network : Network) (state : State) : Prop where
  since_le : state.since ≤ state.sent.length
  genuine : ∀ delivery ∈ state.waiting, network.Genuine state.sent delivery
  recent : network.lasting = false → ∀ delivery ∈ state.waiting, state.since ≤ delivery.number

/-- Some time later: nothing but the given request was sent in the meantime. -/
structure Later (request : Message Request) (state later : State) : Prop where
  sent : ∃ count, later.sent = state.sent ++ List.replicate count request
  since : state.since ≤ later.since
  read : ∃ passed, later.read = state.read ++ passed

theorem Genuine.append {sent : List (Message Request)} {delivery : Delivery}
    (hgenuine : network.Genuine sent delivery) (more : List (Message Request)) :
    network.Genuine (sent ++ more) delivery := by
  obtain ⟨request, hrequest, hanswer⟩ := hgenuine
  exact ⟨request, List.getElem?_append_left (List.getElem?_eq_some_iff.mp hrequest).1 ▸ hrequest,
    hanswer⟩

theorem Later.refl (request : Message Request) (state : State) : Later request state state :=
  ⟨⟨0, (List.append_nil _).symm⟩, le_refl _, ⟨[], (List.append_nil _).symm⟩⟩

theorem Later.trans {first second third : State} (hfirst : Later request first second)
    (hsecond : Later request second third) : Later request first third := by
  obtain ⟨⟨count, hsent⟩, hsince, passed, hread⟩ := hfirst
  obtain ⟨⟨more, hmore⟩, hthen, others, hothers⟩ := hsecond
  refine ⟨⟨count + more, ?_⟩, hsince.trans hthen, ⟨passed ++ others, ?_⟩⟩
  · rw [hmore, hsent, List.append_assoc, List.replicate_append_replicate]
  · rw [hothers, hread, List.append_assoc]

theorem sound_fresh (network : Network) : network.Sound .fresh :=
  ⟨le_refl 0, fun _ hdelivery => by contradiction, fun _ _ hdelivery => by contradiction⟩

theorem sound_close (network : Network) (state : State) : network.Sound (close state) :=
  ⟨le_refl _, fun _ hdelivery => by contradiction, fun _ _ hdelivery => by contradiction⟩

theorem mem_arrivals {sent : List (Message Request)} {since number : Nat} {delivery : Delivery}
    (hdelivery : delivery ∈ network.arrivals sent since number) :
    network.Genuine sent delivery ∧ (network.lasting = false → since ≤ delivery.number) := by
  obtain ⟨⟨origin, place⟩, -, harrival⟩ := List.mem_filterMap.mp hdelivery
  dsimp only at harrival
  split at harrival
  next hallowed =>
    obtain ⟨request, hrequest, hplace⟩ := Option.bind_eq_some_iff.mp harrival
    obtain ⟨response, hresponse, rfl⟩ := Option.map_eq_some_iff.mp hplace
    refine ⟨⟨request, hrequest, List.mem_of_getElem? hresponse⟩, fun hlasting => ?_⟩
    rcases hallowed with hforever | hrecent
    · rw [hlasting] at hforever
      contradiction
    · exact hrecent
  next => contradiction

/-- What one exchange does: it reads the answer that has waited longest, or fails so that
another attempt may help. -/
theorem exchange_spec (hsound : network.Sound state) (request : Message Request) :
    network.Sound (network.exchange request state).2 ∧
      (network.exchange request state).2.sent = state.sent ++ [request] ∧
      (network.exchange request state).2.since = state.since ∧
      ((∃ error, (network.exchange request state).1 = .error error ∧ error.isRetryable = true ∧
          (network.exchange request state).2.read = state.read) ∨
        ∃ delivery, (network.exchange request state).1 = .ok delivery.response ∧
          (network.exchange request state).2.read = state.read ++ [delivery] ∧
          network.Genuine (state.sent ++ [request]) delivery ∧
          (network.lasting = false → state.since ≤ delivery.number)) := by
  have hwaiting : ∀ delivery ∈ state.waiting ++
        network.arrivals (state.sent ++ [request]) state.since state.sent.length,
      network.Genuine (state.sent ++ [request]) delivery ∧
        (network.lasting = false → state.since ≤ delivery.number) := by
    intro delivery hdelivery
    rcases List.mem_append.mp hdelivery with hearlier | hnow
    · exact ⟨(hsound.genuine delivery hearlier).append [request],
        fun hlasting => hsound.recent hlasting delivery hearlier⟩
    · exact mem_arrivals hnow
  have hsince : state.since ≤ (state.sent ++ [request]).length := by
    rw [List.length_append]
    exact hsound.since_le.trans (Nat.le_add_right _ _)
  unfold exchange
  dsimp only
  generalize state.waiting ++
    network.arrivals (state.sent ++ [request]) state.since state.sent.length = waiting at hwaiting ⊢
  split
  next fault hfault =>
    exact ⟨⟨hsince, fun delivery hdelivery => (hwaiting delivery hdelivery).1,
      fun hlasting delivery hdelivery => (hwaiting delivery hdelivery).2 hlasting⟩, rfl, rfl,
      Or.inl ⟨_, rfl, rfl, rfl⟩⟩
  next hfault =>
    cases waiting with
    | nil =>
        exact ⟨⟨hsince, fun delivery hdelivery => by contradiction,
          fun _ delivery hdelivery => by contradiction⟩, rfl, rfl, Or.inl ⟨_, rfl, rfl, rfl⟩⟩
    | cons delivery rest =>
        obtain ⟨⟨hgenuine, hrecent⟩, hrest⟩ := List.forall_mem_cons.mp hwaiting
        exact ⟨⟨hsince, fun other hother => (hrest other hother).1,
          fun hlasting other hother => (hrest other hother).2 hlasting⟩, rfl, rfl,
          Or.inr ⟨delivery, rfl, rfl, hgenuine, hrecent⟩⟩

/-! ## Attempts over the network -/

open Transaction

theorem Later.close {later : State} (hlater : Later request state later)
    (hsound : network.Sound later) : Later request state (close later) :=
  ⟨hlater.sent, hlater.since.trans hsound.since_le, hlater.read⟩

theorem attempt_eq_exchange (network : Network) (request : Message Request) (state : State) :
    attempt network.connection request state =
      network.exchange request { state with connected := true } := by
  have hconnected : network.connection.connected state = state.connected := rfl
  unfold attempt
  rw [hconnected]
  cases hopen : state.connected with
  | true =>
      obtain ⟨connected, sent, since, waiting, read⟩ := state
      obtain rfl : connected = true := hopen
      rfl
  | false => rfl

theorem attempt_spec (hsound : network.Sound state) (request : Message Request) :
    network.Sound (attempt network.connection request state).2 ∧
      Later request state (attempt network.connection request state).2 ∧
      ((∃ error, (attempt network.connection request state).1 = .error error ∧
          error.isRetryable = true) ∨
        ∃ delivery, (attempt network.connection request state).1 = .ok delivery.response ∧
          (attempt network.connection request state).2.read = state.read ++ [delivery] ∧
          network.Genuine (attempt network.connection request state).2.sent delivery ∧
          (network.lasting = false → state.since ≤ delivery.number)) := by
  have hopened : network.Sound { state with connected := true } :=
    ⟨hsound.since_le, hsound.genuine, hsound.recent⟩
  obtain ⟨hafter, hsent, hsince, houtcome⟩ := exchange_spec hopened request
  rw [attempt_eq_exchange]
  refine ⟨hafter, ⟨⟨1, hsent⟩, hsince.ge, ?_⟩, ?_⟩
  · rcases houtcome with ⟨error, -, -, hread⟩ | ⟨delivery, -, hread, -⟩
    · exact ⟨[], by rw [hread, List.append_nil]⟩
    · exact ⟨[delivery], hread⟩
  · rcases houtcome with ⟨error, herror, hretry, -⟩ | ⟨delivery, hok, hread, hgenuine, hrecent⟩
    · exact Or.inl ⟨error, herror, hretry⟩
    · exact Or.inr ⟨delivery, hok, hread, by rw [hsent]; exact hgenuine, hrecent⟩

theorem settle_spec (hsound : network.Sound state) (request : Message Request) :
    network.Sound (settle network.connection request state) ∧
      Later request state (settle network.connection request state) := by
  obtain ⟨hafter, hlater, -⟩ := attempt_spec hsound request
  rw [settle_eq_recover]
  unfold recover
  split
  next => exact ⟨sound_close network _, hlater.close hafter⟩
  next => exact ⟨hafter, hlater⟩

theorem iterate_settle_spec (hsound : network.Sound state) (request : Message Request)
    (made : Nat) :
    network.Sound ((settle network.connection request)^[made] state) ∧
      Later request state ((settle network.connection request)^[made] state) := by
  induction made with
  | zero => exact ⟨hsound, Later.refl request state⟩
  | succ made ih =>
      rw [Function.iterate_succ_apply']
      obtain ⟨hbefore, hlater⟩ := ih
      obtain ⟨hafter, hnext⟩ := settle_spec hbefore request
      exact ⟨hafter, hlater.trans hnext⟩

/-- A result that an answer led to. -/
def Answered (result : Except Error (Message Response)) : Prop :=
  (∃ response, result = .ok response) ∨
    ∃ code reason, result = .error (.slaveException code reason)

/-- A result that the given answer led to: the answer itself, or its exception. -/
def Tells (result : Except Error (Message Response)) (response : Message Response) : Prop :=
  result = .ok response ∨
    ∃ code reason, response.body = .exception code reason ∧
      result = .error (.slaveException (plainCode code) reason)

theorem not_decides_of_isRetryable {policy : Policy} {headless : Bool} {error : Error}
    {result : Except Error (Message Response)} (hretry : error.isRetryable = true) :
    ¬ Decides policy headless request (.error error) result := by
  intro hdecides
  cases hdecides with
  | failure hfinal =>
      rw [hretry] at hfinal
      contradiction

/-- If an attempt decides because of an answer, it is the one that the attempt read, and if it
is accepted it carries the identifier of the request. -/
theorem tells_of_decides {policy : Policy} (hchecked : policy.checkValidity = true)
    {response : Message Response} {result : Except Error (Message Response)}
    (hdecides : Decides policy false request (.ok response) result) :
    Tells result response ∧
      (result.isOk = true → response.header.transactionId = request.header.transactionId) := by
  cases hdecides with
  | answer hbody hvalid =>
      refine ⟨Or.inl rfl, fun _ => ?_⟩
      rcases hvalid with hheadless | hunchecked | hsame
      · contradiction
      · rw [hchecked] at hunchecked
        contradiction
      · exact hsame
  | refusal => exact ⟨Or.inr ⟨_, _, rfl, rfl⟩, fun hok => by contradiction⟩

/-- Attempts that end with an answer end with the one that was read last.  If it is
accepted, it carries the identifier of the request. -/
theorem attempts_spec {policy : Policy} (hchecked : policy.checkValidity = true)
    (hsound : network.Sound state) (request : Message Request) (spare made : Nat) :
    let run := attempts policy network.connection request spare made state
    network.Sound run.2 ∧ Later request state run.2 ∧
      (Answered run.1 → ∃ delivery, Tells run.1 delivery.response ∧
        (∃ passed, run.2.read = state.read ++ passed ++ [delivery]) ∧
        network.Genuine run.2.sent delivery ∧
        (network.lasting = false → state.since ≤ delivery.number) ∧
        (run.1.isOk = true →
          delivery.response.header.transactionId = request.header.transactionId)) := by
  intro run
  obtain ⟨last, hconcludes⟩ := exists_concludes policy network.connection request spare made state
  have hafter : run.2 = (settle network.connection request)^[last + 1] state := hconcludes.after
  obtain ⟨hsettled, hlater⟩ := iterate_settle_spec hsound request (last + 1)
  rw [← hafter] at hsettled hlater
  refine ⟨hsettled, hlater, fun hanswered => ?_⟩
  obtain ⟨hbefore, ⟨-, hsince, passed, hpassed⟩⟩ := iterate_settle_spec hsound request last
  rcases hconcludes.result with hdecides | ⟨-, -, hexhausted⟩
  · have hlast : run.2 = (attempt network.connection request
        ((settle network.connection request)^[last] state)).2 := by
      rw [hafter, Function.iterate_succ_apply']
      exact settle_of_decides hdecides
    change Decides policy false request (attempt network.connection request
      ((settle network.connection request)^[last] state)).1 run.1 at hdecides
    obtain ⟨-, -, houtcome⟩ := attempt_spec hbefore request
    rcases houtcome with ⟨error, herror, hretry⟩ | ⟨delivery, hok, hread, hgenuine, hrecent⟩
    · rw [herror] at hdecides
      exact absurd hdecides (not_decides_of_isRetryable hretry)
    · rw [hok] at hdecides
      obtain ⟨htells, hsame⟩ := tells_of_decides hchecked hdecides
      refine ⟨delivery, htells, ⟨passed, ?_⟩, ?_, fun hlasting => ?_, hsame⟩
      · rw [hlast, hread, hpassed]
      · rw [hlast]
        exact hgenuine
      · exact hsince.trans (hrecent hlasting)
  · change run.1 = _ at hexhausted
    rw [hexhausted] at hanswered
    rcases hanswered with ⟨response, hok⟩ | ⟨code, reason, hexception⟩
    · contradiction
    · cases hexception

end Network

/-! ## Calls one after another -/

open Network Transaction

/-- Transactions one after another over a network, with checked answers. -/
structure Calls where
  network : Network
  policy : Policy
  checked : policy.checkValidity = true
  /-- The identifier to start with. -/
  start : UInt16
  request : Nat → Message Request

namespace Calls

/-- The counter and the state of the network before a call. -/
def before (calls : Calls) : Nat → Counter × State
  | 0 => (.startingAt calls.start, .fresh)
  | call + 1 =>
    (execute calls.policy calls.network.connection (calls.request call) (calls.before call).1
      (calls.before call).2).2

def counter (calls : Calls) (call : Nat) : Counter := (calls.before call).1

def state (calls : Calls) (call : Nat) : State := (calls.before call).2

/-- What comes of a call. -/
def result (calls : Calls) (call : Nat) : Except Error (Message Response) :=
  (execute calls.policy calls.network.connection (calls.request call) (calls.counter call)
    (calls.state call)).1

/-- How many calls before the given one succeed. -/
def successes (calls : Calls) (call : Nat) : Nat :=
  (List.range call).countP fun earlier => (calls.result earlier).isOk

/-- A call sends the request of a number. -/
def Sends (calls : Calls) (call number : Nat) : Prop :=
  (calls.state call).sent.length ≤ number ∧ number < (calls.state (call + 1)).sent.length

/-- An answer that a call reads last, and that the peer gave to the request of its number. -/
def Takes (calls : Calls) (call : Nat) (delivery : Delivery) : Prop :=
  (∃ passed, (calls.state (call + 1)).read = (calls.state call).read ++ passed ++ [delivery]) ∧
    calls.network.Genuine (calls.state (call + 1)).sent delivery

/-- The request of a call as it is sent. -/
def stamped (calls : Calls) (call : Nat) : Message Request :=
  stamp (calls.request call) (calls.counter call).next

/-- The attempts of a call. -/
def run (calls : Calls) (call : Nat) : Except Error (Message Response) × State :=
  attempts calls.policy calls.network.connection (calls.stamped call) (calls.policy.attempts - 1) 0
    (calls.state call)

variable (calls : Calls)

theorem result_eq (call : Nat) : calls.result call = (calls.run call).1 := by
  rw [result, execute_eq]
  rfl

theorem state_succ (call : Nat) :
    calls.state (call + 1) =
      if calls.policy.reconnecting then close (calls.run call).2 else (calls.run call).2 := by
  show (execute calls.policy calls.network.connection (calls.request call) (calls.counter call)
    (calls.state call)).2.2 = _
  rw [execute_eq]
  rfl

theorem counter_succ (call : Nat) :
    calls.counter (call + 1) =
      if (calls.result call).isOk then (calls.counter call).advance else calls.counter call := by
  show (execute calls.policy calls.network.connection (calls.request call) (calls.counter call)
    (calls.state call)).2.1 = _
  rw [result_eq, execute_eq, calls.checked]
  simp only [Bool.and_true]
  rfl

theorem read_state_succ (call : Nat) :
    (calls.state (call + 1)).read = (calls.run call).2.read := by
  rw [state_succ]
  split <;> rfl

theorem sent_state_succ (call : Nat) :
    (calls.state (call + 1)).sent = (calls.run call).2.sent := by
  rw [state_succ]
  split <;> rfl

theorem sound (call : Nat) : calls.network.Sound (calls.state call) := by
  induction call with
  | zero => exact sound_fresh calls.network
  | succ call ih =>
      rw [state_succ]
      split
      next => exact sound_close calls.network _
      next => exact (attempts_spec calls.checked ih _ _ _).1

/-! ## Senders -/

theorem later (call : Nat) :
    Later (calls.stamped call) (calls.state call) (calls.run call).2 :=
  (attempts_spec calls.checked (calls.sound call) _ _ _).2.1

/-- Every request was sent by some call, with the identifier of that call. -/
theorem exists_sender {call number : Nat} {request : Message Request}
    (hrequest : (calls.state call).sent[number]? = some request) :
    ∃ sender < call, calls.Sends sender number ∧
      request.header.transactionId = (calls.counter sender).next := by
  induction call with
  | zero => contradiction
  | succ call ih =>
      obtain ⟨⟨count, hsent⟩, -, -⟩ := calls.later call
      rw [sent_state_succ, hsent] at hrequest
      by_cases hearlier : number < (calls.state call).sent.length
      · rw [List.getElem?_append_left hearlier] at hrequest
        obtain ⟨sender, hsender, hsends⟩ := ih hrequest
        exact ⟨sender, by omega, hsends⟩
      · have hlength := (List.getElem?_eq_some_iff.mp hrequest).1
        rw [List.getElem?_append_right (by omega), List.getElem?_replicate] at hrequest
        split at hrequest
        next hcount =>
          obtain rfl := Option.some.inj hrequest
          refine ⟨call, Nat.lt_succ_self call, ⟨by omega, ?_⟩, rfl⟩
          rw [sent_state_succ, hsent]
          exact hlength
        next => contradiction

/-! ## Identifiers of calls -/

theorem successes_succ (call : Nat) :
    calls.successes (call + 1) =
      calls.successes call + if (calls.result call).isOk then 1 else 0 := by
  rw [successes, List.range_succ, List.countP_append, List.countP_singleton]
  rfl

/-- The identifier of a call tells how many calls have succeeded, up to the period. -/
theorem next_counter (call : Nat) :
    (calls.counter call).next.toNat =
      ((calls.counter 0).next.toNat + calls.successes call) % Counter.period := by
  have hstart : (calls.counter 0).next.toNat < Counter.period :=
    Counter.next_startingAt calls.start
  induction call with
  | zero => exact (Nat.mod_eq_of_lt hstart).symm
  | succ call ih =>
      have hrange : (calls.counter call).next.toNat < Counter.period := by
        rw [ih]
        exact Nat.mod_lt _ (by decide)
      rw [counter_succ, successes_succ, Counter.next_moved hrange, ih, Nat.mod_add_mod,
        Nat.add_assoc]

theorem dvd_of_next_eq {sender call : Nat} (hsender : sender ≤ call)
    (hnext : (calls.counter call).next = (calls.counter sender).next) :
    Counter.period ∣ calls.successes call - calls.successes sender := by
  have hmonotone : Monotone calls.successes := monotone_nat_of_le_succ fun earlier => by
    rw [successes_succ]
    exact Nat.le_add_right _ _
  have hmod : (calls.counter 0).next.toNat + calls.successes sender ≡
      (calls.counter 0).next.toNat + calls.successes call [MOD Counter.period] := by
    rw [Nat.ModEq, ← next_counter, ← next_counter, hnext]
  exact (Nat.modEq_iff_dvd' (hmonotone hsender)).mp (Nat.ModEq.add_left_cancel' _ hmod)

/-! ## Origins of answers -/

theorem length_sent_mono : Monotone fun call => (calls.state call).sent.length := by
  refine monotone_nat_of_le_succ fun call => ?_
  obtain ⟨⟨count, hsent⟩, -, -⟩ := calls.later call
  rw [sent_state_succ, hsent, List.length_append]
  exact Nat.le_add_right _ _

/-- If the connection is closed after every call, nothing was sent since it was closed. -/
theorem since_eq_length (hreconnecting : calls.policy.reconnecting = true) (call : Nat) :
    (calls.state call).since = (calls.state call).sent.length := by
  cases call with
  | zero => rfl
  | succ call =>
      rw [state_succ, hreconnecting]
      rfl

/-- An answer that leads to the result of a call was given to a request of that call or of
an earlier one, sent since the connection was last closed unless answers outlive it.  An
accepted answer was given to a request with the same identifier: no call from its sender
on has succeeded, or as many as there are identifiers. -/
theorem origin_of_answer (call : Nat) (hanswered : Answered (calls.result call)) :
    ∃ delivery sender, calls.Takes call delivery ∧ Tells (calls.result call) delivery.response ∧
      sender ≤ call ∧ calls.Sends sender delivery.number ∧
      ((calls.result call).isOk = true →
        Counter.period ∣ calls.successes call - calls.successes sender) ∧
      (calls.network.lasting = false →
        (calls.state call).since ≤ delivery.number ∧
          (calls.policy.reconnecting = true → sender = call)) := by
  obtain ⟨-, -, htaken⟩ := attempts_spec calls.checked (calls.sound call) (calls.stamped call)
    (calls.policy.attempts - 1) 0
  rw [result_eq] at hanswered ⊢
  obtain ⟨delivery, htells, hread, hgenuine, hrecent, hsame⟩ := htaken hanswered
  change calls.network.Genuine (calls.run call).2.sent delivery at hgenuine
  rw [← sent_state_succ] at hgenuine
  obtain ⟨request, hrequest, hanswer⟩ := hgenuine
  obtain ⟨sender, hsender, hsends, hidentifier⟩ := calls.exists_sender hrequest
  have hearlier : sender ≤ call := Nat.le_of_lt_succ hsender
  refine ⟨delivery, sender, ⟨?_, request, hrequest, hanswer⟩, htells, hearlier, hsends, ?_, ?_⟩
  · rw [read_state_succ]
    exact hread
  · intro hok
    have hnext : (calls.counter call).next = (calls.counter sender).next := by
      rw [← hidentifier, ← calls.network.identified _ _ _ hanswer, hsame hok]
      rfl
    exact calls.dvd_of_next_eq hearlier hnext
  · intro hlasting
    refine ⟨hrecent hlasting, fun hreconnecting => ?_⟩
    have hnumber := hrecent hlasting
    rw [calls.since_eq_length hreconnecting] at hnumber
    by_contra hother
    have hsent : (calls.state (sender + 1)).sent.length ≤ (calls.state call).sent.length :=
      calls.length_sent_mono (by omega)
    have hlast := hsends.2
    omega

/-- A network that delivers the first answer twice and every other one once.  The third
request finds the unit busy. -/
def repeating : Network where
  answers number request :=
    [⟨request.header, if number = 2 then .exception 3 .slaveDeviceBusy
      else .readHoldingRegisters [UInt16.ofNat number]⟩]
  answered _ _ := List.cons_ne_nil _ _
  identified number request response hresponse := by
    rw [List.mem_singleton.mp hresponse]
  deliveries number := if number = 0 then [(0, 0), (0, 0)] else [(number, 0)]
  faults _ := none
  lasting := false

/-- Calls that read a register. -/
def readings (most : Nat) : Calls where
  network := repeating
  policy := ⟨most, 0, true, false⟩
  checked := rfl
  start := 0
  request _ := ⟨⟨0, 0, 1⟩, .readHoldingRegisters 0 1⟩

/-- The third call accepts an answer to a request with the identifier it has itself. -/
theorem origin_of_answer_third :
    Answered ((readings 1).result 2) ∧
      ∃ delivery sender, (readings 1).Takes 2 delivery ∧
        Tells ((readings 1).result 2) delivery.response ∧ sender ≤ 2 ∧
        (readings 1).Sends sender delivery.number ∧
        Counter.period ∣ (readings 1).successes 2 - (readings 1).successes sender := by
  have hok : (readings 1).result 2 = .ok ⟨⟨1, 0, 1⟩, .readHoldingRegisters [1]⟩ := by decide
  have hanswered : Answered ((readings 1).result 2) := Or.inl ⟨_, hok⟩
  obtain ⟨delivery, sender, htakes, htells, hsender, hsends, hperiod, -⟩ :=
    (readings 1).origin_of_answer 2 hanswered
  exact ⟨hanswered, delivery, sender, htakes, htells, hsender, hsends, hperiod (by rw [hok]; rfl)⟩

/-- One answer comes twice.  If there is one attempt for each call, the second call fails, and
the third one accepts the answer that was meant for the second.  If there are more, the
second call sends its request again, and the third one takes the exception that answers
it, though its identifier is another one. -/
theorem takes_earlier_answers :
    (¬ ∀ (calls : Calls) (call : Nat) (delivery : Delivery), calls.network.lasting = false →
      (∃ response, calls.result call = .ok response) → calls.Takes call delivery →
      calls.Sends call delivery.number) ∧
    ¬ ∀ (calls : Calls) (call : Nat) (delivery : Delivery), calls.network.lasting = false →
      (∃ code reason, calls.result call = .error (.slaveException code reason)) →
      calls.Takes call delivery → calls.Sends call delivery.number := by
  constructor
  · intro hown
    have hsends := hown (readings 1) 2 ⟨1, ⟨⟨1, 0, 1⟩, .readHoldingRegisters [1]⟩⟩ rfl
      ⟨⟨⟨1, 0, 1⟩, .readHoldingRegisters [1]⟩, by decide⟩
      ⟨⟨[], by decide⟩, ⟨⟨1, 0, 1⟩, .readHoldingRegisters 0 1⟩, by decide, by decide⟩
    revert hsends
    unfold Sends
    decide
  · intro hown
    have hsends := hown (readings 5) 2 ⟨2, ⟨⟨1, 0, 1⟩, .exception 3 .slaveDeviceBusy⟩⟩ rfl
      ⟨3, .slaveDeviceBusy, by decide⟩
      ⟨⟨[], by decide⟩, ⟨⟨1, 0, 1⟩, .readHoldingRegisters 0 1⟩, by decide, by decide⟩
    revert hsends
    unfold Sends
    decide

end Calls

end Modbus
