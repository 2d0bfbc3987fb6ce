import Mathlib.Tactic
import Modbus.Proofs.StationReplies
import Modbus.Slave.Tasks

/-!
# Where answers to datagrams go

An answer carries the transaction identifier of its request and nothing else that tells
who asked.  A sender is remembered until an answer with the identifier is sent, a request
with it finds no room, or another datagram brings it again.  So the answer to a request
that has its identifier to itself finds the way back, in whatever order the tasks take
their steps; and nobody is remembered longer than there is a request.
-/

namespace Modbus

variable {α : Type}

/-! ## A record of a run -/

/-- A request that the receiver took in. -/
structure Taken (α : Type) where
  sender : α
  request : Frame
  /-- No other request with its transaction identifier was with the tasks at the same time. -/
  sole : Bool

/-- A request whose answer left the queues. -/
structure Settled (α : Type) where
  taken : Taken α
  /-- Who the answer was sent to, if to anybody. -/
  recipient : Option α
  answer : Frame

/-- The tasks and what became of the requests. -/
structure Watched (α : Type) where
  tasks : Tasks α
  /-- The request that the receiver holds. -/
  held : Option (Taken α)
  /-- Requests that were queued, and who sent them. -/
  accepted : List (α × Frame)
  /-- Queued requests whose answers were not sent yet, the oldest first. -/
  flight : List (Taken α)
  settled : List (Settled α)

namespace Taken

def origin (taken : Taken α) : α × Frame := (taken.sender, taken.request)

def transaction (taken : Taken α) : Nat := taken.request.transaction

/-- A request from when another one was taken in. -/
def beside (request : Frame) (taken : Taken α) : Taken α :=
  { taken with sole := taken.sole && taken.transaction != request.transaction }

@[simp] theorem transaction_beside (request : Frame) (taken : Taken α) :
    (taken.beside request).transaction = taken.transaction := rfl

theorem sole_beside {request : Frame} {taken : Taken α} :
    (taken.beside request).sole = true ↔
      taken.sole = true ∧ taken.transaction ≠ request.transaction := by
  simp [beside]

end Taken

/-- What was sent for a request. -/
def Settled.sent? (settled : Settled α) : Option (α × List UInt8) :=
  settled.recipient.map (·, Mbap.encode settled.answer)

namespace Watched

def idle (station : Station) : Watched α := ⟨.idle station, none, [], [], []⟩

/-- Puts down what a step is about to do. -/
def note (watched : Watched α) : TaskStep α → Watched α
  | .take sender datagram =>
    match watched.tasks.receiving, Mbap.decode (datagram.take Limits.networkFrame) with
    | .waiting, .ok request =>
      { watched with
        held := some ⟨sender, request,
          watched.flight.all fun taken => taken.transaction != request.transaction⟩
        flight := watched.flight.map (Taken.beside request) }
    | _, _ => watched
  | .offer =>
    match watched.tasks.receiving, watched.held with
    | .offering request, some taken =>
      if watched.tasks.relay.requests.length < Relay.capacity then
        { watched with
          held := none
          accepted := watched.accepted ++ [(taken.sender, request)]
          flight := watched.flight ++ [taken] }
      else watched
    | _, _ => watched
  | .drop =>
    match watched.tasks.receiving with
    | .dropping _ => { watched with held := none }
    | _ => watched
  | .deliver =>
    match watched.tasks.sending, watched.flight with
    | some reply, taken :: rest =>
      { watched with
        flight := rest
        settled := watched.settled ++
          [⟨taken, watched.tasks.relay.senders.get? reply.transaction, reply⟩] }
    | _, _ => watched
  | _ => watched

def step (watched : Watched α) (step : TaskStep α) : Watched α :=
  { watched.note step with tasks := watched.tasks.step step }

def run (watched : Watched α) (steps : List (TaskStep α)) : Watched α := steps.foldl step watched

/-- The record does not get in the way of the tasks. -/
theorem tasks_run (watched : Watched α) (steps : List (TaskStep α)) :
    (watched.run steps).tasks = watched.tasks.run steps := by
  induction steps generalizing watched with
  | nil => rfl
  | cons step steps ih => exact ih (watched.step step)

end Watched

/-! ## Who is remembered -/

/-- Senders are remembered for the given requests only, and for those among them that have
their identifiers to themselves. -/
structure Remembers (senders : Directory α) (taken : List (Taken α)) : Prop where
  only : ∀ transaction sender, senders.get? transaction = some sender →
    ∃ one ∈ taken, one.transaction = transaction ∧ one.sender = sender
  sole : ∀ one ∈ taken, one.sole = true → senders.get? one.transaction = some one.sender
  apart : taken.Pairwise fun one other =>
    one.transaction = other.transaction → one.sole = false ∧ other.sole = false

namespace Remembers

variable {senders : Directory α}

theorem nobody : Remembers (.empty : Directory α) [] :=
  ⟨nofun, nofun, .nil⟩

/-- Another request is taken in. -/
theorem take {flight : List (Taken α)} (hflight : Remembers senders flight) (sender : α)
    (request : Frame) :
    Remembers (senders.insert request.transaction sender)
      (flight.map (Taken.beside request) ++
        [⟨sender, request, flight.all fun taken => taken.transaction != request.transaction⟩]) where
  only transaction found hfound := by
    rw [Directory.get?_insert] at hfound
    split at hfound
    next hsame =>
      obtain rfl := Option.some.inj hfound
      exact ⟨_, List.mem_append_right _ (List.mem_singleton_self _), hsame.symm, rfl⟩
    next =>
      obtain ⟨one, hone, htransaction, hsender⟩ := hflight.only transaction found hfound
      exact ⟨one.beside request,
        List.mem_append_left _ (List.mem_map_of_mem hone), htransaction, hsender⟩
  sole one hone hsole := by
    rw [Directory.get?_insert]
    rcases List.mem_append.mp hone with hold | hnew
    · obtain ⟨before, hbefore, rfl⟩ := List.mem_map.mp hold
      obtain ⟨hsole, hother⟩ := Taken.sole_beside.mp hsole
      rw [Taken.transaction_beside, if_neg hother]
      exact hflight.sole before hbefore hsole
    · obtain rfl := List.mem_singleton.mp hnew
      exact if_pos rfl
  apart := by
    -- the two that share an identifier both lose it: the older one by `beside`, the newer one
    -- because it found the older one there
    refine List.pairwise_append.mpr ⟨?_, List.pairwise_singleton _ _, ?_⟩
    · refine List.pairwise_map.mpr (hflight.apart.imp fun {one other} hapart hsame => ?_)
      obtain ⟨hone, hother⟩ := hapart hsame
      simp [Taken.beside, hone, hother]
    · intro one hone other hother hsame
      obtain ⟨before, hbefore, rfl⟩ := List.mem_map.mp hone
      obtain rfl := List.mem_singleton.mp hother
      have htransaction : before.transaction = request.transaction := hsame
      refine ⟨by simp [Taken.beside, htransaction], List.all_eq_false.mpr ⟨before, hbefore, ?_⟩⟩
      simp [htransaction]

/-- A request leaves the tasks, and whoever is remembered under its identifier is forgotten. -/
theorem forget {before after : List (Taken α)} {gone : Taken α}
    (hall : Remembers senders (before ++ gone :: after)) :
    Remembers (senders.erase gone.transaction) (before ++ after) where
  only transaction sender hfound := by
    rw [Directory.get?_erase] at hfound
    split at hfound
    next => cases hfound
    next hother =>
      obtain ⟨one, hone, htransaction, hsender⟩ := hall.only transaction sender hfound
      refine ⟨one, ?_, htransaction, hsender⟩
      rw [List.mem_append, List.mem_cons] at hone
      rcases hone with hone | rfl | hone
      · exact List.mem_append_left _ hone
      · exact absurd htransaction.symm hother
      · exact List.mem_append_right _ hone
  sole one hone hsole := by
    have hcons : (gone :: (before ++ after)).Pairwise fun one other : Taken α =>
        one.transaction = other.transaction → one.sole = false ∧ other.sole = false :=
      (List.perm_middle.pairwise_iff fun {_ _} h hsame => (h hsame.symm).symm).mp hall.apart
    have hother : one.transaction ≠ gone.transaction := fun hsame => by
      obtain ⟨-, hshared⟩ := (List.pairwise_cons.mp hcons).1 one hone hsame.symm
      rw [hshared] at hsole
      cases hsole
    rw [Directory.get?_erase, if_neg hother]
    exact hall.sole one (List.perm_middle.mem_iff.mpr (List.mem_cons_of_mem gone hone)) hsole
  apart := by
    refine hall.apart.sublist (List.Sublist.append_left ?_ before)
    exact List.sublist_cons_self gone after

theorem forget_first {after : List (Taken α)} {gone : Taken α}
    (hall : Remembers senders (gone :: after)) :
    Remembers (senders.erase gone.transaction) after :=
  (show Remembers senders ([] ++ gone :: after) from hall).forget

end Remembers

/-! ## What every step keeps -/

def Receiving.request? : Receiving → Option Frame
  | waiting => none
  | offering request | dropping request => some request

def Processing.request? : Processing → Option Frame
  | answering request => some request
  | _ => none

def Processing.reply? : Processing → Option Frame
  | replying reply => some reply
  | _ => none

namespace Tasks

def answered (tasks : Tasks α) : List Frame :=
  tasks.sending.toList ++ tasks.relay.replies ++ tasks.processing.reply?.toList

/-- Queued requests that were not answered yet, the oldest first. -/
def unanswered (tasks : Tasks α) : List Frame :=
  tasks.processing.request?.toList ++ tasks.relay.requests

/-- What there is to be sent if no other request is queued, and the station after that. -/
def prospect (tasks : Tasks α) : List Frame × Station :=
  let coming := tasks.relay.station.handleAll true tasks.unanswered
  (tasks.answered ++ coming.1, coming.2)

/-- No request and no answer is anywhere in the queues or in the hands of a task. -/
structure Quiet (tasks : Tasks α) : Prop where
  receiving : tasks.receiving = .waiting
  requests : tasks.relay.requests = []
  processing : tasks.processing = .waiting
  replies : tasks.relay.replies = []
  sending : tasks.sending = none

/-- The tasks after a step that brings requests and answers onward between the queues. -/
structure Onward (tasks after : Tasks α) : Prop where
  receiving : after.receiving = tasks.receiving
  senders : after.relay.senders = tasks.relay.senders
  sent : after.relay.sent = tasks.relay.sent
  prospect : after.prospect = tasks.prospect

namespace Onward

theorem none (tasks : Tasks α) : Onward tasks tasks := ⟨rfl, rfl, rfl, rfl⟩

theorem fetch (tasks : Tasks α) : Onward tasks tasks.fetch := by
  unfold Tasks.fetch
  split
  next request rest hprocessing hrequests =>
    refine ⟨rfl, rfl, rfl, ?_⟩
    simp only [Tasks.prospect, answered, unanswered, hprocessing, hrequests]
    rfl
  next => exact none tasks

theorem answer (tasks : Tasks α) : Onward tasks tasks.answer := by
  unfold Tasks.answer
  split
  next request hprocessing =>
    obtain ⟨reply, after, hhandle⟩ := tasks.relay.station.handle_own request
    simp only [hhandle]
    refine ⟨rfl, rfl, rfl, ?_⟩
    simp [Tasks.prospect, answered, unanswered, hprocessing, Processing.request?,
      Processing.reply?, Station.handleAll_answered hhandle]
  next => exact none tasks

theorem reply (tasks : Tasks α) : Onward tasks tasks.reply := by
  unfold Tasks.reply
  split
  next reply hprocessing =>
    split
    next =>
      refine ⟨rfl, rfl, rfl, ?_⟩
      simp [Tasks.prospect, answered, unanswered, hprocessing, Processing.request?,
        Processing.reply?]
    next => exact none tasks
  next => exact none tasks

theorem pick (tasks : Tasks α) : Onward tasks tasks.pick := by
  unfold Tasks.pick
  split
  next reply rest hsending hreplies =>
    refine ⟨rfl, rfl, rfl, ?_⟩
    simp only [Tasks.prospect, answered, unanswered, hsending, hreplies]
    rfl
  next => exact none tasks

end Onward

/-- Another request is answered after those that are in the queues. -/
theorem prospect_offer {tasks : Tasks α} {request : Frame}
    (hreceiving : tasks.receiving = .offering request)
    (hroom : tasks.relay.requests.length < Relay.capacity) :
    tasks.offer.prospect =
      (tasks.prospect.1 ++ (tasks.prospect.2.handleAll true [request]).1,
        (tasks.prospect.2.handleAll true [request]).2) := by
  have hunanswered : tasks.offer.unanswered = tasks.unanswered ++ [request] := by
    simp [offer, hreceiving, hroom, unanswered]
  have hsame : tasks.offer.answered = tasks.answered ∧
      tasks.offer.relay.station = tasks.relay.station := by
    simp [offer, hreceiving, hroom, answered]
  simp only [prospect, hunanswered, hsame, Station.handleAll_append, List.append_assoc]

theorem prospect_of_sending {tasks : Tasks α} {reply : Frame}
    (hsending : tasks.sending = some reply) :
    tasks.prospect = (reply :: tasks.deliver.prospect.1, tasks.deliver.prospect.2) := by
  simp [prospect, deliver, hsending, answered, unanswered]

end Tasks

/-- Whether a sender sent a request, in one of the datagrams that were taken in. -/
def Came (steps : List (TaskStep α)) (sender : α) (request : Frame) : Prop :=
  ∃ datagram, TaskStep.take sender datagram ∈ steps ∧
    Mbap.decode (datagram.take Limits.networkFrame) = .ok request

namespace Watched

/-- What holds of the record of a run whose steps are all among the given ones. -/
structure Invariant (station : Station) (steps : List (TaskStep α)) (watched : Watched α) :
    Prop where
  held : watched.held.map Taken.request = watched.tasks.receiving.request?
  came : ∀ taken ∈ watched.flight ++ watched.held.toList, Came steps taken.sender taken.request
  accepted : watched.accepted =
    watched.settled.map (fun settled => settled.taken.origin) ++ watched.flight.map Taken.origin
  answers : station.handleAll true (watched.accepted.map Prod.snd) =
    (watched.settled.map Settled.answer ++ watched.tasks.prospect.1, watched.tasks.prospect.2)
  remembers : Remembers watched.tasks.relay.senders (watched.flight ++ watched.held.toList)
  settled : ∀ settled ∈ watched.settled, Came steps settled.taken.sender settled.taken.request ∧
    (settled.taken.sole = true → settled.recipient = some settled.taken.sender) ∧
    ∀ sender ∈ settled.recipient, ∃ request, Came steps sender request ∧
      request.transaction = settled.answer.transaction
  sent : watched.tasks.relay.sent = watched.settled.filterMap Settled.sent?

variable {station : Station} {steps : List (TaskStep α)} {watched : Watched α}

theorem idle_invariant (station : Station) (steps : List (TaskStep α)) :
    Invariant station steps (idle station) where
  held := rfl
  came := nofun
  accepted := rfl
  answers := rfl
  remembers := .nobody
  settled := nofun
  sent := rfl

namespace Invariant

/-- The requests in flight are those whose answers are to be sent. -/
theorem headers_flight (hinv : Invariant station steps watched) :
    watched.flight.map (fun taken => taken.request.header) =
      watched.tasks.prospect.1.map Frame.header := by
  have hheaders := station.headers_handleAll_own (watched.accepted.map Prod.snd)
  rw [hinv.answers, hinv.accepted] at hheaders
  simp only [List.map_append, List.map_map] at hheaders
  -- one answer for each settled request, so that both sides break at the same place
  have hlengths : (watched.settled.map (Frame.header ∘ Settled.answer)).length =
      (watched.settled.map (Frame.header ∘ Prod.snd ∘ fun settled =>
        settled.taken.origin)).length := by
    rw [List.length_map, List.length_map]
  exact (List.append_inj hheaders hlengths).2.symm

/-- The answer that is sent next belongs to the oldest request in flight. -/
theorem flight_of_sending (hinv : Invariant station steps watched) {reply : Frame}
    (hsending : watched.tasks.sending = some reply) :
    ∃ taken rest, watched.flight = taken :: rest ∧ taken.transaction = reply.transaction := by
  have hheaders := hinv.headers_flight
  rw [Tasks.prospect_of_sending hsending] at hheaders
  cases hflight : watched.flight with
  | nil =>
      rw [hflight] at hheaders
      cases hheaders
  | cons taken rest =>
      rw [hflight] at hheaders
      have hheader : taken.request.header = reply.header := (List.cons.inj hheaders).1
      exact ⟨taken, rest, rfl, congrArg (fun header => header.transactionId.toNat) hheader⟩

/-- Steps between the queues leave the record as it is. -/
theorem onward (hinv : Invariant station steps watched) {after : Tasks α}
    (honward : watched.tasks.Onward after) :
    Invariant station steps { watched with tasks := after } where
  held := by rw [honward.receiving]; exact hinv.held
  came := hinv.came
  accepted := hinv.accepted
  answers := by rw [honward.prospect]; exact hinv.answers
  remembers := by rw [honward.senders]; exact hinv.remembers
  settled := hinv.settled
  sent := by rw [honward.sent]; exact hinv.sent

theorem held_of_request? (hinv : Invariant station steps watched) {request : Frame}
    (hreceiving : watched.tasks.receiving.request? = some request) :
    ∃ taken, watched.held = some taken ∧ taken.request = request :=
  Option.map_eq_some_iff.mp (hinv.held.trans hreceiving)

theorem held_of_waiting (hinv : Invariant station steps watched)
    (hreceiving : watched.tasks.receiving = .waiting) : watched.held = none := by
  have hheld := hinv.held
  rw [hreceiving] at hheld
  exact Option.map_eq_none_iff.mp hheld

theorem take (hinv : Invariant station steps watched) {sender : α} {datagram : List UInt8}
    (hstep : TaskStep.take sender datagram ∈ steps) :
    Invariant station steps (watched.step (.take sender datagram)) := by
  cases hreceiving : watched.tasks.receiving with
  | waiting =>
      cases hdecode : Mbap.decode (datagram.take Limits.networkFrame) with
      | error fault =>
          simpa only [step, note, Tasks.step, Tasks.take, hreceiving, hdecode] using hinv
      | ok request =>
          have hremembers := hinv.remembers
          rw [hinv.held_of_waiting hreceiving, Option.toList_none, List.append_nil] at hremembers
          simp only [step, note, Tasks.step, Tasks.take, hreceiving, hdecode]
          exact
            { held := rfl
              came := by
                intro taken htaken
                rcases List.mem_append.mp htaken with hold | hnew
                · obtain ⟨before, hbefore, rfl⟩ := List.mem_map.mp hold
                  exact hinv.came before (List.mem_append_left _ hbefore)
                · obtain rfl := List.mem_singleton.mp hnew
                  exact ⟨datagram, hstep, hdecode⟩
              accepted := by
                simp only [hinv.accepted, List.map_map]
                rfl
              answers := hinv.answers
              remembers := hremembers.take sender request
              settled := hinv.settled
              sent := hinv.sent }
  | offering request => simpa only [step, note, Tasks.step, Tasks.take, hreceiving] using hinv
  | dropping request => simpa only [step, note, Tasks.step, Tasks.take, hreceiving] using hinv

theorem offer (hinv : Invariant station steps watched) :
    Invariant station steps (watched.step .offer) := by
  cases hreceiving : watched.tasks.receiving with
  | waiting => simpa only [step, note, Tasks.step, Tasks.offer, hreceiving] using hinv
  | dropping request => simpa only [step, note, Tasks.step, Tasks.offer, hreceiving] using hinv
  | offering request =>
      obtain ⟨taken, hheld, rfl⟩ := hinv.held_of_request? (by rw [hreceiving]; rfl)
      by_cases hroom : watched.tasks.relay.requests.length < Relay.capacity
      · have hprospect := Tasks.prospect_offer hreceiving hroom
        have hcame := hinv.came
        have hremembers := hinv.remembers
        rw [hheld, Option.toList_some] at hcame hremembers
        simp only [Tasks.offer, hreceiving, if_pos hroom] at hprospect
        simp only [step, note, Tasks.step, Tasks.offer, hreceiving, hheld, if_pos hroom]
        exact
          { held := rfl
            came := by simpa using hcame
            accepted := by
              simp only [hinv.accepted, List.map_append, List.append_assoc]
              rfl
            answers := by
              rw [hprospect, List.map_append, Station.handleAll_append, hinv.answers,
                List.append_assoc]
              rfl
            remembers := by simpa using hremembers
            settled := hinv.settled
            sent := hinv.sent }
      · -- the request stays in hand, for the receiver has yet to forget its sender
        have hstep : watched.step .offer =
            { watched with
              tasks := { watched.tasks with receiving := .dropping taken.request } } := by
          simp only [step, note, Tasks.step, Tasks.offer, hreceiving, hheld, if_neg hroom]
        rw [hstep]
        exact
          { hinv with
            held := by rw [hheld]; rfl
            answers := hinv.answers }

theorem drop (hinv : Invariant station steps watched) :
    Invariant station steps (watched.step .drop) := by
  cases hreceiving : watched.tasks.receiving with
  | waiting => simpa only [step, note, Tasks.step, Tasks.drop, hreceiving] using hinv
  | offering request => simpa only [step, note, Tasks.step, Tasks.drop, hreceiving] using hinv
  | dropping request =>
      obtain ⟨taken, hheld, rfl⟩ := hinv.held_of_request? (by rw [hreceiving]; rfl)
      have hremembers := hinv.remembers
      rw [hheld, Option.toList_some] at hremembers
      simp only [step, note, Tasks.step, Tasks.drop, hreceiving]
      exact
        { held := rfl
          came := fun one hone => hinv.came one (List.mem_append_left _ (by simpa using hone))
          accepted := hinv.accepted
          answers := hinv.answers
          remembers := hremembers.forget
          settled := hinv.settled
          sent := hinv.sent }

theorem deliver (hinv : Invariant station steps watched) :
    Invariant station steps (watched.step .deliver) := by
  cases hsending : watched.tasks.sending with
  | none => simpa only [step, note, Tasks.step, Tasks.deliver, hsending] using hinv
  | some reply =>
      obtain ⟨taken, rest, hflight, htransaction⟩ := hinv.flight_of_sending hsending
      have hanswers := hinv.answers
      have hremembers := hinv.remembers
      have hcame := hinv.came
      rw [hflight, List.cons_append] at hremembers hcame
      rw [Tasks.prospect_of_sending hsending, Tasks.deliver, hsending] at hanswers
      simp only [step, note, Tasks.step, Tasks.deliver, hsending, hflight]
      exact
        { held := hinv.held
          came := fun one hone => hcame one (List.mem_cons_of_mem taken hone)
          accepted := by simpa [hflight] using hinv.accepted
          answers := by
            rw [hanswers, List.map_append, List.append_assoc]
            rfl
          remembers := by
            rw [← htransaction]
            exact hremembers.forget_first
          settled := by
            intro settled hsettled
            rcases List.mem_append.mp hsettled with hold | hnew
            · exact hinv.settled settled hold
            · obtain rfl := List.mem_singleton.mp hnew
              refine ⟨hcame taken List.mem_cons_self, fun hsole => ?_, fun sender hsender => ?_⟩
              · rw [← htransaction]
                exact hremembers.sole taken List.mem_cons_self hsole
              · obtain ⟨one, hone, hsame, rfl⟩ :=
                  hremembers.only reply.transaction sender hsender
                exact ⟨one.request, hcame one hone, hsame⟩
          sent := by
            rw [hinv.sent, List.filterMap_append]
            rfl }

theorem step (hinv : Invariant station steps watched) {one : TaskStep α} (hone : one ∈ steps) :
    Invariant station steps (watched.step one) := by
  cases one with
  | take sender datagram => exact hinv.take hone
  | offer => exact hinv.offer
  | drop => exact hinv.drop
  | fetch => exact hinv.onward (.fetch watched.tasks)
  | answer => exact hinv.onward (.answer watched.tasks)
  | reply => exact hinv.onward (.reply watched.tasks)
  | pick => exact hinv.onward (.pick watched.tasks)
  | deliver => exact hinv.deliver

theorem run (hinv : Invariant station steps watched) {some : List (TaskStep α)}
    (hsome : some ⊆ steps) : Invariant station steps (watched.run some) := by
  induction some generalizing watched with
  | nil => exact hinv
  | cons one some ih =>
      obtain ⟨hone, hrest⟩ := List.cons_subset.mp hsome
      exact ih (hinv.step hone) hrest

end Invariant

/-- When all is quiet no request is in flight and nobody is remembered. -/
theorem Invariant.of_quiet (hinv : Invariant station steps watched) (hquiet : watched.tasks.Quiet) :
    watched.flight = [] ∧ watched.tasks.relay.senders = .empty := by
  have hprospect : watched.tasks.prospect.1 = [] := by
    simp [Tasks.prospect, Tasks.answered, Tasks.unanswered, hquiet.requests, hquiet.processing,
      hquiet.replies, hquiet.sending, Processing.request?, Processing.reply?, Station.handleAll]
  have hflight : watched.flight = [] := by
    have hheaders := hinv.headers_flight
    rw [hprospect] at hheaders
    exact List.map_eq_nil_iff.mp hheaders
  refine ⟨hflight, Directory.eq_empty_of_get?_eq_none fun transaction => ?_⟩
  by_contra hsome
  obtain ⟨sender, hsender⟩ := Option.ne_none_iff_exists'.mp hsome
  obtain ⟨one, hone, -⟩ := hinv.remembers.only transaction sender hsender
  rw [hflight, hinv.held_of_waiting hquiet.receiving] at hone
  cases hone

end Watched

/-! ## Identifiers that are used once -/

/-- The transaction identifier of the request in a datagram that is taken in. -/
def TaskStep.transaction? : TaskStep α → Option Nat
  | take _ datagram =>
    (Mbap.decode (datagram.take Limits.networkFrame)).toOption.map Frame.transaction
  | _ => none

namespace Watched

/-- Every request had its identifier to itself, and it is one of the given ones. -/
structure Apart (used : List Nat) (watched : Watched α) : Prop where
  sole : ∀ taken ∈ watched.flight ++ watched.held.toList,
    taken.sole = true ∧ taken.transaction ∈ used
  settled : ∀ settled ∈ watched.settled, settled.taken.sole = true

namespace Apart

variable {used : List Nat} {watched : Watched α}

theorem more (hapart : Apart used watched) (others : List Nat) :
    Apart (used ++ others) watched where
  sole taken htaken := (hapart.sole taken htaken).imp_right (List.mem_append_left others)
  settled := hapart.settled

theorem idle (station : Station) : Apart [] (Watched.idle station : Watched α) := ⟨nofun, nofun⟩

/-- A request whose identifier was not used before has it to itself, and takes it from none. -/
theorem note_take (hapart : Apart used watched) (sender : α) (datagram : List UInt8)
    (hfresh : ∀ transaction ∈ (TaskStep.take sender datagram).transaction?, transaction ∉ used) :
    Apart (used ++ (TaskStep.take sender datagram).transaction?.toList)
      (watched.note (.take sender datagram)) := by
  simp only [Watched.note]
  split
  next request hreceiving hdecode =>
    have htransaction : (TaskStep.take sender datagram).transaction? =
        some request.transaction := by
      rw [TaskStep.transaction?, hdecode]
      rfl
    rw [htransaction] at hfresh ⊢
    have hother : ∀ taken ∈ watched.flight, taken.sole = true ∧
        taken.transaction ≠ request.transaction ∧ taken.transaction ∈ used := by
      intro taken htaken
      obtain ⟨hsole, hused⟩ := hapart.sole taken (List.mem_append_left _ htaken)
      exact ⟨hsole, fun hsame => hfresh _ rfl (hsame ▸ hused), hused⟩
    refine ⟨fun taken htaken => ?_, hapart.settled⟩
    rcases List.mem_append.mp htaken with hold | hnew
    · obtain ⟨before, hbefore, rfl⟩ := List.mem_map.mp hold
      obtain ⟨hsole, hne, hused⟩ := hother before hbefore
      exact ⟨Taken.sole_beside.mpr ⟨hsole, hne⟩, List.mem_append_left _ hused⟩
    · obtain rfl := List.mem_singleton.mp hnew
      refine ⟨List.all_eq_true.mpr fun taken htaken => ?_, List.mem_append_right _ ?_⟩
      · simpa using (hother taken htaken).2.1
      · exact List.mem_singleton_self _
  next => exact hapart.more _

theorem note (hapart : Apart used watched) (one : TaskStep α)
    (hfresh : ∀ transaction ∈ one.transaction?, transaction ∉ used) :
    Apart (used ++ one.transaction?.toList) (watched.note one) := by
  cases one with
  | take sender datagram => exact hapart.note_take sender datagram hfresh
  | offer =>
      refine more ?_ _
      simp only [Watched.note]
      split
      next request taken hreceiving hheld =>
        split
        · have hsole := hapart.sole
          rw [hheld] at hsole
          exact ⟨by simpa using hsole, hapart.settled⟩
        · exact hapart
      next => exact hapart
  | drop =>
      refine more ?_ _
      simp only [Watched.note]
      split
      next =>
        refine ⟨fun taken htaken => ?_, hapart.settled⟩
        exact hapart.sole taken (List.mem_append_left _ (by simpa using htaken))
      next => exact hapart
  | deliver =>
      refine more ?_ _
      simp only [Watched.note]
      split
      next reply taken rest hsending hflight =>
        have hsole := hapart.sole
        rw [hflight, List.cons_append] at hsole
        refine ⟨fun one hone => hsole one (List.mem_cons_of_mem taken hone), ?_⟩
        intro settled hsettled
        rcases List.mem_append.mp hsettled with hold | hnew
        · exact hapart.settled settled hold
        · obtain rfl := List.mem_singleton.mp hnew
          exact (hsole taken List.mem_cons_self).1
      next => exact hapart
  | fetch => exact hapart.more _
  | answer => exact hapart.more _
  | reply => exact hapart.more _
  | pick => exact hapart.more _

theorem step (hapart : Apart used watched) (one : TaskStep α)
    (hfresh : ∀ transaction ∈ one.transaction?, transaction ∉ used) :
    Apart (used ++ one.transaction?.toList) (watched.step one) :=
  ⟨(hapart.note one hfresh).sole, (hapart.note one hfresh).settled⟩

theorem run (hapart : Apart used watched) {steps : List (TaskStep α)}
    (honce : (used ++ steps.filterMap TaskStep.transaction?).Nodup) :
    Apart (used ++ steps.filterMap TaskStep.transaction?) (watched.run steps) := by
  induction steps generalizing watched used with
  | nil => exact hapart.more []
  | cons one steps ih =>
      have hsplit : used ++ (one :: steps).filterMap TaskStep.transaction? =
          (used ++ one.transaction?.toList) ++ steps.filterMap TaskStep.transaction? := by
        cases htransaction : one.transaction? <;> simp [htransaction]
      rw [hsplit] at honce ⊢
      refine ih (hapart.step one fun transaction htransaction hused => ?_) honce
      have hfresh := (List.nodup_append.mp (List.nodup_append.mp honce).1).2.2
      exact hfresh transaction hused transaction (by simpa using htransaction) rfl

end Apart

end Watched

/-! ## Every request comes to its end -/

/-- Whether a step is one of those that bring requests and answers to their end. -/
def TaskStep.serves : TaskStep α → Bool
  | take _ _ => false
  | _ => true

/-- How many steps the request in the receiver's hand needs, at most. -/
def Receiving.work : Receiving → Nat
  | waiting => 0
  | offering _ => 6
  | dropping _ => 1

def Processing.work : Processing → Nat
  | waiting => 0
  | answering _ => 4
  | replying _ => 3

namespace Tasks

/-- How many steps it takes, at most, until all is quiet if no other datagram is taken in. -/
def work (tasks : Tasks α) : Nat :=
  tasks.receiving.work + 5 * tasks.relay.requests.length + tasks.processing.work +
    2 * tasks.relay.replies.length + tasks.sending.toList.length

theorem quiet_of_work {tasks : Tasks α} (hwork : tasks.work = 0) : tasks.Quiet := by
  unfold work at hwork
  refine ⟨?_, List.length_eq_zero_iff.mp (by omega), ?_, List.length_eq_zero_iff.mp (by omega), ?_⟩
  · cases hreceiving : tasks.receiving with
    | waiting => rfl
    | _ => rw [hreceiving, Receiving.work] at hwork; omega
  · cases hprocessing : tasks.processing with
    | waiting => rfl
    | _ => rw [hprocessing, Processing.work] at hwork; omega
  · cases hsending : tasks.sending with
    | none => rfl
    | some reply => simp [hsending] at hwork

/-- A step of a task that does not have to wait leaves less to do. -/
theorem work_step (tasks : Tasks α) {one : TaskStep α} (hserves : one.serves = true) :
    tasks.step one = tasks ∨ (tasks.step one).work < tasks.work := by
  cases one with
  | take sender datagram => cases hserves
  | offer =>
      simp only [step, offer]
      split
      next request hreceiving =>
        split
        · simp [work, hreceiving, Receiving.work]
          omega
        · simp [work, hreceiving, Receiving.work]
      next => exact Or.inl rfl
  | drop =>
      simp only [step, drop]
      split
      next request hreceiving => simp [work, hreceiving, Receiving.work]
      next => exact Or.inl rfl
  | fetch =>
      simp only [step, fetch]
      split
      next request rest hprocessing hrequests =>
        simp [work, hprocessing, hrequests, Processing.work]
        omega
      next => exact Or.inl rfl
  | answer =>
      simp only [step, answer]
      split
      next request hprocessing =>
        split <;> simp [work, hprocessing, Processing.work]
      next => exact Or.inl rfl
  | reply =>
      simp only [step, reply]
      split
      next answered hprocessing =>
        split
        · simp [work, hprocessing, Processing.work]
          omega
        · exact Or.inl rfl
      next => exact Or.inl rfl
  | pick =>
      simp only [step, pick]
      split
      next answered rest hsending hreplies =>
        simp [work, hsending, hreplies]
        omega
      next => exact Or.inl rfl
  | deliver =>
      simp only [step, deliver]
      split
      next answered hsending => simp [work, hsending]
      next => exact Or.inl rfl

/-- Only where all is quiet every task waits. -/
theorem quiet_of_waiting {tasks : Tasks α}
    (hwaits : ∀ one : TaskStep α, one.serves = true → tasks.step one = tasks) : tasks.Quiet := by
  -- the sender first: it never waits for room, and the processor waits for nothing but the sender
  have hreceiving : tasks.receiving = .waiting := by
    cases hreceiving : tasks.receiving with
    | waiting => rfl
    | offering request =>
        have hsame := congrArg Tasks.receiving (hwaits .offer rfl)
        simp only [step, offer, hreceiving] at hsame
        split at hsame <;> cases hsame
    | dropping request =>
        have hsame := congrArg Tasks.receiving (hwaits .drop rfl)
        simp only [step, drop, hreceiving] at hsame
        cases hsame
  have hsending : tasks.sending = none := by
    cases hsending : tasks.sending with
    | none => rfl
    | some reply =>
        have hsame := congrArg Tasks.sending (hwaits .deliver rfl)
        simp only [step, deliver, hsending] at hsame
        cases hsame
  have hreplies : tasks.relay.replies = [] := by
    cases hreplies : tasks.relay.replies with
    | nil => rfl
    | cons reply rest =>
        have hsame := congrArg Tasks.sending (hwaits .pick rfl)
        simp only [step, pick, hsending, hreplies] at hsame
        cases hsame
  have hprocessing : tasks.processing = .waiting := by
    cases hprocessing : tasks.processing with
    | waiting => rfl
    | answering request =>
        have hsame := congrArg Tasks.processing (hwaits .answer rfl)
        obtain ⟨reply, after, hhandle⟩ := tasks.relay.station.handle_own request
        simp only [step, answer, hprocessing, hhandle] at hsame
        cases hsame
    | replying reply =>
        have hroom : tasks.relay.replies.length < Relay.capacity := by rw [hreplies]; decide
        have hsame := congrArg Tasks.processing (hwaits .reply rfl)
        simp only [step, Tasks.reply, hprocessing, if_pos hroom] at hsame
        cases hsame
  have hrequests : tasks.relay.requests = [] := by
    cases hrequests : tasks.relay.requests with
    | nil => rfl
    | cons request rest =>
        have hsame := congrArg Tasks.processing (hwaits .fetch rfl)
        simp only [step, fetch, hprocessing, hrequests] at hsame
        cases hsame
  exact ⟨hreceiving, hrequests, hprocessing, hreplies, hsending⟩

theorem work_run_le (tasks : Tasks α) {steps : List (TaskStep α)}
    (hserve : ∀ one ∈ steps, one.serves = true) : (tasks.run steps).work ≤ tasks.work := by
  induction steps generalizing tasks with
  | nil => exact Nat.le_refl _
  | cons one steps ih =>
      obtain ⟨hone, hsteps⟩ := List.forall_mem_cons.mp hserve
      refine (ih (tasks.step one) hsteps).trans ?_
      rcases tasks.work_step hone with hwaits | hless
      · rw [hwaits]
      · exact hless.le

theorem work_run (tasks : Tasks α) {steps : List (TaskStep α)}
    (hserve : ∀ one ∈ steps, one.serves = true) :
    (∀ one ∈ steps, tasks.step one = tasks) ∨ (tasks.run steps).work < tasks.work := by
  induction steps with
  | nil => exact Or.inl nofun
  | cons one steps ih =>
      obtain ⟨hone, hsteps⟩ := List.forall_mem_cons.mp hserve
      rcases tasks.work_step hone with hwaits | hless
      · rw [run, List.foldl_cons, hwaits]
        exact (ih hsteps).imp_left fun hrest => List.forall_mem_cons.mpr ⟨hwaits, hrest⟩
      · exact Or.inr (((tasks.step one).work_run_le hsteps).trans_lt hless)

/-- Steps that give every task its turn at everything it does, while no datagram is taken in. -/
def Round (steps : List (TaskStep α)) : Prop := ∀ one, one ∈ steps ↔ one.serves = true

/-- The turns may come in the order in which a request passes the tasks. -/
example : Round ([.offer, .drop, .fetch, .answer, .reply, .pick, .deliver] :
    List (TaskStep α)) := by
  intro one
  cases one <;> simp [TaskStep.serves]

theorem work_round {tasks : Tasks α} {round : List (TaskStep α)} (hround : Round round)
    (hwork : 0 < tasks.work) : (tasks.run round).work < tasks.work := by
  rcases tasks.work_run fun one hone => (hround one).mp hone with hwaits | hless
  · have hquiet := quiet_of_waiting fun one hone => hwaits one ((hround one).mpr hone)
    simp [work, hquiet.receiving, hquiet.requests, hquiet.processing, hquiet.replies,
      hquiet.sending, Receiving.work, Processing.work] at hwork
  · exact hless

/-- After as many rounds as there is work all is quiet. -/
theorem quiet_of_rounds {tasks : Tasks α} {rounds : List (List (TaskStep α))}
    (henough : tasks.work ≤ rounds.length) (hrounds : ∀ round ∈ rounds, Round round) :
    (tasks.run rounds.flatten).Quiet := by
  induction rounds generalizing tasks with
  | nil => exact quiet_of_work (Nat.le_zero.mp henough)
  | cons round rounds ih =>
      obtain ⟨hround, hrest⟩ := List.forall_mem_cons.mp hrounds
      rw [List.flatten_cons, run_append]
      refine ih ?_ hrest
      rw [List.length_cons] at henough
      rcases Nat.eq_zero_or_pos tasks.work with hnone | hsome
      · have := tasks.work_run_le fun one hone => (hround one).mp hone
        omega
      · have := work_round hround hsome
        omega

/-- Queued requests are answered in the order in which they were queued, each once, whatever
is taken in and in whatever order the tasks take their steps.  An answer goes to the sender of
its request if the request had its transaction identifier to itself, and otherwise at most to
another one who used the identifier.  Nothing else is sent.  Once no other datagram comes,
tasks that get their turns come to the end of all requests, and then nobody is remembered. -/
theorem answers_routed (station : Station) (steps : List (TaskStep α)) :
    let tasks := (idle station).run steps
    let watched := (Watched.idle station).run steps
    watched.tasks = tasks ∧
      (∀ settled ∈ watched.settled, Came steps settled.taken.sender settled.taken.request) ∧
      (∀ taken ∈ watched.flight, Came steps taken.sender taken.request) ∧
      watched.accepted = watched.settled.map (fun settled => settled.taken.origin) ++
        watched.flight.map Taken.origin ∧
      watched.settled.map Settled.answer <+:
        (station.handleAll true (watched.accepted.map Prod.snd)).1 ∧
      (∀ settled ∈ watched.settled, settled.taken.sole = true →
        settled.recipient = some settled.taken.sender) ∧
      ((steps.filterMap TaskStep.transaction?).Nodup →
        ∀ settled ∈ watched.settled, settled.taken.sole = true) ∧
      (∀ settled ∈ watched.settled, ∀ sender ∈ settled.recipient,
        ∃ request, Came steps sender request ∧
          request.transaction = settled.answer.transaction) ∧
      tasks.relay.sent = watched.settled.filterMap Settled.sent? ∧
      (tasks.Quiet → watched.flight = [] ∧ tasks.relay.senders = .empty) ∧
      ∀ rounds : List (List (TaskStep α)), tasks.work ≤ rounds.length →
        (∀ round ∈ rounds, Round round) → (tasks.run rounds.flatten).Quiet := by
  intro tasks watched
  have htasks : watched.tasks = tasks := (Watched.idle station).tasks_run steps
  have hinv : watched.Invariant station steps :=
    (Watched.idle_invariant station steps).run (List.Subset.refl steps)
  refine ⟨htasks, fun settled hsettled => (hinv.settled settled hsettled).1,
    fun taken htaken => hinv.came taken (List.mem_append_left _ htaken), hinv.accepted, ?_,
    fun settled hsettled => (hinv.settled settled hsettled).2.1,
    fun honce => ((Watched.Apart.idle station).run honce).settled,
    fun settled hsettled => (hinv.settled settled hsettled).2.2,
    htasks ▸ hinv.sent, fun hquiet => ?_, fun rounds => quiet_of_rounds⟩
  · rw [hinv.answers]
    exact List.prefix_append _ _
  · rw [← htasks] at hquiet ⊢
    exact hinv.of_quiet hquiet

/-- Two clients ask under one transaction identifier, for one register and for two.  The second
one gets the answer to the first one's request, the first one gets nothing and the other answer
is dropped. -/
theorem shared_transaction_misroutes :
    let station := Station.serving (.ofImages [.cleared 1 2])
    let steps : List (TaskStep Nat) :=
      [.take 1 [0, 7, 0, 0, 0, 6, 1, 3, 0, 0, 0, 1], .offer,
        .take 2 [0, 7, 0, 0, 0, 6, 1, 3, 0, 0, 0, 2], .offer,
        .fetch, .answer, .reply, .pick, .deliver, .fetch, .answer, .reply, .pick, .deliver]
    let watched := (Watched.idle station).run steps
    let tasks := (idle station).run steps
    watched.accepted.map Prod.fst = [1, 2] ∧ tasks.work = 0 ∧
      tasks.relay.sent = [(2, [0, 7, 0, 0, 0, 5, 1, 3, 2, 0, 0])] := by
  decide +kernel

end Tasks

end Modbus
