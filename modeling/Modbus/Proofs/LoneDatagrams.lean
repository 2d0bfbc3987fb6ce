import Mathlib.Tactic
import Modbus.Proofs.DatagramRouting
import Modbus.Proofs.FrameForms

/-!
# One datagram, one frame

A datagram that meets no other one passes through the hands of the tasks one after
another.  Where it is on its way does not depend on the order in which the tasks get
their turns, so neither does what is sent in the end.

The buffer for a datagram is as long as the longest frame.  What is behind such a frame
in the datagram is cut off before anybody looks at it, while behind a shorter frame it
makes the datagram no frame at all.
-/

namespace Modbus

/-! ## What is left of a datagram in the buffer -/

namespace Mbap

/-- A datagram begins with a longest frame and goes on behind it. -/
def Overfull (datagram : List UInt8) (frame : Frame) : Prop :=
  frame.header.protocolId = 0 ∧ frame.pdu.length = Limits.pdu ∧
    ∃ surplus, surplus ≠ [] ∧ datagram = encode frame ++ surplus

theorem length_encode_longest {frame : Frame} (hlongest : frame.pdu.length = Limits.pdu) :
    (encode frame).length = Limits.networkFrame := by
  rw [length_encode, hlongest]
  rfl

/-- Such a datagram is no frame at all. -/
theorem decode_overfull {datagram : List UInt8} {frame : Frame} (hover : Overfull datagram frame)
    (other : Frame) : decode datagram ≠ .ok other := by
  obtain ⟨-, hlongest, surplus, hsome, rfl⟩ := hover
  intro hdecode
  rw [decode_eq_ok_iff_encode] at hdecode
  have hlength := congrArg List.length hdecode.2
  have hbound : other.pdu.length ≤ Limits.pdu := hdecode.1.2.2
  have hmore := List.length_pos_of_ne_nil hsome
  rw [List.length_append, length_encode_longest hlongest, length_encode] at hlength
  simp only [Limits.pdu, Limits.networkFrame] at hbound hlength
  omega

/-- What fits the buffer is read as it is, and of what does not a longest frame. -/
theorem decode_take_eq_ok_iff (datagram : List UInt8) (frame : Frame) :
    decode (datagram.take Limits.networkFrame) = .ok frame ↔
      decode datagram = .ok frame ∨ Overfull datagram frame := by
  by_cases hfits : datagram.length ≤ Limits.networkFrame
  · rw [List.take_of_length_le hfits]
    apply (or_iff_left_of_imp _).symm
    intro hover
    obtain ⟨-, hlongest, surplus, hsome, rfl⟩ := hover
    have hmore := List.length_pos_of_ne_nil hsome
    rw [List.length_append, length_encode_longest hlongest] at hfits
    omega
  · have htaken : (datagram.take Limits.networkFrame).length = Limits.networkFrame := by
      rw [List.length_take]
      omega
    have hnever : ¬decode datagram = .ok frame := by
      intro hdecode
      rw [decode_eq_ok_iff_encode] at hdecode
      have hbound : frame.pdu.length ≤ Limits.pdu := hdecode.1.2.2
      rw [← hdecode.2, length_encode] at hfits
      simp only [Limits.pdu, Limits.networkFrame] at hbound hfits
      omega
    rw [or_iff_right hnever, decode_eq_ok_iff_encode]
    constructor
    · intro htake
      obtain ⟨⟨hprotocol, -, -⟩, hencode⟩ := htake
      refine ⟨hprotocol, ?_, datagram.drop Limits.networkFrame, ?_, ?_⟩
      · rw [← hencode, length_encode] at htaken
        simp only [Limits.networkFrame, Limits.pdu] at htaken ⊢
        omega
      · rw [ne_eq, List.drop_eq_nil_iff]
        exact hfits
      · rw [hencode, List.take_append_drop]
    · intro hover
      obtain ⟨hprotocol, hlongest, surplus, -, rfl⟩ := hover
      rw [← length_encode_longest hlongest, List.take_left]
      refine ⟨⟨hprotocol, ?_, hlongest.le⟩, rfl⟩
      show 1 ≤ frame.pdu.length
      rw [hlongest]
      decide

end Mbap

/-! ## The way of a request through the tasks -/

/-- Where a request, and then its answer, is on its way. -/
inductive Leg where
  | offered
  | queued
  | fetched
  | answered
  | replied
  | picked
  | delivered
  deriving DecidableEq, Repr

/-- A request that is brought to its end by tasks that have nothing else to do. -/
structure Passage (α : Type) where
  tasks : Tasks α
  sender : α
  request : Frame
  reply : Frame
  served : Station
  quiet : tasks.Quiet
  handled : tasks.relay.station.handle true request = (some reply, served)

namespace Passage

variable {α : Type}

def next : TaskStep α → Leg → Leg
  | .offer, .offered => .queued
  | .fetch, .queued => .fetched
  | .answer, .fetched => .answered
  | .reply, .answered => .replied
  | .pick, .replied => .picked
  | .deliver, .picked => .delivered
  | _, leg => leg

/-- What the relay remembers while the request is on its way. -/
def remembering (passage : Passage α) : Relay α :=
  { passage.tasks.relay with
    senders := passage.tasks.relay.senders.insert passage.request.transaction passage.sender }

/-- The relay once the request has been handled. -/
def serving (passage : Passage α) : Relay α :=
  { passage.remembering with station := passage.served }

/-- The tasks when the answer has been sent. -/
def completed (passage : Passage α) : Tasks α :=
  { passage.tasks with
    relay := { passage.tasks.relay with
      station := passage.served
      senders := passage.tasks.relay.senders.erase passage.request.transaction
      sent := passage.tasks.relay.sent ++ [(passage.sender, Mbap.encode passage.reply)] } }

def tasksAt (passage : Passage α) : Leg → Tasks α
  | .offered => ⟨passage.remembering, .offering passage.request, .waiting, none⟩
  | .queued =>
    ⟨{ passage.remembering with requests := [passage.request] }, .waiting, .waiting, none⟩
  | .fetched => ⟨passage.remembering, .waiting, .answering passage.request, none⟩
  | .answered => ⟨passage.serving, .waiting, .replying passage.reply, none⟩
  | .replied => ⟨{ passage.serving with replies := [passage.reply] }, .waiting, .waiting, none⟩
  | .picked => ⟨passage.serving, .waiting, .waiting, some passage.reply⟩
  | .delivered => passage.completed

theorem transaction_reply (passage : Passage α) :
    passage.reply.transaction = passage.request.transaction := by
  unfold Frame.transaction
  rw [Station.header_of_handle passage.handled]

/-- The answer goes to whoever sent the request, since nothing was taken in meanwhile. -/
theorem deliver_picked (passage : Passage α) :
    (passage.tasksAt .picked).deliver = passage.completed := by
  have hremembered : passage.serving.senders =
      passage.tasks.relay.senders.insert passage.request.transaction passage.sender := rfl
  have hsender : passage.serving.senders.get? passage.reply.transaction =
      some passage.sender := by
    rw [hremembered, Directory.get?_insert, passage.transaction_reply, if_pos rfl]
  have hforgotten : passage.serving.senders.erase passage.reply.transaction =
      passage.tasks.relay.senders.erase passage.request.transaction := by
    rw [hremembered, passage.transaction_reply, Directory.erase_insert]
  simp only [tasksAt, Tasks.deliver, hsender, hforgotten, completed, passage.quiet.receiving,
    passage.quiet.processing, passage.quiet.sending]
  rfl

/-- A step of a task brings the request onward if it is where the task looks for it. -/
theorem step_tasksAt (passage : Passage α) {one : TaskStep α} (hserves : one.serves = true)
    (leg : Leg) :
    (passage.tasksAt leg).step one = passage.tasksAt (next one leg) := by
  have hquiet := passage.quiet
  have hrequests : passage.remembering.requests = [] := hquiet.requests
  have hreplies : passage.remembering.replies = [] := hquiet.replies
  have hhandle : passage.remembering.station.handle true passage.request =
      (some passage.reply, passage.served) := passage.handled
  have hfetched : { passage.remembering with requests := [] } = passage.remembering := by
    rw [← hrequests]
  have hroom : 0 < Relay.capacity := by decide
  cases one with
  | take sender datagram => cases hserves
  | offer =>
      cases leg <;>
        simp [Tasks.step, Tasks.offer, tasksAt, next, completed, hrequests, hroom, hquiet.receiving]
  | drop =>
      cases leg <;>
        simp [Tasks.step, Tasks.drop, tasksAt, next, completed, hquiet.receiving]
  | fetch =>
      cases leg <;>
        simp [Tasks.step, Tasks.fetch, tasksAt, next, completed, serving, hfetched, hrequests,
          hquiet.requests, hquiet.processing]
  | answer =>
      cases leg <;>
        simp [Tasks.step, Tasks.answer, tasksAt, next, completed, serving, hhandle,
          hquiet.processing]
  | reply =>
      cases leg <;>
        simp [Tasks.step, Tasks.reply, tasksAt, next, completed, serving, hreplies, hroom,
          hquiet.processing]
  | pick =>
      cases leg <;>
        simp [Tasks.step, Tasks.pick, tasksAt, next, completed, serving, hreplies,
          hquiet.replies, hquiet.sending]
  | deliver =>
      cases leg with
      | picked => exact passage.deliver_picked
      | _ => simp [Tasks.step, Tasks.deliver, tasksAt, next, completed, hquiet.sending]

theorem run_tasksAt (passage : Passage α) {steps : List (TaskStep α)}
    (hserve : ∀ one ∈ steps, one.serves = true) (leg : Leg) :
    ∃ reached, (passage.tasksAt leg).run steps = passage.tasksAt reached := by
  induction steps generalizing leg with
  | nil => exact ⟨leg, rfl⟩
  | cons one steps ih =>
      rw [List.forall_mem_cons] at hserve
      rw [Tasks.run, List.foldl_cons, passage.step_tasksAt hserve.1]
      exact ih hserve.2 _

/-- The tasks have nothing left to do only when the answer has been sent. -/
theorem delivered_of_quiet (passage : Passage α) {leg : Leg}
    (hquiet : (passage.tasksAt leg).Quiet) : leg = .delivered := by
  cases leg with
  | delivered => rfl
  | offered => cases hquiet.receiving
  | queued => cases hquiet.requests
  | fetched => cases hquiet.processing
  | answered => cases hquiet.processing
  | replied => cases hquiet.replies
  | picked => cases hquiet.sending

theorem sent_tasksAt (passage : Passage α) (leg : Leg) :
    (passage.tasksAt leg).relay.sent = passage.tasks.relay.sent ∨
      (passage.tasksAt leg).relay.sent = passage.completed.relay.sent := by
  cases leg with
  | delivered => exact Or.inr rfl
  | _ => exact Or.inl rfl

end Passage

namespace Tasks

variable {α : Type} {tasks : Tasks α} {datagram : List UInt8}

theorem take_frame (passage : Passage α)
    (hdecode : Mbap.decode (datagram.take Limits.networkFrame) = .ok passage.request) :
    passage.tasks.take passage.sender datagram = passage.tasksAt .offered := by
  unfold take
  rw [passage.quiet.receiving, hdecode]
  simp only [Passage.tasksAt, passage.quiet.processing, passage.quiet.sending]
  rfl

theorem take_no_frame (tasks : Tasks α) (sender : α) {fault : ProtocolFault}
    (hdecode : Mbap.decode (datagram.take Limits.networkFrame) = .error fault) :
    tasks.take sender datagram = tasks := by
  unfold take
  rw [hdecode]
  split
  · contradiction
  · rfl

/-- Tasks that have nothing to do stay as they are. -/
theorem run_quiet (hquiet : tasks.Quiet) {steps : List (TaskStep α)}
    (hserve : ∀ one ∈ steps, one.serves = true) : tasks.run steps = tasks := by
  have hidle : tasks.work = 0 := by
    simp [work, hquiet.receiving, hquiet.requests, hquiet.processing, hquiet.replies,
      hquiet.sending, Receiving.work, Processing.work]
  induction steps with
  | nil => rfl
  | cons one steps ih =>
      rw [List.forall_mem_cons] at hserve
      rcases tasks.work_step hserve.1 with hwaits | hless
      · rw [run, List.foldl_cons, hwaits]
        exact ih hserve.2
      · omega

theorem work_take_le (hquiet : tasks.Quiet) (sender : α) (datagram : List UInt8) :
    (tasks.take sender datagram).work ≤ 6 := by
  unfold take
  rw [hquiet.receiving]
  cases Mbap.decode (datagram.take Limits.networkFrame) with
  | ok frame =>
      simp [work, hquiet.requests, hquiet.processing, hquiet.replies, hquiet.sending,
        Receiving.work, Processing.work]
  | error fault =>
      simp [work, hquiet.receiving, hquiet.requests, hquiet.processing, hquiet.replies,
        hquiet.sending, Receiving.work, Processing.work]

/-- Tasks that have nothing else to do take a datagram in.  If the datagram is a frame, this is
handled once, the answer is sent back to the sender, and nothing else is sent; the same goes for
a longest frame with something behind it.  Any other datagram changes nothing at all.  In
whatever order the tasks get their turns, they are done after six rounds. -/
theorem datagram_answered (hquiet : tasks.Quiet) (sender : α) (datagram : List UInt8)
    {steps : List (TaskStep α)} (hserve : ∀ one ∈ steps, one.serves = true) :
    let after := (tasks.take sender datagram).run steps
    (∀ frame, Mbap.decode datagram = .ok frame ∨ Mbap.Overfull datagram frame →
      ∃ reply station, tasks.relay.station.handle true frame = (some reply, station) ∧
        (after.relay.sent = tasks.relay.sent ∨
          after.relay.sent = tasks.relay.sent ++ [(sender, Mbap.encode reply)]) ∧
        (after.Quiet → after.relay.station = station ∧
          after.relay.sent = tasks.relay.sent ++ [(sender, Mbap.encode reply)])) ∧
      ((∀ frame, Mbap.decode datagram ≠ .ok frame ∧ ¬Mbap.Overfull datagram frame) →
        after = tasks) ∧
      ∀ rounds : List (List (TaskStep α)), 6 ≤ rounds.length →
        (∀ round ∈ rounds, Round round) →
          ((tasks.take sender datagram).run rounds.flatten).Quiet := by
  intro after
  refine ⟨?_, ?_, ?_⟩
  · intro frame hframe
    rw [← Mbap.decode_take_eq_ok_iff] at hframe
    obtain ⟨reply, station, hhandle⟩ := tasks.relay.station.handle_own frame
    let passage : Passage α := ⟨tasks, sender, frame, reply, station, hquiet, hhandle⟩
    obtain ⟨leg, hleg⟩ := passage.run_tasksAt hserve .offered
    have hafter : after = passage.tasksAt leg := by
      rw [← hleg, ← take_frame passage hframe]
    refine ⟨reply, station, hhandle, ?_, ?_⟩
    · rw [hafter]
      exact passage.sent_tasksAt leg
    · intro hdone
      rw [hafter] at hdone ⊢
      rw [passage.delivered_of_quiet hdone]
      exact ⟨rfl, rfl⟩
  · intro hnone
    cases hdecode : Mbap.decode (datagram.take Limits.networkFrame) with
    | ok frame =>
        rcases (Mbap.decode_take_eq_ok_iff datagram frame).mp hdecode with hframe | hover
        · exact absurd hframe (hnone frame).1
        · exact absurd hover (hnone frame).2
    | error fault =>
        have hafter : after = tasks.run steps := by
          have htake := tasks.take_no_frame sender hdecode
          rw [← htake]
        rw [hafter]
        exact run_quiet hquiet hserve
  · intro rounds henough hrounds
    exact quiet_of_rounds ((work_take_le hquiet sender datagram).trans henough) hrounds

/-- A datagram with a longest frame and nothing behind it. -/
theorem datagram_answered_longest :
    let tasks : Tasks Nat := idle (.serving (.ofImages [.cleared 1 1]))
    let datagram : List UInt8 := [0, 9, 0, 0, 0, 254, 1, 65] ++ List.replicate 252 0
    let steps : List (TaskStep Nat) :=
      [.deliver, .offer, .drop, .fetch, .answer, .reply, .pick, .deliver]
    tasks.Quiet ∧ (∀ one ∈ steps, one.serves = true) ∧
      Mbap.decode datagram = .ok ⟨⟨9, 0, 1⟩, 65 :: List.replicate 252 0⟩ ∧
      ((tasks.take 4 datagram).run steps).relay.sent = [(4, [0, 9, 0, 0, 0, 3, 1, 193, 1])] := by
  intro tasks datagram steps
  have hquiet : tasks.Quiet := ⟨rfl, rfl, rfl, rfl, rfl⟩
  have hserve : ∀ one ∈ steps, one.serves = true := by decide
  have hdecode : Mbap.decode datagram = .ok ⟨⟨9, 0, 1⟩, 65 :: List.replicate 252 0⟩ := by
    decide +kernel
  have hdone : ((tasks.take 4 datagram).run steps).Quiet := by
    constructor <;> decide +kernel
  have hreply : (tasks.relay.station.handle true
      ⟨⟨9, 0, 1⟩, 65 :: List.replicate 252 0⟩).1 = some ⟨⟨9, 0, 1⟩, [193, 1]⟩ := by
    decide +kernel
  obtain ⟨hanswered, -, -⟩ := datagram_answered hquiet 4 datagram hserve
  obtain ⟨reply, station, hhandle, -, hsent⟩ := hanswered _ (Or.inl hdecode)
  rw [hhandle] at hreply
  obtain rfl := Option.some.inj hreply
  exact ⟨hquiet, hserve, hdecode, (hsent hdone).2⟩

/-- Behind a longest frame there is one octet more.  The datagram is no frame, and it is answered
and counted all the same. -/
theorem surplus_answered :
    let tasks : Tasks Nat := idle (.serving (.ofImages [.cleared 1 1]))
    let datagram : List UInt8 := [0, 9, 0, 0, 0, 254, 1, 65] ++ List.replicate 253 0
    let after := (tasks.take 4 datagram).run [.offer, .fetch, .answer, .reply, .pick, .deliver]
    Mbap.decode datagram = .error (.frameLength 253 254) ∧
      after.relay.sent = [(4, [0, 9, 0, 0, 0, 3, 1, 193, 1])] ∧
      after.relay.station.stats = ⟨0, 1, 1⟩ := by
  decide +kernel

end Tasks

end Modbus
