import Modbus.Slave.Relay

/-!
# Tasks side by side

`Relay.receive`, `Relay.process` and `Relay.send` bring a frame through one task without
a break.  Here each task stops wherever another one can come in between: the queues and
the remembered senders are shared, and a step touches one of them, once.  A task that
cannot move waits.
-/

namespace Modbus

/-- The number under which the sender of a frame is remembered. -/
def Frame.transaction (frame : Frame) : Nat := frame.header.transactionId.toNat

/-- What the receiver is about to do. -/
inductive Receiving where
  | waiting
  /-- Put a request into the queue. -/
  | offering (request : Frame)
  /-- Forget the sender of a request for which the queue had no room. -/
  | dropping (request : Frame)
  deriving DecidableEq, Repr

/-- What the processor is about to do. -/
inductive Processing where
  | waiting
  /-- Answer a request that it took from the queue. -/
  | answering (request : Frame)
  /-- Put an answer into the other queue. -/
  | replying (reply : Frame)
  deriving DecidableEq, Repr

/-- The queues and what the tasks hold outside of them. -/
structure Tasks (α : Type) where
  relay : Relay α
  receiving : Receiving
  processing : Processing
  /-- The answer that the sender took from the queue. -/
  sending : Option Frame

/-- A step of one of the tasks. -/
inductive TaskStep (α : Type) where
  | take (sender : α) (datagram : List UInt8)
  | offer
  | drop
  | fetch
  | answer
  | reply
  | pick
  | deliver
  deriving DecidableEq, Repr

namespace Tasks

variable {α : Type}

/-- The tasks with nothing in their hands. -/
def resting (relay : Relay α) : Tasks α := ⟨relay, .waiting, .waiting, none⟩

/-- The tasks before the first datagram. -/
def idle (station : Station) : Tasks α := resting (.idle station)

/-- Takes a datagram in and remembers who sent it. -/
def take (sender : α) (datagram : List UInt8) (tasks : Tasks α) : Tasks α :=
  match tasks.receiving, Mbap.decode (datagram.take Limits.networkFrame) with
  | .waiting, .ok request =>
    { tasks with
      relay := { tasks.relay with
        senders := tasks.relay.senders.insert request.transaction sender }
      receiving := .offering request }
  | _, _ => tasks

/-- Puts a request into the queue if there is room. -/
def offer (tasks : Tasks α) : Tasks α :=
  match tasks.receiving with
  | .offering request =>
    if tasks.relay.requests.length < Relay.capacity then
      { tasks with
        relay := { tasks.relay with requests := tasks.relay.requests ++ [request] }
        receiving := .waiting }
    else
      { tasks with receiving := .dropping request }
  | _ => tasks

/-- Forgets the sender of a request that was not queued. -/
def drop (tasks : Tasks α) : Tasks α :=
  match tasks.receiving with
  | .dropping request =>
    { tasks with
      relay := { tasks.relay with senders := tasks.relay.senders.erase request.transaction }
      receiving := .waiting }
  | _ => tasks

/-- Takes the first request from the queue. -/
def fetch (tasks : Tasks α) : Tasks α :=
  match tasks.processing, tasks.relay.requests with
  | .waiting, request :: rest =>
    { tasks with
      relay := { tasks.relay with requests := rest }
      processing := .answering request }
  | _, _ => tasks

/-- Answers the request in hand, or forgets its sender if there is no answer. -/
def answer (tasks : Tasks α) : Tasks α :=
  match tasks.processing with
  | .answering request =>
    match tasks.relay.station.handle true request with
    | (some reply, station) =>
      { tasks with
        relay := { tasks.relay with station := station }
        processing := .replying reply }
    | (none, station) =>
      { tasks with
        relay := { tasks.relay with
          station := station
          senders := tasks.relay.senders.erase request.transaction }
        processing := .waiting }
  | _ => tasks

/-- Puts the answer in hand into the queue once there is room. -/
def reply (tasks : Tasks α) : Tasks α :=
  match tasks.processing with
  | .replying reply =>
    if tasks.relay.replies.length < Relay.capacity then
      { tasks with
        relay := { tasks.relay with replies := tasks.relay.replies ++ [reply] }
        processing := .waiting }
    else tasks
  | _ => tasks

/-- Takes the first answer from the queue. -/
def pick (tasks : Tasks α) : Tasks α :=
  match tasks.sending, tasks.relay.replies with
  | none, reply :: rest =>
    { tasks with relay := { tasks.relay with replies := rest }, sending := some reply }
  | _, _ => tasks

/-- Sends the answer in hand to whoever is remembered for it. -/
def deliver (tasks : Tasks α) : Tasks α :=
  match tasks.sending with
  | some reply =>
    { tasks with
      relay := { tasks.relay with
        senders := tasks.relay.senders.erase reply.transaction
        sent := tasks.relay.sent ++
          ((tasks.relay.senders.get? reply.transaction).map (·, Mbap.encode reply)).toList }
      sending := none }
  | none => tasks

def step (tasks : Tasks α) : TaskStep α → Tasks α
  | .take sender datagram => tasks.take sender datagram
  | .offer => tasks.offer
  | .drop => tasks.drop
  | .fetch => tasks.fetch
  | .answer => tasks.answer
  | .reply => tasks.reply
  | .pick => tasks.pick
  | .deliver => tasks.deliver

/-- The tasks after steps in the given order. -/
def run (tasks : Tasks α) (steps : List (TaskStep α)) : Tasks α := steps.foldl step tasks

theorem run_append (tasks : Tasks α) (first rest : List (TaskStep α)) :
    tasks.run (first ++ rest) = (tasks.run first).run rest :=
  List.foldl_append

/-! ## Frames that are brought through without a break -/

variable (relay : Relay α)

theorem run_receive (sender : α) (datagram : List UInt8) :
    (resting relay).run [.take sender datagram, .offer, .drop] =
      resting (relay.receive sender datagram) := by
  cases hdecode : Mbap.decode (datagram.take Limits.networkFrame) with
  | error fault => simp [run, step, take, offer, drop, resting, Relay.receive, hdecode]
  | ok request =>
      by_cases hroom : relay.requests.length < Relay.capacity
      · simp [run, step, take, offer, drop, resting, Relay.receive, hdecode, hroom,
          Frame.transaction]
      · simp [run, step, take, offer, drop, resting, Relay.receive, hdecode, hroom,
          Frame.transaction, Directory.erase_insert]

/-- The processor looks for room before it answers and not after, which makes no difference
where there is room. -/
theorem run_process (hroom : relay.replies.length < Relay.capacity) :
    (resting relay).run [.fetch, .answer, .reply] = resting relay.process := by
  cases hrequests : relay.requests with
  | nil => simp [run, step, fetch, answer, reply, resting, Relay.process, hrequests]
  | cons request rest =>
      cases hhandle : relay.station.handle true request with
      | mk answered station =>
          cases answered <;>
            simp [run, step, fetch, answer, reply, resting, Relay.process, hrequests, hhandle,
              hroom, Nat.not_le.mpr hroom, Frame.transaction]

theorem run_send : (resting relay).run [.pick, .deliver] = resting relay.send := by
  cases hreplies : relay.replies with
  | nil => simp [run, step, pick, deliver, resting, Relay.send, hreplies]
  | cons reply rest =>
      cases hsender : relay.senders.get? reply.transaction with
      | none =>
          have habsent : relay.senders.get? reply.header.transactionId.toNat = none := hsender
          simp [run, step, pick, deliver, resting, Relay.send, hreplies, hsender, habsent,
            Directory.erase_of_get?_eq_none hsender]
      | some sender =>
          have hpresent : relay.senders.get? reply.header.transactionId.toNat = some sender :=
            hsender
          simp [run, step, pick, deliver, resting, Relay.send, hreplies, hpresent,
            Frame.transaction]

/-- A datagram that meets no other one is treated as by the tasks without a break. -/
theorem run_exchange (sender : α) (datagram : List UInt8)
    (hroom : relay.replies.length < Relay.capacity) :
    (resting relay).run
        [.take sender datagram, .offer, .drop, .fetch, .answer, .reply, .pick, .deliver] =
      resting (relay.exchange sender datagram) := by
  have hreplies : (relay.receive sender datagram).replies = relay.replies := by
    unfold Relay.receive
    split
    · rfl
    · split <;> rfl
  have hparts : (resting relay).run
      ([.take sender datagram, .offer, .drop] ++ [.fetch, .answer, .reply] ++
        [.pick, .deliver]) = resting (relay.exchange sender datagram) := by
    rw [run_append, run_append, run_receive, run_process _ (hreplies ▸ hroom), run_send]
    rfl
  exact hparts

end Tasks

end Modbus
