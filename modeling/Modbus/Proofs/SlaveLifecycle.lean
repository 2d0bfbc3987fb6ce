import Mathlib.Tactic
import Modbus.Proofs.RegisteredPorts
import Modbus.Proofs.ServingRounds
import Modbus.Slave.Client

/-!
# The life of a slave

A slave on a network says what it is doing, and it has a task and a port while it listens.
A call changes the three one after another, so they disagree while it is under way; when it
is over they agree again, whether its port could be bound or not.  A call that has nothing to
do changes nothing.  The images and the counters are left to the clients, which in turn do
not touch what the calls change.

All this is so if there can be places for as many connections as the slave is to serve at
once, which nobody checks when the slave is made.  If there cannot, the call that starts it
breaks off once the port is bound, and the three disagree from then on.
-/

namespace Modbus

namespace Slave

variable {slave : Slave} {host later : Host}

/-! ## Calls of a settled slave -/

/-- A slave serves the port that it is bound to. -/
structure Listening (slave : Slave) : Prop where
  state : slave.state = .listening
  listener : slave.listener = some .serving
  port : slave.localPort.isSome

/-- What a slave is found like between calls. -/
def Settled (slave : Slave) : Prop := slave.Stopped ∨ slave.Listening

theorem Settled.stopped (hsettled : slave.Settled) (hstate : slave.state = .stopped) :
    slave.Stopped := by
  rcases hsettled with hstopped | hlistening
  · exact hstopped
  · rw [hlistening.state] at hstate
    contradiction

theorem Settled.listening (hsettled : slave.Settled) (hstate : slave.state = .listening) :
    slave.Listening := by
  rcases hsettled with hstopped | hlistening
  · rw [hstopped.state] at hstate
    contradiction
  · exact hlistening

theorem Listening.start (hlistening : slave.Listening) (host : Host) :
    slave.start host = (.ok (), slave, host) :=
  start_of_listening hlistening.listener

theorem Stopped.start_ok (hstopped : slave.Stopped) {port : Option UInt16}
    (hacquire : slave.acquire host = .ok (port, later)) :
    slave.start host = (.ok (), slave.launched port, later) := by
  unfold Slave.start
  rw [hstopped.listener, hacquire]
  rfl

/-- A slave that has places enough is refused its medium, or it gets hold of it. -/
theorem acquire_eq_error (hfits : slave.settings.poolFits) {fault : StartFault}
    (hacquire : slave.acquire host = .error fault) : ∃ error, fault = .failed error := by
  unfold acquire at hacquire
  split at hacquire
  next => exact ⟨_, (Except.error.inj hacquire).symm⟩
  next serial _ _ =>
    cases hopened : host.openDevice serial with
    | error error =>
        rw [hopened] at hacquire
        exact ⟨error, (Except.error.inj hacquire).symm⟩
    | ok opened =>
        rw [hopened] at hacquire
        contradiction
  next =>
    split at hacquire
    next error _ => exact ⟨error, (Except.error.inj hacquire).symm⟩
    next =>
      rw [if_pos hfits] at hacquire
      contradiction

theorem Stopped.start_error (hstopped : slave.Stopped) (hfits : slave.settings.poolFits)
    {fault : StartFault} (hacquire : slave.acquire host = .error fault) :
    slave.start host = (.error fault, slave, host) := by
  obtain ⟨error, rfl⟩ := acquire_eq_error hfits hacquire
  obtain ⟨settings, station, state, port, listener⟩ := slave
  obtain ⟨rfl, rfl, rfl⟩ := hstopped
  simp only [Slave.start, hacquire, unstarted]

theorem stop_of_idle (hlistener : slave.listener = none) (host : Host) :
    slave.stop host = (slave, host) := by
  unfold Slave.stop
  rw [hlistener]

theorem Settled.stop (hsettled : slave.Settled) (host : Host) :
    (slave.stop host).1 = slave.halted := by
  refine stop_eq_halted fun hlistener => ?_
  rcases hsettled with hstopped | hlistening
  · exact hstopped
  · rw [hlistening.listener] at hlistener
    contradiction

theorem listening_launched (hnetwork : slave.settings.transport ≠ .serial) {port : Option UInt16}
    (hacquire : slave.acquire host = .ok (port, later)) : (slave.launched port).Listening := by
  rcases acquire_eq_ok hacquire with ⟨hserial, -⟩ | ⟨-, number, rfl, -⟩
  · exact absurd hserial hnetwork
  · exact ⟨rfl, rfl, rfl⟩

theorem Settled.start (hsettled : slave.Settled) (hnetwork : slave.settings.transport ≠ .serial)
    (hfits : slave.settings.poolFits) (host : Host) : (slave.start host).2.1.Settled := by
  rcases hsettled with hstopped | hlistening
  · cases hacquire : slave.acquire host with
    | error fault =>
        rw [hstopped.start_error hfits hacquire]
        exact Or.inl hstopped
    | ok acquired =>
        obtain ⟨port, later⟩ := acquired
        rw [hstopped.start_ok hacquire]
        exact Or.inr (listening_launched hnetwork hacquire)
  · rw [hlistening.start]
    exact Or.inr hlistening

/-! ## One lock at a time -/

/-- A change of what one lock guards. -/
inductive Update where
  | state (state : ListenerState)
  | port (port : Option UInt16)
  | listener (listener : Option Listener)
  deriving DecidableEq, Repr

def updated (slave : Slave) : Update → Slave
  | .state state => { slave with state := state }
  | .port port => { slave with localPort := port }
  | .listener listener => { slave with listener := listener }

def updatedAll (slave : Slave) (updates : List Update) : Slave := updates.foldl updated slave

/-- What a slave goes through when it is started. -/
def startUpdates (slave : Slave) (host : Host) : List Update :=
  match slave.listener, slave.acquire host with
  | some _, _ => []
  | none, .error (.failed _) => [.state .starting, .state .stopped]
  | none, .error (.breakdown port) => [.state .starting, .port (some port)]
  | none, .ok (port, _) =>
    [.state .starting, .port port, .listener (some .serving), .state .listening]

/-- What a slave goes through when it is stopped. -/
def stopUpdates (slave : Slave) : List Update :=
  match slave.listener with
  | none => []
  | some _ => [.listener none, .state .stopping, .port none, .state .stopped]

theorem start_eq_updatedAll (slave : Slave) (host : Host) :
    (slave.start host).2.1 = slave.updatedAll (slave.startUpdates host) := by
  obtain ⟨settings, station, state, port, listener⟩ := slave
  unfold start startUpdates
  cases listener with
  | some listener => rfl
  | none =>
      dsimp only
      cases Slave.acquire ⟨settings, station, state, port, none⟩ host with
      | error fault => cases fault <;> rfl
      | ok acquired => rfl

theorem stop_eq_updatedAll (slave : Slave) (host : Host) :
    (slave.stop host).1 = slave.updatedAll slave.stopUpdates := by
  obtain ⟨settings, station, state, port, listener⟩ := slave
  cases listener <;> rfl

theorem Stopped.port_starting (hstopped : slave.Stopped)
    (hnetwork : slave.settings.transport ≠ .serial) (hfits : slave.settings.poolFits) (done : Nat)
    (hseen : (slave.updatedAll ((slave.startUpdates host).take done)).state = .listening) :
    (slave.updatedAll ((slave.startUpdates host).take done)).localPort.isSome := by
  cases hacquire : slave.acquire host with
  | error fault =>
      obtain ⟨error, rfl⟩ := acquire_eq_error hfits hacquire
      have hsteps : slave.startUpdates host = [.state .starting, .state .stopped] := by
        rw [startUpdates, hstopped.listener, hacquire]
      rw [hsteps] at hseen
      match done with
      | 0 => simp [updatedAll, hstopped.state] at hseen
      | 1 | done + 2 => simp [updatedAll, updated] at hseen
  | ok acquired =>
      have hsteps : slave.startUpdates host = [.state .starting, .port acquired.1,
          .listener (some .serving), .state .listening] := by
        rw [startUpdates, hstopped.listener, hacquire]
      have hport : acquired.1.isSome := (listening_launched hnetwork hacquire).port
      rw [hsteps] at hseen ⊢
      match done with
      | 0 => simp [updatedAll, hstopped.state] at hseen
      | 1 | 2 | 3 => simp [updatedAll, updated] at hseen
      | done + 4 => simpa [updatedAll, updated] using hport

theorem Listening.port_stopping (hlistening : slave.Listening) (done : Nat)
    (hseen : (slave.updatedAll (slave.stopUpdates.take done)).state = .listening) :
    (slave.updatedAll (slave.stopUpdates.take done)).localPort.isSome := by
  have hsteps : slave.stopUpdates =
      [.listener none, .state .stopping, .port none, .state .stopped] := by
    rw [stopUpdates, hlistening.listener]
  rw [hsteps] at hseen ⊢
  match done with
  | 0 | 1 => exact hlistening.port
  | 2 | 3 | done + 4 => simp [updatedAll, updated] at hseen

/-- Whoever sees in the middle of a call that a slave listens finds the port that it is bound
to. -/
theorem Settled.port_midway (hsettled : slave.Settled)
    (hnetwork : slave.settings.transport ≠ .serial) (hfits : slave.settings.poolFits)
    {updates : List Update}
    (hupdates : updates = slave.startUpdates host ∨ updates = slave.stopUpdates) (done : Nat)
    (hseen : (slave.updatedAll (updates.take done)).state = .listening) :
    (slave.updatedAll (updates.take done)).localPort.isSome := by
  rcases hsettled with hstopped | hlistening <;> rcases hupdates with rfl | rfl
  · exact hstopped.port_starting hnetwork hfits done hseen
  · have hnone : slave.stopUpdates = [] := by rw [stopUpdates, hstopped.listener]
    rw [hnone, List.take_nil] at hseen
    exact absurd hseen (by simp [updatedAll, hstopped.state])
  · have hnone : slave.startUpdates host = [] := by rw [startUpdates, hlistening.listener]
    rw [hnone, List.take_nil]
    exact hlistening.port
  · exact hlistening.port_stopping done hseen

end Slave

/-! ## What clients do -/

/-- Counters of which some have been counted on and none has been set back. -/
structure Stats.Precedes (stats later : Stats) : Prop where
  accepted : stats.accepted ≤ later.accepted
  requests : stats.requests ≤ later.requests
  exceptions : stats.exceptions ≤ later.exceptions

namespace Stats.Precedes

variable {stats between later : Stats}

theorem refl (stats : Stats) : stats.Precedes stats := ⟨le_rfl, le_rfl, le_rfl⟩

theorem trans (hbetween : stats.Precedes between) (hlater : between.Precedes later) :
    stats.Precedes later :=
  ⟨hbetween.accepted.trans hlater.accepted, hbetween.requests.trans hlater.requests,
    hbetween.exceptions.trans hlater.exceptions⟩

end Stats.Precedes

theorem Station.precedes_handleAll (own : Bool) (station : Station) (frames : List Frame) :
    station.stats.Precedes (station.handleAll own frames).2.stats := by
  rw [stats_handleAll]
  exact ⟨le_rfl, Nat.le_add_right _ _, Nat.le_add_right _ _⟩

theorem Relay.station_process {α : Type} (relay : Relay α) :
    ∃ frames, relay.process.station = (relay.station.handleAll true frames).2 := by
  unfold process
  split
  next => exact ⟨[], rfl⟩
  next frame rest hrequests =>
    split
    next => exact ⟨[], rfl⟩
    next =>
      refine ⟨[frame], ?_⟩
      rcases hhandle : relay.station.handle true frame with ⟨_ | reply, after⟩ <;>
        simp [Station.handleAll, hhandle]

namespace Slave

variable {slave : Slave} {host : Host}

theorem precedes_converse (framing : Framing) (timeout : Nat) (octets : List UInt8)
    (station : Station) :
    station.stats.Precedes (converse framing timeout octets station).2.stats := by
  have haccept : station.stats.Precedes station.accept.stats :=
    ⟨Nat.le_succ _, le_rfl, le_rfl⟩
  refine haccept.trans ?_
  unfold converse serve
  dsimp only
  rw [station_serveWithin]
  exact station.accept.precedes_handleAll _ _

theorem precedes_answerDatagram (datagram : List UInt8) (station : Station) :
    station.stats.Precedes (answerDatagram datagram station).2.stats := by
  let relay : Relay Unit := (Relay.idle station).receive () datagram
  have hreceived : relay.station = station := by
    unfold relay Relay.receive
    split
    next => rfl
    next => split <;> rfl
  have hsent : relay.process.send.station = relay.process.station := by
    unfold Relay.send
    split
    next => rfl
    next =>
      dsimp only
      split <;> rfl
  obtain ⟨frames, hframes⟩ := relay.station_process
  show station.stats.Precedes relay.process.send.station.stats
  rw [hsent, hframes, hreceived]
  exact station.precedes_handleAll true frames

/-! ## Histories -/

/-- What may happen to a slave: it is called, each time on the machine as it is then, or it is
reached by a client, or it is given other images. -/
inductive Event where
  | start (host : Host)
  | stop (host : Host)
  | visit (host : Host) (octets : List UInt8)
  | tell (host : Host) (datagram : List UInt8)
  | load (units : Units)

def after (slave : Slave) : Event → Slave
  | .start host => (slave.start host).2.1
  | .stop host => (slave.stop host).1
  | .visit host octets => (slave.visit host octets).2
  | .tell host datagram => (slave.tell host datagram).2
  | .load units => slave.withUnits units

def afterAll (slave : Slave) (history : List Event) : Slave := history.foldl after slave

/-- Clients and new images reach the station only. -/
theorem after_cases (slave : Slave) (event : Event) :
    (∃ host, event = .start host) ∨ (∃ host, event = .stop host) ∨
      ∃ station, slave.after event = { slave with station := station } := by
  cases event with
  | start host => exact Or.inl ⟨host, rfl⟩
  | stop host => exact Or.inr (Or.inl ⟨host, rfl⟩)
  | visit host octets =>
      refine Or.inr (Or.inr ?_)
      show ∃ station, (slave.visit host octets).2 = { slave with station := station }
      unfold visit
      split
      next => exact ⟨_, rfl⟩
      next => exact ⟨slave.station, rfl⟩
  | tell host datagram =>
      refine Or.inr (Or.inr ?_)
      show ∃ station, (slave.tell host datagram).2 = { slave with station := station }
      unfold tell
      split
      next => exact ⟨_, rfl⟩
      next => exact ⟨slave.station, rfl⟩
  | load units => exact Or.inr (Or.inr ⟨_, rfl⟩)

theorem station_unstarted (slave : Slave) (fault : StartFault) :
    (slave.unstarted fault).station = slave.station := by
  cases fault <;> rfl

theorem settings_unstarted (slave : Slave) (fault : StartFault) :
    (slave.unstarted fault).settings = slave.settings := by
  cases fault <;> rfl

theorem station_start (slave : Slave) (host : Host) :
    (slave.start host).2.1.station = slave.station := by
  unfold start
  split
  next => rfl
  next =>
    split
    next => exact slave.station_unstarted _
    next => rfl

theorem station_stop (slave : Slave) (host : Host) :
    (slave.stop host).1.station = slave.station := by
  unfold stop
  split <;> rfl

theorem settings_after (slave : Slave) (event : Event) :
    (slave.after event).settings = slave.settings := by
  rcases slave.after_cases event with ⟨host, rfl⟩ | ⟨host, rfl⟩ | ⟨station, hafter⟩
  · show (slave.start host).2.1.settings = slave.settings
    unfold start
    split
    next => rfl
    next =>
      split
      next => exact slave.settings_unstarted _
      next => rfl
  · show (slave.stop host).1.settings = slave.settings
    unfold stop
    split <;> rfl
  · rw [hafter]

theorem precedes_after (slave : Slave) (event : Event) :
    slave.station.stats.Precedes (slave.after event).station.stats := by
  cases event with
  | start host =>
      rw [after, station_start]
      exact .refl _
  | stop host =>
      rw [after, station_stop]
      exact .refl _
  | visit host octets =>
      show slave.station.stats.Precedes (slave.visit host octets).2.station.stats
      unfold visit
      split
      next => exact precedes_converse ..
      next => exact .refl _
  | tell host datagram =>
      show slave.station.stats.Precedes (slave.tell host datagram).2.station.stats
      unfold tell
      split
      next => exact precedes_answerDatagram ..
      next => exact .refl _
  | load units => exact .refl _

theorem Settled.after (hsettled : slave.Settled) (hnetwork : slave.settings.transport ≠ .serial)
    (hfits : slave.settings.poolFits) (event : Event) : (slave.after event).Settled := by
  rcases slave.after_cases event with ⟨host, rfl⟩ | ⟨host, rfl⟩ | ⟨station, hafter⟩
  · exact hsettled.start hnetwork hfits host
  · show (slave.stop host).1.Settled
    rw [hsettled.stop]
    exact Or.inl slave.stopped_halted
  · rw [hafter]
    exact hsettled.imp (fun hstopped => ⟨hstopped.state, hstopped.listener, hstopped.port⟩)
      fun hlistening => ⟨hlistening.state, hlistening.listener, hlistening.port⟩

theorem settings_afterAll (slave : Slave) (history : List Event) :
    (slave.afterAll history).settings = slave.settings := by
  induction history generalizing slave with
  | nil => rfl
  | cons event history ih => exact (ih (slave.after event)).trans (slave.settings_after event)

theorem precedes_afterAll (slave : Slave) (history : List Event) :
    slave.station.stats.Precedes (slave.afterAll history).station.stats := by
  induction history generalizing slave with
  | nil => exact .refl _
  | cons event history ih => exact (slave.precedes_after event).trans (ih (slave.after event))

/-- What every event keeps, of a slave with these settings, is so after any history. -/
theorem afterAll_keeps {P : Slave → Prop}
    (hevent : ∀ now : Slave, now.settings = slave.settings → P now → ∀ event, P (now.after event))
    (hkept : P slave) (history : List Event) : P (slave.afterAll history) := by
  induction history using List.reverseRecOn with
  | nil => exact hkept
  | append_singleton history event ih =>
      rw [afterAll, List.foldl_append]
      exact hevent _ (slave.settings_afterAll history) ih event

theorem Settled.afterAll (hsettled : slave.Settled)
    (hnetwork : slave.settings.transport ≠ .serial) (hfits : slave.settings.poolFits)
    (history : List Event) :
    (slave.afterAll history).Settled := by
  refine afterAll_keeps (fun now hsame hnow event => ?_) hsettled history
  rw [← hsame] at hnetwork hfits
  exact hnow.after hnetwork hfits event

/-! ## What calls do at any time -/

/-- What a slave is found like when it is called, and what the call does to it. -/
structure Lawful (slave : Slave) : Prop where
  /-- It is stopped, or it listens. -/
  state : slave.state = .stopped ∨ slave.state = .listening
  /-- It has a task while it listens, and at no other time. -/
  task : slave.state = .listening ↔ slave.listener.isSome
  /-- It has a port while it listens, and at no other time. -/
  port : slave.state = .listening ↔ slave.localPort.isSome
  /-- One that listens is not started again. -/
  startedTwice : slave.state = .listening → ∀ host, slave.start host = (.ok (), slave, host)
  /-- One that is stopped listens as soon as its port can be bound. -/
  started : slave.state = .stopped → ∀ host port later,
    slave.acquire host = .ok (port, later) →
      slave.start host = (.ok (), slave.launched port, later) ∧ (slave.launched port).Listening
  /-- One that cannot be started stays stopped as it was, without a port, and it can be started
  later. -/
  failed : ∀ host fault, (slave.start host).1 = .error fault →
    slave.start host = (.error fault, slave, host) ∧ slave.Stopped ∧
      ∀ again bound, slave.acquire again = .ok bound →
        ((slave.start host).2.1.start again).1 = .ok () ∧
          ((slave.start host).2.1.start again).2.1.Listening
  /-- One that is stopped is not stopped again. -/
  stoppedTwice : slave.state = .stopped → ∀ host, slave.stop host = (slave, host)
  stopped : ∀ host, (slave.stop host).1 = slave.halted
  /-- A call changes one thing after another, and before it is over whoever sees that the slave
  listens finds its port. -/
  steps : ∀ host, (slave.start host).2.1 = slave.updatedAll (slave.startUpdates host) ∧
    (slave.stop host).1 = slave.updatedAll slave.stopUpdates
  midway : ∀ host, ∀ updates ∈ [slave.startUpdates host, slave.stopUpdates], ∀ done,
    (slave.updatedAll (updates.take done)).state = .listening →
      (slave.updatedAll (updates.take done)).localPort.isSome
  /-- Neither call changes the images or the counters. -/
  kept : ∀ host, (slave.start host).2.1.station = slave.station ∧
    (slave.stop host).1.station = slave.station

theorem Settled.lawful (hsettled : slave.Settled)
    (hnetwork : slave.settings.transport ≠ .serial) (hfits : slave.settings.poolFits) :
    slave.Lawful where
  state := hsettled.imp Stopped.state Listening.state
  task := by
    rcases hsettled with hstopped | hlistening
    · simp [hstopped.state, hstopped.listener]
    · simp [hlistening.state, hlistening.listener]
  port := by
    rcases hsettled with hstopped | hlistening
    · simp [hstopped.state, hstopped.port]
    · simp [hlistening.state, hlistening.port]
  startedTwice hstate := (hsettled.listening hstate).start
  started hstate host port later hacquire :=
    ⟨(hsettled.stopped hstate).start_ok hacquire, listening_launched hnetwork hacquire⟩
  failed host fault hfault := by
    rcases hsettled with hstopped | hlistening
    · cases hacquire : slave.acquire host with
      | ok acquired =>
          rw [hstopped.start_ok hacquire] at hfault
          contradiction
      | error found =>
          have hstart := hstopped.start_error hfits hacquire
          rw [hstart] at hfault ⊢
          obtain rfl := Except.error.inj hfault
          refine ⟨rfl, hstopped, fun again bound hbound => ?_⟩
          rw [hstopped.start_ok hbound]
          exact ⟨rfl, listening_launched hnetwork hbound⟩
    · rw [hlistening.start] at hfault
      contradiction
  stoppedTwice hstate := stop_of_idle (hsettled.stopped hstate).listener
  stopped := hsettled.stop
  steps host := ⟨slave.start_eq_updatedAll host, slave.stop_eq_updatedAll host⟩
  midway host updates hupdates done hseen :=
    hsettled.port_midway hnetwork hfits (by simpa using hupdates) done hseen
  kept host := ⟨slave.station_start host, slave.station_stop host⟩

/-! ## More connections than there can be places for -/

/-- What a slave is found like that is to serve more connections at once than there can be places
for, and what a call does to it.  It never listens, and a call that breaks off leaves it without
a task but with a port, and says no longer what the slave is doing. -/
structure Crowded (slave : Slave) : Prop where
  state : slave.state = .stopped ∨ slave.state = .starting
  task : slave.listener = none
  refused : ∀ host error,
    host.bind slave.settings.transport slave.settings.bindAddress slave.settings.port =
        .error error →
      slave.start host = (.error (.failed error), { slave with state := .stopped }, host)
  brokenOff : ∀ host port later,
    host.bind slave.settings.transport slave.settings.bindAddress slave.settings.port =
        .ok (port, later) →
      slave.start host =
        (.error (.breakdown port), { slave with state := .starting, localPort := some port }, host)
  stopped : ∀ host, slave.stop host = (slave, host)

/-- One that is not started is crowded as soon as it is to have too many places. -/
theorem crowded_of_idle (hcrowded : slave.settings.poolFits = false)
    (htask : slave.listener = none) (hstate : slave.state = .stopped ∨ slave.state = .starting) :
    slave.Crowded := by
  have htcp : slave.settings.transport = .tcp := by
    by_contra hother
    simp [SlaveSettings.poolFits, hother] at hcrowded
  refine ⟨hstate, htask, fun host error hbind => ?_, fun host port later hbind => ?_,
    stop_of_idle htask⟩
  all_goals
    rw [htcp] at hbind
    simp [start, acquire, unstarted, htask, htcp, hbind, hcrowded]

theorem Crowded.after (hcrowded : slave.Crowded) (hpool : slave.settings.poolFits = false)
    (event : Event) : (slave.after event).Crowded := by
  rcases slave.after_cases event with ⟨host, rfl⟩ | ⟨host, rfl⟩ | ⟨station, hafter⟩
  · show (slave.start host).2.1.Crowded
    cases hbind : host.bind slave.settings.transport slave.settings.bindAddress
        slave.settings.port with
    | error error =>
        rw [hcrowded.refused host error hbind]
        exact crowded_of_idle hpool hcrowded.task (Or.inl rfl)
    | ok bound =>
        rw [hcrowded.brokenOff host bound.1 bound.2 hbind]
        exact crowded_of_idle hpool hcrowded.task (Or.inr rfl)
  · show (slave.stop host).1.Crowded
    rw [hcrowded.stopped]
    exact hcrowded
  · rw [hafter]
    exact crowded_of_idle hpool hcrowded.task hcrowded.state

theorem Crowded.afterAll (hcrowded : slave.Crowded) (hpool : slave.settings.poolFits = false)
    (history : List Event) : (slave.afterAll history).Crowded := by
  refine afterAll_keeps (fun now hsame hnow event => ?_) hcrowded history
  rw [← hsame] at hpool
  exact hnow.after hpool event

/-! ## What calls do after any history -/

/-- Whatever has happened to a slave on a network since it was made, and whether its port could
be bound or not, it is stopped without a task and a port or it listens with both, and calls do
what they say and nothing else, if there can be places for its connections; if there cannot, it
never listens.  Its counters are never set back. -/
theorem lawful_afterAll {settings : SlaveSettings} (hnew : Slave.new settings = .ok slave)
    (hnetwork : settings.transport ≠ .serial) (before history : List Event) :
    let earlier := slave.afterAll before
    let now := earlier.afterAll history
    (if settings.poolFits then now.Lawful else now.Crowded) ∧
      earlier.station.stats.Precedes now.station.stats := by
  obtain rfl := SlaveRegistry.new_eq_ok hnew
  intro earlier now
  have hsettings : earlier.settings = settings := settings_afterAll _ before
  have hsame : now.settings = settings := (settings_afterAll earlier history).trans hsettings
  refine ⟨?_, precedes_afterAll earlier history⟩
  split_ifs with hfits
  · have hmade : (SlaveRegistry.idle settings).Settled := Or.inl ⟨rfl, rfl, rfl⟩
    have hearlier : earlier.Settled := hmade.afterAll hnetwork hfits before
    have hnow : now.Settled :=
      hearlier.afterAll (by rwa [hsettings]) (by rwa [hsettings]) history
    exact hnow.lawful (by rwa [hsame]) (by rwa [hsame])
  · have hpool : settings.poolFits = false := by simpa using hfits
    have hmade : (SlaveRegistry.idle settings).Crowded :=
      crowded_of_idle hpool rfl (Or.inl rfl)
    have hearlier : earlier.Crowded := hmade.afterAll hpool before
    exact hearlier.afterAll (by rwa [hsettings]) history

/-- The port of a slave is in use when it is started first, and free later.  Then it listens, and
answers a client until it is stopped. -/
theorem lawful_afterAll_busy_port :
    let settings : SlaveSettings := { SlaveSettings.tcp 1502 with bindAddress := "127.0.0.1" }
    let busy : Host := { Host.loopback with taken := [(.tcp, 1502)] }
    let failed := (SlaveRegistry.idle settings).afterAll [.start busy]
    let now := failed.afterAll
      [.start .loopback, .visit .loopback [0, 1, 0, 0, 0, 6, 1, 3, 0, 0, 0, 1], .start busy]
    Slave.new settings = .ok (SlaveRegistry.idle settings) ∧ settings.transport ≠ .serial ∧
      failed.Lawful ∧ failed.state = .stopped ∧
      now.Lawful ∧ now.localPort = some 1502 ∧ now.station.stats = ⟨1, 1, 1⟩ ∧
      failed.station.stats.Precedes now.station.stats := by
  intro settings busy failed now
  have hnew : Slave.new settings = .ok (SlaveRegistry.idle settings) := rfl
  have hnetwork : settings.transport ≠ .serial := by decide
  have hfits : settings.poolFits := by decide
  obtain ⟨hfailed, -⟩ := lawful_afterAll hnew hnetwork [] [.start busy]
  obtain ⟨hnow, hcounted⟩ := lawful_afterAll hnew hnetwork [.start busy]
    [.start .loopback, .visit .loopback [0, 1, 0, 0, 0, 6, 1, 3, 0, 0, 0, 1], .start busy]
  rw [if_pos hfits] at hfailed hnow
  exact ⟨hnew, hnetwork, hfailed, by decide +kernel, hnow, by decide +kernel, by decide +kernel,
    hcounted⟩

/-- A slave that may be made has one place more than there can be.  When it is started its port
is bound, and then the call breaks off: the slave has the port and no task, and it says that it
is being started.  When it is started once more and the port is in use, it is stopped, and it
still has the port. -/
theorem crowded_slave_keeps_port :
    let settings : SlaveSettings := { SlaveSettings.tcp 1502 with
      bindAddress := "127.0.0.1", poolSize := SlaveSettings.mostConnections + 1 }
    let busy : Host := { Host.loopback with taken := [(.tcp, 1502)] }
    let broken := (SlaveRegistry.idle settings).afterAll [.start .loopback]
    let refused := broken.afterAll [.start busy]
    Slave.new settings = .ok (SlaveRegistry.idle settings) ∧ settings.transport = .tcp ∧
      broken.state = .starting ∧ broken.listener = none ∧ broken.localPort = some 1502 ∧
      refused.state = .stopped ∧ refused.listener = none ∧ refused.localPort = some 1502 := by
  intro settings busy broken refused
  exact ⟨rfl, rfl, by decide +kernel, by decide +kernel, by decide +kernel, by decide +kernel,
    by decide +kernel, by decide +kernel⟩

end Slave

end Modbus
