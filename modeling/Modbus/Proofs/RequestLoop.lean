import Mathlib.Tactic
import Modbus.Proofs.SharedLine

/-!
# Requests one after another

On a line without network headers a request ends in one of two ways.  If its
function is implemented, the function code tells how long it is; if not, it ends with
the silence behind it.  Requests of both kinds may follow each other on one line, and
a slave takes each of them as it is, even if it comes late.  Only where silence ends a
request does it matter what comes next and when: the slave looks for the silence from
when it has taken the last octet, and its timers end at ticks of a clock.
-/

namespace Modbus

/-- A frame whose end a reader of requests finds: its function code tells how long it is, or
is not that of an implemented function, so that silence tells. -/
def Frame.Separable (frame : Frame) : Prop :=
  frame.Shaped .request ∨
    ∃ code data, frame.pdu = code :: data ∧ Function.ofCode? code = none

theorem Frame.Separable.legible {frame : Frame} (hseparable : frame.Separable) :
    frame.Legible := by
  rcases hseparable with hshaped | ⟨code, data, hpdu, hunknown⟩
  · exact legible_of_shaped hshaped
  · exact legible_of_unknown hpdu hunknown

/-! ## Times -/

/-- What the times on a line depend on, with a timing or without. -/
structure Tempo where
  resolution : Nat
  timing : Option Timing
  timeout : Nat
  /-- When the line ends, if it does. -/
  endsAt : Option Nat

namespace Tempo

/-- The silence that ends a frame of unknown length. -/
def quiet (tempo : Tempo) : Nat :=
  match tempo.timing with
  | some timing => max timing.messageGap timing.characterGap
  | none => Transport.headlessQuiet

/-- When a slave that is ready from a time on has a frame. -/
def readAt (tempo : Tempo) (ready : Nat) (burst : Burst) : Nat :=
  burst.readAt tempo.resolution tempo.quiet tempo.timeout ready

/-- When the answer to the frame leaves. -/
def answeredAt (tempo : Tempo) (ready : Nat) (burst : Burst) : Nat :=
  match tempo.timing with
  | some timing =>
    Line.ring tempo.resolution (tempo.readAt ready burst)
      (tempo.readAt ready burst + timing.messageGap)
  | none => tempo.readAt ready burst

/-- When the slave is ready for what comes behind the frame. -/
def readyAt (tempo : Tempo) (own : Bool) (ready : Nat) (station : Station) (burst : Burst) : Nat :=
  if (station.handle own burst.received).1.isSome then tempo.answeredAt ready burst
  else tempo.readAt ready burst

/-- A slave has found the line silent behind a frame of an unknown function before anything
else comes, the next frame or the end of the line. -/
def Parted (tempo : Tempo) (own : Bool) : Nat → Station → List Burst → Prop
  | _, _, [] => True
  | ready, station, burst :: bursts =>
    (Headless.requestSpan burst.octets = none →
      ∀ time ∈ (bursts.head?.map Burst.start).or tempo.endsAt, tempo.readAt ready burst ≤ time) ∧
    tempo.Parted own (tempo.readyAt own ready station burst)
      (station.handle own burst.received).2 bursts

instance decidableParted (tempo : Tempo) (own : Bool) :
    (ready : Nat) → (station : Station) → (bursts : List Burst) →
      Decidable (tempo.Parted own ready station bursts)
  | _, _, [] => .isTrue trivial
  | ready, station, burst :: bursts =>
    have := decidableParted tempo own (tempo.readyAt own ready station burst)
      (station.handle own burst.received).2 bursts
    inferInstanceAs (Decidable ((Headless.requestSpan burst.octets = none →
      ∀ time ∈ (bursts.head?.map Burst.start).or tempo.endsAt, _) ∧ _))

/-- Each frame begins more than one quiet period behind the one before it, and not before the
answer to that one has left if there is one. -/
def Spaced (tempo : Tempo) (own : Bool) : Nat → Station → List Burst → Prop
  | _, _, [] => True
  | ready, station, burst :: bursts =>
    (∀ next ∈ bursts.head?, burst.ending + tempo.quiet < next.start ∧
      ((station.handle own burst.received).1.isSome →
        tempo.answeredAt ready burst ≤ next.start)) ∧
    tempo.Spaced own (tempo.readyAt own ready station burst)
      (station.handle own burst.received).2 bursts

instance decidableSpaced (tempo : Tempo) (own : Bool) :
    (ready : Nat) → (station : Station) → (bursts : List Burst) →
      Decidable (tempo.Spaced own ready station bursts)
  | _, _, [] => .isTrue trivial
  | ready, station, burst :: bursts =>
    have := decidableSpaced tempo own (tempo.readyAt own ready station burst)
      (station.handle own burst.received).2 bursts
    inferInstanceAs (Decidable ((∀ next ∈ bursts.head?, _) ∧ _))

section Ready

variable {tempo : Tempo} {own : Bool} {ready : Nat} {station after : Station} {burst : Burst}
  {bursts : List Burst}

theorem readyAt_ignored (hhandle : station.handle own burst.received = (none, after)) :
    tempo.readyAt own ready station burst = tempo.readAt ready burst := by
  rw [readyAt, hhandle]
  rfl

theorem readyAt_answered {reply : Frame}
    (hhandle : station.handle own burst.received = (some reply, after)) :
    tempo.readyAt own ready station burst = tempo.answeredAt ready burst := by
  rw [readyAt, hhandle]
  rfl

/-- For what comes at a tick of the clock, and a slave that is ready for the frame, the silence
of one quiet period is enough. -/
theorem readAt_le_of_tick {time : Nat} (hwhole : burst.Whole tempo.quiet tempo.timeout)
    (hready : ready ≤ burst.start) (hsilent : burst.ending + tempo.quiet < time)
    (htick : max tempo.resolution 1 ∣ time) : tempo.readAt ready burst ≤ time := by
  refine (burst.readAt_eq_heardAt hwhole hready tempo.resolution).le.trans ?_
  refine (burst.heardAt_le_overAt _ _ _).trans ?_
  exact Line.ring_le_of_tick (by omega) hsilent.le htick

/-- If a slave is ready for the first of some frames that are spaced, if they begin at ticks of
the clock and if the line does not end too soon, then the slave finds the line silent where it
has to. -/
theorem Spaced.parted (hspaced : tempo.Spaced own ready station bursts)
    (hwhole : ∀ burst ∈ bursts, burst.Whole tempo.quiet tempo.timeout)
    (hready : ∀ burst ∈ bursts.head?, ready ≤ burst.start)
    (hticks : ∀ burst ∈ bursts, max tempo.resolution 1 ∣ burst.start)
    (hend : ∀ time ∈ tempo.endsAt, max tempo.resolution 1 ∣ time ∧
      ∀ burst ∈ bursts, burst.ending + tempo.quiet < time) :
    tempo.Parted own ready station bursts := by
  induction bursts generalizing ready station with
  | nil => trivial
  | cons burst bursts ih =>
      obtain ⟨hnext, hothers⟩ := hspaced
      obtain ⟨hthis, hlater⟩ := List.forall_mem_cons.mp hwhole
      have hnow := hready burst rfl
      have hbegins : ∀ next ∈ bursts.head?, tempo.readAt ready burst ≤ next.start :=
        fun next hmem => readAt_le_of_tick hthis hnow (hnext next hmem).1
          (hticks next (List.mem_cons_of_mem _ (List.mem_of_mem_head? hmem)))
      refine ⟨fun _ time htime => ?_, ih hothers hlater (fun next hmem => ?_)
        (fun next hmem => hticks next (List.mem_cons_of_mem _ hmem))
        fun time htime => ⟨(hend time htime).1, fun next hmem =>
          (hend time htime).2 next (List.mem_cons_of_mem _ hmem)⟩⟩
      · cases hhead : bursts.head? with
        | none =>
            rw [hhead] at htime
            obtain ⟨htick, hsilent⟩ := hend time htime
            exact readAt_le_of_tick hthis hnow (hsilent burst List.mem_cons_self) htick
        | some next =>
            rw [hhead] at htime
            obtain rfl := Option.some.inj htime
            exact hbegins next hhead
      · rcases hhandle : station.handle own burst.received with ⟨_ | reply, after⟩
        · rw [readyAt_ignored hhandle]
          exact hbegins next hmem
        · rw [readyAt_answered hhandle]
          exact (hnext next hmem).2 (by rw [hhandle]; rfl)

end Ready

end Tempo

namespace Transport

def tempo (transport : Transport) : Tempo :=
  ⟨transport.line.resolution, transport.timing, transport.timeout, transport.line.endsAt⟩

/-- An open line without an echo brings bursts at a tempo, and nothing else. -/
structure Awaits (transport : Transport) (tempo : Tempo) (bursts : List Burst) : Prop where
  keeps : transport.tempo = tempo
  framing : transport.framing = .headless true
  silent : transport.timing.any Timing.echo = false
  stillOpen : transport.closed = false
  arriving : transport.line.arriving = bursts.flatMap Burst.arrivals

namespace Awaits

variable {transport : Transport} {tempo : Tempo} {burst : Burst} {bursts : List Burst}

/-- A burst is read as the frame that it is, whichever way its end is found. -/
theorem read_eq (hawaits : transport.Awaits tempo (burst :: bursts))
    (hwhole : burst.Whole tempo.quiet tempo.timeout) (hlegible : burst.frame.Legible)
    (hparted : Headless.requestSpan burst.octets = none →
      ∀ time ∈ (bursts.head?.map Burst.start).or tempo.endsAt,
        tempo.readAt transport.line.now burst ≤ time) :
    read .request transport = (.ok burst.received,
      (transport.reached (tempo.readAt transport.line.now burst)
        (bursts.flatMap Burst.arrivals)).active) := by
  obtain ⟨rfl, hframing, -, -, harriving⟩ := hawaits
  have hoffers : transport.Offers burst (bursts.flatMap Burst.arrivals) :=
    ⟨hframing, harriving, hwhole⟩
  rw [← Burst.start_head?] at hparted
  have hread := hoffers.read_legible hlegible hparted
  rwa [hframing] at hread

/-- Behind a burst the others are awaited. -/
theorem reached (hawaits : transport.Awaits tempo (burst :: bursts)) (time : Nat) :
    (transport.reached time (bursts.flatMap Burst.arrivals)).active.Awaits tempo bursts :=
  ⟨hawaits.keeps, hawaits.framing, hawaits.silent, hawaits.stillOpen, rfl⟩

theorem departure_eq (hawaits : transport.Awaits tempo (burst :: bursts)) :
    (transport.reached (tempo.readAt transport.line.now burst)
      (bursts.flatMap Burst.arrivals)).active.departure =
        tempo.answeredAt transport.line.now burst := by
  obtain ⟨rfl, -⟩ := hawaits
  have hlast : (transport.reached (transport.tempo.readAt transport.line.now burst)
      (bursts.flatMap Burst.arrivals)).active.lastActivity =
        some (transport.tempo.readAt transport.line.now burst) := rfl
  have htiming : (transport.reached (transport.tempo.readAt transport.line.now burst)
      (bursts.flatMap Burst.arrivals)).active.timing = transport.tempo.timing := rfl
  simp only [departure, waitGap, Tempo.answeredAt, hlast, htiming]
  cases transport.tempo.timing <;> rfl

/-- When the answer to a burst has left the others are awaited. -/
theorem answered (hawaits : transport.Awaits tempo (burst :: bursts)) (time : Nat)
    (reply : List UInt8) :
    ((transport.reached time (bursts.flatMap Burst.arrivals)).active.answered reply).Awaits
      tempo bursts :=
  ⟨hawaits.keeps, hawaits.framing, hawaits.silent, hawaits.stillOpen, rfl⟩

/-- Behind the last burst there is nothing to read. -/
theorem read_nothing (hawaits : transport.Awaits tempo []) :
    ∃ halt after, read .request transport = (.error halt, after) ∧
      after.sent = transport.sent ∧
      ∀ (lineUse : LineUse) (error : Error), halt = .failed error →
        lineUse.survives after.framing.isHeadless error = false := by
  cases hends : transport.line.endsAt with
  | none =>
      exact ⟨_, _, read_request_idle hawaits.arriving hends, rfl,
        fun lineUse error hfailed => by contradiction⟩
  | some time =>
      refine ⟨_, _, read_request_ended hawaits.arriving hends, rfl, fun lineUse error hfailed => ?_⟩
      rw [← Halt.failed.inj hfailed]
      rfl

end Awaits

end Transport

namespace Slave

variable {lineUse : LineUse} {rounds : Nat} {transport : Transport} {tempo : Tempo}
  {burst : Burst} {bursts : List Burst} {station : Station}

/-- A slave that awaits bursts hands their frames to its station, one after another, and sends
what the station answers. -/
theorem serveWithin_awaited (hawaits : transport.Awaits tempo bursts)
    (hwhole : ∀ burst ∈ bursts, burst.Whole tempo.quiet tempo.timeout)
    (hlegible : ∀ burst ∈ bursts, burst.frame.Legible)
    (hparted : tempo.Parted lineUse.own transport.line.now station bursts)
    (hrounds : bursts.length < rounds) :
    framesWithin lineUse rounds transport station = bursts.map Burst.received ∧
      (serveWithin lineUse rounds transport station).1.sent.map Transmission.octets =
        transport.sent.map Transmission.octets ++
          (station.handleAll lineUse.own (bursts.map Burst.received)).1.map
            (Headless.encode true) := by
  induction bursts generalizing rounds transport station with
  | nil =>
      obtain ⟨rounds, rfl⟩ := Nat.exists_eq_add_one_of_ne_zero (Nat.ne_zero_of_lt hrounds)
      obtain ⟨halt, after, hread, hsent, hgivesUp⟩ := hawaits.read_nothing
      obtain ⟨last, hlast, hserved⟩ :=
        @serveWithin_ended lineUse rounds _ _ station _ hread (hgivesUp lineUse)
      refine ⟨framesWithin_ended hread (hgivesUp lineUse), ?_⟩
      rw [hserved, hlast, hsent]
      exact (List.append_nil _).symm
  | cons burst bursts ih =>
      obtain ⟨rounds, rfl⟩ := Nat.exists_eq_add_one_of_ne_zero (Nat.ne_zero_of_lt hrounds)
      obtain ⟨hthis, hothers⟩ := List.forall_mem_cons.mp hwhole
      obtain ⟨hclear, hmore⟩ := List.forall_mem_cons.mp hlegible
      obtain ⟨hsilent, hrest⟩ := hparted
      have hless := Nat.lt_of_succ_lt_succ hrounds
      have hread := hawaits.read_eq hthis hclear hsilent
      rcases hhandle : station.handle lineUse.own burst.received with ⟨_ | reply, after⟩
      · rw [Tempo.readyAt_ignored hhandle, hhandle] at hrest
        change tempo.Parted lineUse.own _ after bursts at hrest
        obtain ⟨hframes, hoctets⟩ := ih
          (hawaits.reached (tempo.readAt transport.line.now burst)) hothers hmore hrest hless
        rw [framesWithin_ignored hread hhandle, serveWithin_ignored hread hhandle, hframes,
          hoctets, List.map_cons, Station.handleAll, hhandle]
        exact ⟨rfl, rfl⟩
      · rw [Tempo.readyAt_answered hhandle, hhandle, ← hawaits.departure_eq] at hrest
        change tempo.Parted lineUse.own _ after bursts at hrest
        obtain ⟨hframes, hoctets⟩ := ih
          (hawaits.answered (tempo.readAt transport.line.now burst) (Headless.encode true reply))
          hothers hmore hrest hless
        have hencode : (transport.reached (tempo.readAt transport.line.now burst)
            (bursts.flatMap Burst.arrivals)).active.framing.encode reply =
              Headless.encode true reply :=
          congrArg (Framing.encode · reply) hawaits.framing
        rw [framesWithin_answered hread hhandle hawaits.stillOpen hawaits.silent,
          serveWithin_answered hread hhandle hawaits.stillOpen hawaits.silent, hencode, hframes,
          hoctets, List.map_cons, Station.handleAll_answered hhandle, Transport.octets_answered,
          List.append_assoc]
        exact ⟨rfl, rfl⟩

/-- A slave hands to its station exactly the requests that its line brings, in order and each
once, whether their functions are implemented or not, and sends exactly what the station
answers.  It may come late, and only behind a request for an unknown function it has to find the
line silent. -/
theorem serve_successive {lineUse : LineUse} {transport : Transport} {station : Station}
    {bursts : List Burst} (hframing : transport.framing = .headless true)
    (hsilent : transport.timing.any Timing.echo = false) (hopen : transport.closed = false)
    (harriving : transport.line.arriving = bursts.flatMap Burst.arrivals)
    (hwhole : ∀ burst ∈ bursts, burst.Whole transport.quiet transport.timeout)
    (hseparable : ∀ burst ∈ bursts, burst.frame.Separable)
    (hparted : transport.tempo.Parted lineUse.own transport.line.now station bursts) :
    let requests := bursts.map Burst.received
    let answered := station.handleAll lineUse.own requests
    let served := serve lineUse transport station
    frames lineUse transport station = requests ∧
      served.1.sent.map Transmission.octets =
        transport.sent.map Transmission.octets ++ answered.1.map (Headless.encode true) ∧
      served.2 = answered.2 := by
  intro requests answered served
  have hawaits : transport.Awaits transport.tempo bursts :=
    ⟨rfl, hframing, hsilent, hopen, harriving⟩
  have hrounds : bursts.length < transport.line.arriving.length + 1 := by
    have hsome := Burst.length_le_arrivals bursts
    rw [harriving]
    omega
  obtain ⟨hframes, hoctets⟩ := serveWithin_awaited hawaits hwhole
    (fun burst hburst => (hseparable burst hburst).legible) hparted hrounds
  refine ⟨hframes, hoctets, ?_⟩
  have hstation := station_serveWithin lineUse (transport.line.arriving.length + 1) transport
    station
  rwa [hframes] at hstation

/-- On a line that two slaves share, one is asked for a function that it does not have, then the
other one for another such function, and then the first for a register.  In the end the line is
closed. -/
theorem serve_successive_unknown :
    let bursts := [
      Burst.even 0 1145000 ⟨⟨0, 0, 1⟩, [43, 14, 1, 0]⟩,
      Burst.even 26000000 1145000 ⟨⟨0, 0, 9⟩, [144, 1]⟩,
      Burst.even 40000000 1145000 ⟨⟨0, 0, 1⟩, [3, 0, 0, 0, 1]⟩]
    let line : Line := ⟨0, 1000000, bursts.flatMap Burst.arrivals, some 68000000⟩
    let transport :=
      Transport.opened line (.headless true) "line" (some (.ofBaud 9600 none false)) 3000000000
    let station := Station.serving (.ofImages [.cleared 1 4])
    frames .shared transport station =
        [⟨⟨0, 0, 1⟩, [43, 14, 1, 0]⟩, ⟨⟨0, 0, 9⟩, [144, 1]⟩, ⟨⟨0, 0, 1⟩, [3, 0, 0, 0, 1]⟩] ∧
      (serve .shared transport station).1.sent.map Transmission.octets =
        [[1, 171, 1, 158, 240], [1, 3, 2, 0, 0, 184, 68]] := by
  intro bursts line transport station
  have hseparable : ∀ burst ∈ bursts, burst.frame.Separable := by
    simp only [bursts, List.forall_mem_cons]
    exact ⟨Or.inr ⟨43, [14, 1, 0], rfl, rfl⟩, Or.inr ⟨144, [1], rfl, rfl⟩,
      Or.inl ⟨3, [0, 0, 0, 1], .fixed 4, rfl, rfl, rfl⟩, fun burst hnone => by contradiction⟩
  obtain ⟨hframes, hoctets, -⟩ := @serve_successive .shared transport station bursts rfl rfl rfl
    rfl (by decide +kernel) hseparable (by decide +kernel)
  exact ⟨hframes, hoctets.trans (by decide +kernel)⟩

/-- Frames that are spaced are lost all the same behind one of an unknown function, and that one
with them, if the timer of the slave has not rung yet when the next frame begins, or if the
slave comes late and looks for the silence only then.  If the line ends too soon, there is no
silence. -/
theorem unknown_request_merged :
    let unknown := Burst.even 0 1145000 ⟨⟨0, 0, 9⟩, [65, 10]⟩
    let request (start : Nat) := Burst.even start 1145000 ⟨⟨0, 0, 1⟩, [3, 0, 0, 0, 1]⟩
    let transport (now : Nat) (endsAt : Option Nat) (bursts : List Burst) :=
      Transport.opened ⟨now, 1000000, bursts.flatMap Burst.arrivals, endsAt⟩ (.headless true)
        "line" (some (.ofBaud 9600 none false)) 3000000000
    let station := Station.serving (.ofImages [.cleared 1 4])
    let early := transport 0 none [unknown, request 9235000]
    let late := transport 20000000 none [unknown, request 23000000]
    let short := transport 0 (some 9000000) [unknown]
    (∀ burst ∈ [unknown, request 9235000, request 23000000],
        burst.frame.Separable ∧ burst.Whole early.quiet early.timeout) ∧
      (early.tempo.Spaced false 0 station [unknown, request 9235000] ∧
        frames .shared early station = []) ∧
      (late.tempo.Spaced false 20000000 station [unknown, request 23000000] ∧
        frames .shared late station = []) ∧
      short.tempo.Spaced false 0 station [unknown] ∧ frames .shared short station = [] := by
  intro unknown request transport station early late short
  have hseparable (start : Nat) : (request start).frame.Separable :=
    Or.inl ⟨3, [0, 0, 0, 1], .fixed 4, rfl, rfl, rfl⟩
  refine ⟨?_, by decide +kernel⟩
  simp only [List.forall_mem_cons]
  exact ⟨⟨Or.inr ⟨65, [10], rfl, rfl⟩, by decide +kernel⟩, ⟨hseparable _, by decide +kernel⟩,
    ⟨hseparable _, by decide +kernel⟩, fun burst hnone => by contradiction⟩

end Slave

end Modbus
