import Mathlib.Tactic
import Modbus.Proofs.Bursts
import Modbus.Proofs.EndToEnd
import Modbus.Proofs.ServingRounds
import Modbus.Proofs.StationReplies

/-!
# Serving a shared line

On a serial line a slave hears everybody: the requests to other units, and their
answers, which it takes for requests.  It gets over an answer that is as long as the
request it would be, or longer: what is left of it is thrown away with the checksum
that does not fit.  An answer that is shorter keeps it waiting, and then the frame
behind it is lost.
-/

namespace Modbus

/-! ## Units of a shared line -/

namespace Units

/-- Whether there is an image for a unit. -/
def holds (units : Units) (unit : UInt8) : Bool := (units.ofUnit? unit).isSome

theorem resolve_shared (units : Units) (unit : UInt8) :
    units.resolve unit false = units.ofUnit? unit := by
  unfold resolve
  cases units.ofUnit? unit <;> rfl

end Units

namespace Station

/-- An answer does not move an image to another unit. -/
theorem unit_answer (image : Image) (frame : Frame) :
    (answer image frame).2.unit = image.unit := by
  unfold answer
  cases hdecode : Request.decode frame.pdu with
  | error error => rfl
  | ok request =>
      obtain ⟨-, hvalidate, -⟩ := (Request.decode_eq_ok_iff _ request).mp hdecode
      have hvalid := (Request.validate_eq_ok_iff request ()).mp hvalidate
      cases hfunction : request.function? with
      | none =>
          cases request with
          | unsupported code data => rfl
          | _ => contradiction
      | some function =>
          dsimp only
          rw [Image.respond_snd hvalid (by rw [hfunction]; rfl), Image.unit_direct]

section Shared

variable {station : Station} {frame : Frame}

theorem handle_foreign (hforeign : station.units.holds frame.header.unitId = false) :
    station.handle false frame = (none, station) := by
  rw [Units.holds, Option.isSome_eq_false_iff, Option.isNone_iff_eq_none] at hforeign
  rw [handle_unresolved (by rw [Units.resolve_shared, hforeign])]
  rfl

/-- A frame for a unit that is there is answered, and afterwards the same units are there. -/
theorem handle_held (hunits : station.units.Consistent)
    (hheld : station.units.holds frame.header.unitId = true) :
    ∃ reply after, station.handle false frame = (some reply, after) ∧
      after.units.Consistent ∧ after.units.holds = station.units.holds := by
  obtain ⟨image, himage⟩ := Option.isSome_iff_exists.mp hheld
  have hresolve : station.units.resolve frame.header.unitId false = some image := by
    rw [Units.resolve_shared, himage]
  refine ⟨_, _, handle_resolved hresolve, hunits.add _, ?_⟩
  funext unit
  have hsame : (answer image frame).2.unit = frame.header.unitId := by
    rw [unit_answer, hunits _ _ himage]
  simp only [Units.holds, Units.ofUnit?_add, hsame]
  split
  next hunit => rw [hunit, himage]; rfl
  next => rfl

end Shared

end Station

/-! ## Times on a line -/

namespace Burst

def received (burst : Burst) : Frame := (Framing.headless true).received burst.frame

/-- A burst whose octets follow each other at an even pace. -/
def even (start step : Nat) (frame : Frame) : Burst where
  frame := frame
  first := (start, frame.header.unitId)
  others := ((Headless.encode true frame).tail.zipIdx 1).map fun (octet, index) =>
    (start + step * index, octet)

def belongs (holds : UInt8 → Bool) (burst : Burst) : Bool := holds burst.frame.header.unitId

end Burst

/-- What the times on a serial line depend on. -/
structure Pace where
  resolution : Nat
  timing : Timing
  timeout : Nat

namespace Pace

/-- The silence between two frames. -/
def quiet (pace : Pace) : Nat := max pace.timing.messageGap pace.timing.characterGap

/-- When a frame has been read that is taken as it is. -/
def heardAt (pace : Pace) (burst : Burst) : Nat :=
  burst.heardAt pace.resolution pace.quiet pace.timeout

/-- When the answer to a frame leaves. -/
def answeredAt (pace : Pace) (burst : Burst) : Nat :=
  Line.ring pace.resolution (pace.heardAt burst) (pace.heardAt burst + pace.timing.messageGap)

def overAt (pace : Pace) (burst : Burst) : Nat := burst.overAt pace.resolution pace.quiet

/-- When the line is free for the next burst: once the answer has left if there is one, and
else once the line has been silent. -/
def freeAt (pace : Pace) (holds : UInt8 → Bool) (burst : Burst) : Nat :=
  if burst.belongs holds then pace.answeredAt burst else pace.overAt burst

theorem heardAt_le_answeredAt (pace : Pace) (burst : Burst) :
    pace.heardAt burst ≤ pace.answeredAt burst :=
  Line.since_le_ring _ _ _

theorem heardAt_le_overAt (pace : Pace) (burst : Burst) :
    pace.heardAt burst ≤ pace.overAt burst :=
  burst.heardAt_le_overAt _ _ _

end Pace

/-! ## One burst after another -/

theorem Burst.head?_arrivals {bursts : List Burst} {bound : Nat}
    (hbound : ∀ burst ∈ bursts.head?, bound ≤ burst.start) :
    ∀ arrival ∈ (bursts.flatMap Burst.arrivals).head?, bound ≤ arrival.1 := by
  cases bursts with
  | nil =>
      intro arrival harrival
      contradiction
  | cons burst bursts =>
      intro arrival harrival
      obtain rfl := Option.some.inj harrival
      exact hbound burst rfl

theorem Burst.start_head? (bursts : List Burst) :
    (bursts.flatMap Burst.arrivals).head?.map Prod.fst = bursts.head?.map Burst.start := by
  cases bursts <;> rfl

theorem Burst.length_le_arrivals (bursts : List Burst) :
    bursts.length ≤ (bursts.flatMap Burst.arrivals).length := by
  induction bursts with
  | nil => exact le_refl 0
  | cons burst bursts ih =>
      rw [List.flatMap_cons, List.length_append, Burst.arrivals, List.length_cons, List.length_cons]
      omega

namespace Transport

/-- A slave follows the bursts on a serial line that has no echo and does not end. -/
structure Follows (transport : Transport) (pace : Pace) (bursts : List Burst) : Prop where
  framing : transport.framing = .headless true
  timing : transport.timing = some pace.timing
  silent : pace.timing.echo = false
  timeout : transport.timeout = pace.timeout
  resolution : transport.line.resolution = pace.resolution
  endless : transport.line.endsAt = none
  stillOpen : transport.closed = false
  arriving : transport.line.arriving = bursts.flatMap Burst.arrivals
  before : ∀ burst ∈ bursts.head?, transport.line.now ≤ burst.start

namespace Follows

variable {transport : Transport} {pace : Pace} {burst : Burst} {bursts : List Burst}

theorem quiet_eq (hfollows : transport.Follows pace bursts) : transport.quiet = pace.quiet := by
  rw [quiet, hfollows.timing, Pace.quiet]

theorem timed (hfollows : transport.Follows pace bursts) : transport.timing.isSome := by
  rw [hfollows.timing, Option.isSome_some]

theorem hears (hfollows : transport.Follows pace (burst :: bursts))
    (hwhole : burst.Whole pace.quiet pace.timeout) :
    transport.Hears burst (bursts.flatMap Burst.arrivals) where
  framing := hfollows.framing
  arriving := hfollows.arriving
  whole := by rw [hfollows.quiet_eq, hfollows.timeout]; exact hwhole
  before := hfollows.before burst rfl

/-- Once some bursts are over those behind them are followed. -/
theorem reached {others : List Burst} (hfollows : transport.Follows pace others) {time : Nat}
    (hbefore : ∀ next ∈ bursts.head?, time ≤ next.start) :
    (transport.reached time (bursts.flatMap Burst.arrivals)).active.Follows pace bursts :=
  ⟨hfollows.framing, hfollows.timing, hfollows.silent, hfollows.timeout, hfollows.resolution,
    hfollows.endless, hfollows.stillOpen, rfl, hbefore⟩

theorem read_legible (hfollows : transport.Follows pace (burst :: bursts))
    (hwhole : burst.Whole pace.quiet pace.timeout) (hlegible : burst.frame.Legible)
    (hbefore : ∀ next ∈ bursts.head?, pace.heardAt burst ≤ next.start) :
    read .request transport =
      (.ok ((Framing.headless true).received burst.frame),
        (transport.reached (pace.heardAt burst) (bursts.flatMap Burst.arrivals)).active) := by
  have hhears := hfollows.hears hwhole
  have hheard : transport.readAt burst = pace.heardAt burst := by
    rw [readAt, Burst.readAt_eq_heardAt hhears.whole hhears.before, hfollows.resolution,
      hfollows.quiet_eq, hfollows.timeout]
    rfl
  have hsilent : ∀ time ∈ ((bursts.flatMap Burst.arrivals).head?.map Prod.fst).or
      transport.line.endsAt, transport.readAt burst ≤ time := by
    intro time htime
    rw [hfollows.endless, Option.or_none, Burst.start_head?] at htime
    obtain ⟨next, hnext, rfl⟩ := Option.map_eq_some_iff.mp htime
    rw [hheard]
    exact hbefore next hnext
  have hread := hhears.read_legible hlegible fun _ => hsilent
  rwa [hfollows.framing, hheard] at hread

theorem read_garbled (hfollows : transport.Follows pace (burst :: bursts))
    (hwhole : burst.Whole pace.quiet pace.timeout) (hgarbled : burst.frame.Garbled)
    (hbefore : ∀ next ∈ bursts.head?, pace.overAt burst ≤ next.start) :
    ∃ fault, read .request transport =
      (.error (.failed (.protocol fault)),
        (transport.reached (pace.overAt burst) (bursts.flatMap Burst.arrivals)).active) := by
  have hhears := hfollows.hears hwhole
  have hover : burst.overAt transport.line.resolution transport.quiet = pace.overAt burst := by
    rw [hfollows.resolution, hfollows.quiet_eq]
    rfl
  obtain ⟨count, hspan, hcount, fault, hverify⟩ := hgarbled
  have hread := hhears.read_damaged hfollows.timed hfollows.endless hspan hcount hverify
    (by rw [hover]; exact Burst.head?_arrivals hbefore)
  rw [hover] at hread
  exact ⟨fault, hread⟩

/-- The answer to a frame leaves after the silence between messages, and then the line is
followed again. -/
theorem answered (hfollows : transport.Follows pace (burst :: bursts)) (reply : List UInt8)
    (hbefore : ∀ next ∈ bursts.head?, pace.answeredAt burst ≤ next.start) :
    let heard := (transport.reached (pace.heardAt burst) (bursts.flatMap Burst.arrivals)).active
    (heard.answered reply).Follows pace bursts ∧
      (heard.answered reply).sent =
        transport.sent ++ [⟨pace.answeredAt burst, reply⟩] := by
  intro heard
  have hdeparture : heard.departure = pace.answeredAt burst := by
    have htiming : heard.timing = some pace.timing := hfollows.timing
    have hlast : heard.lastActivity = some (pace.heardAt burst) := rfl
    have hresolution : heard.line.resolution = pace.resolution := hfollows.resolution
    simp only [departure, waitGap, htiming, hlast, Line.sleepUntil, Line.expiry_eq_ring,
      hresolution]
    rfl
  refine ⟨⟨hfollows.framing, hfollows.timing, hfollows.silent, hfollows.timeout,
    hfollows.resolution, hfollows.endless, hfollows.stillOpen, rfl, ?_⟩, ?_⟩
  · show ∀ next ∈ bursts.head?, heard.departure ≤ next.start
    rw [hdeparture]
    exact hbefore
  · show heard.sent ++ [⟨heard.departure, reply⟩] = _
    rw [hdeparture]
    rfl

end Follows

end Transport

namespace Slave

variable {rounds : Nat} {transport : Transport} {pace : Pace} {burst : Burst}
  {bursts : List Burst} {station : Station}

/-- A frame that belongs to another unit is passed over, whether it can be read or not. -/
theorem serveWithin_foreign (hfollows : transport.Follows pace (burst :: bursts))
    (hwhole : burst.Whole pace.quiet pace.timeout)
    (hforeign : burst.belongs station.units.holds = false)
    (hpasses : burst.frame.Legible ∨ burst.frame.Garbled)
    (hbefore : ∀ next ∈ bursts.head?, pace.overAt burst ≤ next.start) (rounds : Nat) :
    ∃ between : Transport, between.Follows pace bursts ∧ between.sent = transport.sent ∧
      serveWithin .shared (rounds + 1) transport station =
        serveWithin .shared rounds between station := by
  rcases hpasses with hlegible | hgarbled
  · have hearlier : ∀ next ∈ bursts.head?, pace.heardAt burst ≤ next.start :=
      fun next hnext => (pace.heardAt_le_overAt burst).trans (hbefore next hnext)
    have hread := hfollows.read_legible hwhole hlegible hearlier
    have hhandle : station.handle LineUse.shared.own burst.received = (none, station) :=
      Station.handle_foreign hforeign
    exact ⟨_, hfollows.reached hearlier, rfl, serveWithin_ignored hread hhandle⟩
  · obtain ⟨fault, hread⟩ := hfollows.read_garbled hwhole hgarbled hbefore
    exact ⟨_, hfollows.reached hbefore, rfl, serveWithin_survived hread rfl⟩

/-- What follows a frame that is too short is lost with it, whoever it is meant for. -/
theorem serveWithin_swallowed {next : Burst} {count : Nat} {fault : ProtocolFault}
    (hfollows : transport.Follows pace (burst :: next :: bursts))
    (hwhole : burst.Whole pace.quiet pace.timeout) (hnext : next.Whole pace.quiet pace.timeout)
    (hafter : burst.ending ≤ next.start) (hintime : next.ending < burst.start + pace.timeout)
    (hspan : Headless.requestSpan (burst.octets ++ next.octets) = some count)
    (hmore : burst.octets.length < count)
    (hcount : count ≤ (burst.octets ++ next.octets).length)
    (hroom : count ≤ Transport.bufferSize)
    (hdecode : Headless.decode true ((burst.octets ++ next.octets).take count) = .error fault)
    (hbefore : ∀ later ∈ bursts.head?, pace.overAt next ≤ later.start) (rounds : Nat) :
    ∃ between : Transport, between.Follows pace bursts ∧ between.sent = transport.sent ∧
      serveWithin .shared (rounds + 1) transport station =
        serveWithin .shared rounds between station := by
  have hhears : transport.Hears burst (next.arrivals ++ bursts.flatMap Burst.arrivals) :=
    hfollows.hears hwhole
  have hover : next.overAt transport.line.resolution transport.quiet = pace.overAt next := by
    rw [hfollows.resolution, hfollows.quiet_eq]
    rfl
  have hread := hhears.read_swallowed hfollows.timed hfollows.endless
    (by rw [hfollows.quiet_eq, hfollows.timeout]; exact hnext)
    hafter (by rw [hfollows.timeout]; exact hintime) hspan hmore hcount hroom hdecode
    (by rw [hover]; exact Burst.head?_arrivals hbefore)
  rw [hover] at hread
  have hsurvives : LineUse.shared.survives transport.framing.isHeadless (.protocol fault) = true :=
    rfl
  exact ⟨_, hfollows.reached hbefore, rfl, serveWithin_survived hread hsurvives⟩

/-- A frame that belongs to a unit of the slave is answered once. -/
theorem serveWithin_own (hfollows : transport.Follows pace (burst :: bursts))
    (hwhole : burst.Whole pace.quiet pace.timeout) (hlegible : burst.frame.Legible)
    (hown : burst.belongs station.units.holds = true) (hunits : station.units.Consistent)
    (hbefore : ∀ next ∈ bursts.head?, pace.answeredAt burst ≤ next.start) (rounds : Nat) :
    ∃ reply after, station.handle false burst.received = (some reply, after) ∧
      after.units.Consistent ∧ after.units.holds = station.units.holds ∧
      ∃ between : Transport, between.Follows pace bursts ∧
        between.sent = transport.sent ++ [⟨pace.answeredAt burst, Headless.encode true reply⟩] ∧
        serveWithin .shared (rounds + 1) transport station =
          serveWithin .shared rounds between after := by
  have hread := hfollows.read_legible hwhole hlegible fun next hnext =>
    (pace.heardAt_le_answeredAt burst).trans (hbefore next hnext)
  obtain ⟨reply, after, hhandle, hconsistent, hholds⟩ : ∃ reply after,
      station.handle LineUse.shared.own burst.received = (some reply, after) ∧
        after.units.Consistent ∧ after.units.holds = station.units.holds :=
    Station.handle_held hunits hown
  obtain ⟨hnext, hsent⟩ := hfollows.answered (Headless.encode true reply) hbefore
  have hsilent : transport.timing.any Timing.echo = false := by
    rw [hfollows.timing]
    exact hfollows.silent
  have hencode : (transport.reached (pace.heardAt burst)
      (bursts.flatMap Burst.arrivals)).active.framing.encode reply = Headless.encode true reply :=
    congrArg (Framing.encode · reply) hfollows.framing
  refine ⟨reply, after, hhandle, hconsistent, hholds, _, hnext, hsent, ?_⟩
  rw [serveWithin_answered hread hhandle hfollows.stillOpen hsilent, hencode]

/-- Of the bursts on a shared line those for the units of a slave are answered, one after
another, and the others are passed over. -/
theorem serveWithin_bursts (hfollows : transport.Follows pace bursts)
    (hwhole : ∀ burst ∈ bursts, burst.Whole pace.quiet pace.timeout)
    (hpasses : ∀ burst ∈ bursts, burst.frame.Legible ∨
      burst.belongs station.units.holds = false ∧ burst.frame.Garbled)
    (hspaced : bursts.IsChain fun burst next =>
      pace.freeAt station.units.holds burst ≤ next.start)
    (hunits : station.units.Consistent) (hrounds : bursts.length < rounds) :
    ∃ last : Transport,
      serveWithin .shared rounds transport station = (last, (station.handleAll false
        ((bursts.filter (Burst.belongs station.units.holds)).map Burst.received)).2) ∧
      last.sent.map Transmission.octets = transport.sent.map Transmission.octets ++
        (station.handleAll false ((bursts.filter (Burst.belongs station.units.holds)).map
          Burst.received)).1.map (Headless.encode true) ∧
      last.sent.map Transmission.time = transport.sent.map Transmission.time ++
        (bursts.filter (Burst.belongs station.units.holds)).map pace.answeredAt := by
  induction bursts generalizing rounds transport station with
  | nil =>
      obtain ⟨rounds, rfl⟩ := Nat.exists_eq_add_one_of_ne_zero (Nat.ne_zero_of_lt hrounds)
      have hread := Transport.read_request_idle hfollows.arriving hfollows.endless
      have hgivesUp (error : Error) (hfailed : Halt.waiting = .failed error) :
          LineUse.shared.survives transport.active.framing.isHeadless error = false := by
        contradiction
      obtain ⟨last, hlast, hserved⟩ := serveWithin_ended hread hgivesUp
      refine ⟨last, hserved, ?_, ?_⟩ <;> rw [hlast] <;> exact (List.append_nil _).symm
  | cons burst bursts ih =>
      obtain ⟨rounds, rfl⟩ := Nat.exists_eq_add_one_of_ne_zero (Nat.ne_zero_of_lt hrounds)
      obtain ⟨hthis, hothers⟩ := List.forall_mem_cons.mp hwhole
      obtain ⟨hpass, hlater⟩ := List.forall_mem_cons.mp hpasses
      obtain ⟨hfree, hrest⟩ := List.isChain_cons.mp hspaced
      have hless := Nat.lt_of_succ_lt_succ hrounds
      cases hbelongs : burst.belongs station.units.holds with
      | false =>
          have hover : pace.freeAt station.units.holds burst = pace.overAt burst := by
            rw [Pace.freeAt, hbelongs]
            rfl
          rw [hover] at hfree
          obtain ⟨between, hbetween, hsame, hround⟩ :=
            serveWithin_foreign hfollows hthis hbelongs (hpass.imp_right And.right) hfree rounds
          rw [hround, ← hsame, List.filter_cons_of_neg (by rw [hbelongs]; exact Bool.false_ne_true)]
          exact ih hbetween hothers hlater hrest hunits hless
      | true =>
          have hanswered : pace.freeAt station.units.holds burst = pace.answeredAt burst := by
            rw [Pace.freeAt, hbelongs]
            rfl
          rw [hanswered] at hfree
          have hlegible : burst.frame.Legible :=
            hpass.resolve_right fun hgarbled => by
              rw [hbelongs] at hgarbled
              exact Bool.noConfusion hgarbled.1
          obtain ⟨reply, after, hhandle, hconsistent, hholds, between, hbetween, hsent, hround⟩ :=
            serveWithin_own hfollows hthis hlegible hbelongs hunits hfree rounds
          -- Afterwards the same units are there, so what is left belongs as before.
          rw [← hholds] at hlater hrest
          obtain ⟨last, hserved, hoctets, htimes⟩ :=
            ih hbetween hothers hlater hrest hconsistent hless
          rw [hholds] at hserved hoctets htimes
          rw [List.filter_cons_of_pos hbelongs, List.map_cons, List.map_cons,
            Station.handleAll_answered hhandle, List.map_cons]
          refine ⟨last, hround.trans hserved, ?_, ?_⟩
          · rw [hoctets, hsent, List.map_append, List.append_assoc]
            rfl
          · rw [htimes, hsent, List.map_append, List.append_assoc]
            rfl

/-- A slave on a line that it shares answers every request to one of its units, once and in
order, when there was silence for long enough, and sends nothing else.  Neither requests to
other units keep it from that nor those answers of other units that are harmless. -/
theorem serve_shared (line : Line) (peer : String) {pace : Pace} {station : Station}
    {bursts : List Burst} (hunits : station.units.Consistent)
    (hsilent : pace.timing.echo = false) (hresolution : line.resolution = pace.resolution)
    (hendless : line.endsAt = none) (harriving : line.arriving = bursts.flatMap Burst.arrivals)
    (hbefore : ∀ burst ∈ bursts.head?, line.now ≤ burst.start)
    (hwhole : ∀ burst ∈ bursts, burst.Whole pace.quiet pace.timeout)
    (htraffic : ∀ burst ∈ bursts, burst.frame.IsRequest ∨
      burst.belongs station.units.holds = false ∧ burst.frame.IsHarmlessAnswer)
    (hspaced : bursts.IsChain fun burst next =>
      pace.freeAt station.units.holds burst ≤ next.start) :
    let served := serve .shared
      (.opened line (.headless true) peer (some pace.timing) pace.timeout) station
    let own := bursts.filter (Burst.belongs station.units.holds)
    let answered := station.handleAll false (own.map Burst.received)
    served.1.sent.map Transmission.octets = answered.1.map (Headless.encode true) ∧
      served.1.sent.map Transmission.time = own.map pace.answeredAt ∧
      served.2 = answered.2 := by
  have hfollows :
      (Transport.opened line (.headless true) peer (some pace.timing) pace.timeout).Follows
        pace bursts :=
    ⟨rfl, rfl, hsilent, rfl, hresolution, hendless, rfl, harriving, hbefore⟩
  have hpasses : ∀ burst ∈ bursts, burst.frame.Legible ∨
      burst.belongs station.units.holds = false ∧ burst.frame.Garbled := by
    intro burst hburst
    rcases htraffic burst hburst with hrequest | ⟨hforeign, hharmless⟩
    · exact Or.inl (Frame.legible_of_isRequest hrequest)
    · exact hharmless.passes.imp_right fun hgarbled => ⟨hforeign, hgarbled⟩
  have hrounds : bursts.length < line.arriving.length + 1 := by
    have hsome := Burst.length_le_arrivals bursts
    rw [harriving]
    omega
  obtain ⟨last, hserved, hoctets, htimes⟩ :=
    serveWithin_bursts hfollows hwhole hpasses hspaced hunits hrounds
  intro served own answered
  have hlast : served = (last, answered.2) := hserved
  rw [hlast]
  exact ⟨hoctets, htimes, rfl⟩

/-- A master reads two registers of unit 2 and then one of unit 1. -/
theorem serve_shared_long_answer :
    let pace : Pace := ⟨1000000, .ofBaud 9600 none false, 3000000000⟩
    let station := Station.serving (.ofImages [.cleared 1 4])
    let bursts := [
      Burst.even 0 1145000 ⟨⟨0, 0, 2⟩, (Request.readHoldingRegisters 0 2).encode⟩,
      Burst.even 14000000 1145000 ⟨⟨0, 0, 2⟩, (Response.readHoldingRegisters [5, 6]).encode⟩,
      Burst.even 30000000 1145000 ⟨⟨0, 0, 1⟩, (Request.readHoldingRegisters 0 1).encode⟩]
    let line : Line := ⟨0, 1000000, bursts.flatMap Burst.arrivals, none⟩
    let served := serve .shared
      (.opened line (.headless true) "line" (some pace.timing) pace.timeout) station
    served.1.sent.map Transmission.octets = [[1, 3, 2, 0, 0, 184, 68]] ∧
      served.1.sent.map Transmission.time = [43000000] ∧ served.2.stats = ⟨0, 1, 0⟩ := by
  intro pace station bursts line
  have hunits : station.units.Consistent := Units.consistent_ofImages _
  have hwhole : ∀ burst ∈ bursts, burst.Whole pace.quiet pace.timeout := by decide +kernel
  have hrequest (unit : UInt8) (count : UInt16)
      (hvalid : (Request.readHoldingRegisters 0 count).validate = .ok ()) :
      (Frame.mk ⟨0, 0, unit⟩ (Request.readHoldingRegisters 0 count).encode).IsRequest :=
    Or.inl ⟨_, hvalid, rfl, rfl⟩
  have hharmless : (Frame.mk ⟨0, 0, 2⟩
      (Response.readHoldingRegisters [5, 6]).encode).IsHarmlessAnswer := by
    have hfits : (Response.readHoldingRegisters [5, 6]).Fits := by
      show 2 ≤ 127
      decide
    have hlate : ¬(Response.readHoldingRegisters [5, 6]).EndsEarly := by
      show ¬2 ≤ 1
      decide
    refine ⟨⟨_, rfl, hfits, hlate⟩, fun count hspan _ => ?_⟩
    have height : Headless.requestSpan (Headless.encode true
        ⟨⟨0, 0, 2⟩, (Response.readHoldingRegisters [5, 6]).encode⟩) = some 8 := by decide +kernel
    obtain rfl := Option.some.inj (height.symm.trans hspan)
    exact ⟨.checksum 39239 22790, by decide +kernel⟩
  have htraffic : ∀ burst ∈ bursts, burst.frame.IsRequest ∨
      burst.belongs station.units.holds = false ∧ burst.frame.IsHarmlessAnswer := by
    simp only [bursts, List.forall_mem_cons]
    exact ⟨Or.inl (hrequest 2 2 rfl), Or.inr ⟨by decide +kernel, hharmless⟩,
      Or.inl (hrequest 1 1 rfl), fun burst hnone => by contradiction⟩
  obtain ⟨hoctets, htimes, hstation⟩ := serve_shared line "line" hunits rfl rfl rfl rfl
    (by decide +kernel) hwhole htraffic (by decide +kernel)
  refine ⟨hoctets.trans ?_, htimes.trans ?_, (congrArg Station.stats hstation).trans ?_⟩ <;>
    decide +kernel

/-- The same with one register of unit 2: the answer is one octet shorter than a request, so
that the slave waits for that octet, and the request that follows is lost. -/
theorem serve_shared_short_answer :
    let pace : Pace := ⟨1000000, .ofBaud 9600 none false, 3000000000⟩
    let station := Station.serving (.ofImages [.cleared 1 4])
    let bursts := [
      Burst.even 0 1145000 ⟨⟨0, 0, 2⟩, (Request.readHoldingRegisters 0 1).encode⟩,
      Burst.even 14000000 1145000 ⟨⟨0, 0, 2⟩, (Response.readHoldingRegisters [5]).encode⟩,
      Burst.even 30000000 1145000 ⟨⟨0, 0, 1⟩, (Request.readHoldingRegisters 0 1).encode⟩]
    let line : Line := ⟨0, 1000000, bursts.flatMap Burst.arrivals, none⟩
    let served := serve .shared
      (.opened line (.headless true) "line" (some pace.timing) pace.timeout) station
    (∀ burst ∈ bursts, burst.Whole pace.quiet pace.timeout) ∧
      bursts.IsChain (fun burst next => pace.freeAt station.units.holds burst ≤ next.start ∧
        burst.ending + pace.quiet < next.start) ∧
      bursts.map (Burst.belongs station.units.holds) = [false, false, true] ∧
      served.1.sent = [] ∧ served.2.stats = ⟨0, 0, 0⟩ := by
  decide +kernel

end Slave

end Modbus
