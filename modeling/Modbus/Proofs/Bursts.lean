import Mathlib.Tactic
import Modbus.Proofs.Overhearing
import Modbus.Proofs.Silences

/-!
# Bursts

On a serial line the octets of a frame come in a burst, and between bursts there is
silence.  A frame of a known function is read without waiting for the silence behind
it.  One of an unknown function ends with it, and so does what is thrown away after
a damaged frame.
-/

namespace Modbus

/-! ## Bursts -/

/-- A frame and the octets in which it arrives, each at its time. -/
structure Burst where
  frame : Frame
  first : Nat × UInt8
  others : List (Nat × UInt8)

namespace Burst

def arrivals (burst : Burst) : List (Nat × UInt8) := burst.first :: burst.others

def start (burst : Burst) : Nat := burst.first.1

def ending (burst : Burst) : Nat := Line.lastTime burst.start burst.others

/-- The octets of the frame, with its checksum. -/
def octets (burst : Burst) : List UInt8 := Headless.encode true burst.frame

/-- A burst brings a whole frame, with no silence inside it and in time. -/
structure Whole (quiet timeout : Nat) (burst : Burst) : Prop where
  brings : burst.arrivals.map Prod.snd = burst.octets
  nonempty : 1 ≤ burst.frame.pdu.length
  short : burst.frame.pdu.length ≤ Limits.pdu
  steady : Line.Steady quiet burst.start burst.others
  timely : burst.ending < burst.start + timeout

instance (quiet timeout : Nat) (burst : Burst) : Decidable (burst.Whole quiet timeout) :=
  decidable_of_iff
    (burst.arrivals.map Prod.snd = burst.octets ∧ 1 ≤ burst.frame.pdu.length ∧
      burst.frame.pdu.length ≤ Limits.pdu ∧ Line.Steady quiet burst.start burst.others ∧
      burst.ending < burst.start + timeout)
    ⟨fun ⟨hbrings, hnonempty, hshort, hsteady, htimely⟩ =>
        ⟨hbrings, hnonempty, hshort, hsteady, htimely⟩,
      fun hwhole => ⟨hwhole.brings, hwhole.nonempty, hwhole.short, hwhole.steady, hwhole.timely⟩⟩

namespace Whole

variable {quiet timeout : Nat} {burst : Burst}

theorem length_octets (hwhole : burst.Whole quiet timeout) :
    burst.octets.length = burst.others.length + 1 := by
  rw [← hwhole.brings, List.length_map, arrivals, List.length_cons]

theorem four_le (hwhole : burst.Whole quiet timeout) : 4 ≤ burst.octets.length := by
  have hsome := hwhole.nonempty
  rw [Burst.octets, Headless.length_encode, if_pos rfl]
  omega

/-- A frame begins with a unit and a function code. -/
theorem exists_octets (hwhole : burst.Whole quiet timeout) :
    ∃ unit code payload, burst.octets = unit :: code :: payload := by
  have hfour := hwhole.four_le
  generalize burst.octets = octets at hfour ⊢
  rcases octets with _ | ⟨unit, _ | ⟨code, payload⟩⟩
  · contradiction
  · rw [List.length_singleton] at hfour
    contradiction
  · exact ⟨unit, code, payload, rfl⟩

theorem length_le (hwhole : burst.Whole quiet timeout) :
    burst.octets.length ≤ Limits.serialFrame := by
  have hshort := hwhole.short
  simp only [Limits.pdu] at hshort
  rw [Burst.octets, Headless.length_encode, if_pos rfl, Limits.serialFrame]
  omega

theorem quiet_pos (hwhole : burst.Whole quiet timeout) : 0 < quiet := by
  have hlength := hwhole.length_octets
  have hfour := hwhole.four_le
  have hsteady := hwhole.steady
  cases hothers : burst.others with
  | nil =>
      rw [hothers, List.length_nil] at hlength
      omega
  | cons second others =>
      rw [hothers] at hsteady
      have hsecond := hsteady.1
      have hbefore := hsteady.2.1
      omega

theorem start_le_ending (hwhole : burst.Whole quiet timeout) : burst.start ≤ burst.ending :=
  hwhole.steady.le_lastTime

end Whole

end Burst

namespace Transport

variable {transport : Transport} {burst : Burst} {rest : List (Nat × UInt8)}

/-- The transport once a time has come and only some of the octets are still to come. -/
def reached (time : Nat) (rest : List (Nat × UInt8)) (transport : Transport) : Transport :=
  { transport with line := { transport.line with now := time, arriving := rest } }

/-- What a reader finds next on a line is a burst, whether the reader is there before it or not. -/
structure Offers (transport : Transport) (burst : Burst) (rest : List (Nat × UInt8)) : Prop where
  framing : transport.framing = .headless true
  arriving : transport.line.arriving = burst.arrivals ++ rest
  whole : burst.Whole transport.quiet transport.timeout

namespace Offers

theorem length_arrivals (hoffers : transport.Offers burst rest) :
    burst.arrivals.length = burst.octets.length := by
  rw [← hoffers.whole.brings, List.length_map]

theorem awaiting_eq (hoffers : transport.Offers burst rest) :
    transport.awaiting = burst.octets ++ rest.map Prod.snd := by
  rw [awaiting, hoffers.arriving, List.map_append, hoffers.whole.brings]

/-- The first octet has been taken. -/
theorem past_one (hoffers : transport.Offers burst rest) :
    (transport.past 1).line.arriving = burst.others ++ rest ∧
      (transport.past 1).line.now = max transport.line.now burst.start := by
  constructor
  · simp [past, Line.past, hoffers.arriving, Burst.arrivals]
  · simp [past, Line.past, hoffers.arriving, Burst.arrivals, Burst.start]

theorem deadline_eq (hoffers : transport.Offers burst rest) :
    transport.deadline .request =
      max transport.line.now burst.start + transport.timeout := by
  rw [deadline, hoffers.past_one.2]

theorem ending_lt_deadline (hoffers : transport.Offers burst rest) :
    burst.ending < transport.deadline .request := by
  have htimely := hoffers.whole.timely
  rw [hoffers.deadline_eq]
  omega

theorem now_lt_deadline (hoffers : transport.Offers burst rest) :
    transport.line.now < transport.deadline .request := by
  have htimely := hoffers.whole.timely
  have horder := hoffers.whole.start_le_ending
  rw [hoffers.deadline_eq]
  omega

theorem prompt_of_ending_lt (hoffers : transport.Offers burst rest) {limit : Nat}
    (hlimit : burst.ending < limit) :
    transport.line.Prompt burst.octets.length (some limit) := by
  intro arrival harrival time htime
  obtain rfl := Option.mem_some_iff.mp htime
  rw [hoffers.arriving, ← hoffers.length_arrivals, List.take_left, Burst.arrivals] at harrival
  rcases List.mem_cons.mp harrival with rfl | hother
  · exact hoffers.whole.start_le_ending.trans_lt hlimit
  · exact (hoffers.whole.steady.mem_le_lastTime arrival hother).trans_lt hlimit

theorem prompt (hoffers : transport.Offers burst rest) :
    transport.line.Prompt burst.octets.length (some (transport.deadline .request)) :=
  hoffers.prompt_of_ending_lt hoffers.ending_lt_deadline

/-- When the first octets of a burst have been taken, the others follow unbroken. -/
theorem unbroken_past (hoffers : transport.Offers burst rest) {count : Nat} (hsome : 1 ≤ count)
    (hcount : count ≤ burst.octets.length) :
    (transport.past count).line.arriving = burst.arrivals.drop count ++ rest ∧
      Line.Unbroken transport.quiet (transport.past count).line.now
        (burst.arrivals.drop count) := by
  obtain ⟨count, rfl⟩ := Nat.exists_eq_add_of_le' hsome
  obtain ⟨hleft, hnow⟩ := hoffers.past_one
  have hunbroken := hoffers.whole.steady.unbroken transport.line.now
  rw [← hnow] at hunbroken
  rw [hoffers.whole.length_octets] at hcount
  have hothers := hunbroken.past hleft (Nat.le_of_succ_le_succ hcount)
  have hpast : (transport.past 1).line.past count = (transport.past (count + 1)).line := by
    rw [Nat.add_comm, ← past_past]
    rfl
  rwa [hpast] at hothers

/-- The transport behind a burst. -/
theorem past_eq (hoffers : transport.Offers burst rest) :
    transport.past burst.octets.length =
      transport.reached (max transport.line.now burst.ending) rest := by
  have hclock : burst.arrivals.foldl (fun now arrival => max now arrival.1) transport.line.now =
      max transport.line.now burst.ending :=
    hoffers.whole.steady.foldl_max transport.line.now
  rw [← hoffers.length_arrivals, past, Line.past, hoffers.arriving, List.take_left,
    List.drop_left, hclock]
  rfl

end Offers

/-- A line brings a burst next, to a reader that is there before it. -/
structure Hears (transport : Transport) (burst : Burst) (rest : List (Nat × UInt8)) : Prop
    extends transport.Offers burst rest where
  before : transport.line.now ≤ burst.start

namespace Hears

/-- When the first octets of a burst have been taken, the others are still as steady. -/
theorem past (hhears : transport.Hears burst rest) {count : Nat} (hsome : 1 ≤ count)
    (hcount : count ≤ burst.octets.length) :
    (transport.past count).line.arriving = burst.arrivals.drop count ++ rest ∧
      Line.Steady transport.quiet (transport.past count).line.now (burst.arrivals.drop count) ∧
      Line.lastTime (transport.past count).line.now (burst.arrivals.drop count) =
        burst.ending := by
  obtain ⟨count, rfl⟩ := Nat.exists_eq_add_of_le' hsome
  rw [hhears.whole.length_octets] at hcount
  obtain ⟨hleft, hnow⟩ := hhears.past_one
  rw [Nat.max_eq_right hhears.before] at hnow
  have hpast := Line.Steady.past hleft (by rw [hnow]; exact hhears.whole.steady)
    (Nat.le_of_succ_le_succ hcount)
  rw [hnow, Transport.past, Line.past_past, Nat.add_comm 1 count] at hpast
  exact hpast

theorem deadline_eq (hhears : transport.Hears burst rest) :
    transport.deadline .request = burst.start + transport.timeout := by
  rw [hhears.toOffers.deadline_eq, Nat.max_eq_right hhears.before]

end Hears

/-! ## Reading up to a silence -/

/-- Unbroken octets are taken as the rest of a frame, up to the silence behind them. -/
theorem untilQuiet_eq {frame : List UInt8} {deadline last : Nat} {arrivals : List (Nat × UInt8)}
    (harriving : transport.line.arriving = arrivals ++ rest)
    (hunbroken : Line.Unbroken transport.quiet transport.line.now arrivals)
    (hlast : (transport.line.past arrivals.length).now = last) (hquiet : 0 < transport.quiet)
    (hdeadline : last < deadline) (hroom : frame.length + arrivals.length ≤ Limits.serialFrame)
    (hsilent : ∀ time ∈ (rest.head?.map Prod.fst).or transport.line.endsAt,
      Line.overAt transport.line.resolution transport.quiet (some deadline) last ≤ time) :
    untilQuiet frame deadline transport =
      (.ok (frame ++ arrivals.map Prod.snd), transport.reached
        (Line.overAt transport.line.resolution transport.quiet (some deadline) last) rest) := by
  subst hlast
  have hlimit : ∀ limit ∈ some deadline, (transport.line.past arrivals.length).now < limit := by
    intro limit hlimit
    rwa [← Option.mem_some_iff.mp hlimit]
  have hmost : arrivals.length < Limits.serialFrame + 1 - frame.length := by omega
  have hstretch := Line.stretch_silence harriving hunbroken hquiet hlimit hmost hsilent
  unfold untilQuiet
  rw [stateful_get_bind, hstretch]
  rfl

/-- Behind an unknown function code everything is taken up to the next silence. -/
theorem headlessOctets_unknown {unit code : UInt8} {payload : List UInt8}
    (hawaiting : transport.awaiting = unit :: code :: payload)
    (hprompt : transport.line.Prompt 2 (some (transport.deadline .request)))
    (hunknown : Shape.request? code = none) :
    headlessOctets .request true transport =
      untilQuiet [unit, code] (transport.deadline .request) (transport.past 2) := by
  have hfirst := first_eq hawaiting (hprompt.mono (by omega))
  have hsecond : more [unit] (transport.deadline .request) 1 (transport.past 1) =
      (.ok [unit, code], transport.past 2) := by
    have hone : [code].length = 1 := rfl
    have hrest : (transport.past 1).awaiting = [code] ++ payload := by
      rw [awaiting_past, hawaiting]
      rfl
    have hread := (takes_more [unit] (transport.deadline .request) hone
      (by show 1 + 1 ≤ bufferSize; decide)).whole _ _ hrest hprompt.past
    rwa [hone, past_past] at hread
  have hknown : shape? .request (([unit, code] : List UInt8).getD 1 0) = none := hunknown
  unfold headlessOctets
  rw [stateful_bind_ok hfirst]
  simp only
  rw [stateful_bind_ok hsecond]
  simp only [hknown]
  exact congrFun (bind_pure (untilQuiet [unit, code] (transport.deadline .request))) _

/-- The transport when everything up to the next silence has been thrown away. -/
def drained (transport : Transport) : Transport :=
  { transport with line := transport.line.drain transport.quiet }

theorem drain_apply (transport : Transport) : drain transport = (.ok (), transport.drained) := rfl

theorem drained_eq {arrivals : List (Nat × UInt8)}
    (harriving : transport.line.arriving = arrivals ++ rest)
    (hsteady : Line.Steady transport.quiet transport.line.now arrivals)
    (hquiet : 0 < transport.quiet) (hendless : transport.line.endsAt = none)
    (hsilent : ∀ next ∈ rest.head?, Line.overAt transport.line.resolution transport.quiet none
      (Line.lastTime transport.line.now arrivals) ≤ next.1) :
    transport.drained =
      transport.reached (Line.overAt transport.line.resolution transport.quiet none
        (Line.lastTime transport.line.now arrivals)) rest := by
  have hlimit : ∀ limit ∈ (none : Option Nat),
      Line.lastTime transport.line.now arrivals < limit := by
    intro limit hlimit
    contradiction
  have hmost : arrivals.length < transport.line.arriving.length + 1 := by
    rw [harriving, List.length_append]
    omega
  have hnext : ∀ time ∈ (rest.head?.map Prod.fst).or transport.line.endsAt,
      Line.overAt transport.line.resolution transport.quiet none
        (Line.lastTime transport.line.now arrivals) ≤ time := by
    intro time htime
    rw [hendless, Option.or_none] at htime
    obtain ⟨next, hmem, rfl⟩ := Option.map_eq_some_iff.mp htime
    exact hsilent next hmem
  have hstretch := Line.stretch_steady harriving hsteady hquiet hlimit hmost hnext
  rw [drained, Line.drain, hstretch]
  rfl

/-- What was no frame is thrown away on a line with a timing, with what comes behind it. -/
theorem read_undecoded {between : Transport} {direction : Direction} {checksum : Bool}
    {octets : List UInt8} {fault : ProtocolFault}
    (hframing : transport.framing = .headless checksum)
    (hoctets : headlessOctets direction checksum transport = (.ok octets, between))
    (hdecode : Headless.decode checksum octets = .error fault) :
    read direction transport = (.error (.failed (.protocol fault)),
      (if between.timing.isSome then between.drained else between).active) := by
  have hread : readHeadless direction checksum transport =
      (.error (.failed (.protocol fault)),
        if between.timing.isSome then between.drained else between) := by
    unfold readHeadless
    rw [stateful_bind_ok hoctets]
    simp only [hdecode]
    rw [stateful_get_bind]
    split
    next =>
      rw [stateful_bind_ok between.drain_apply]
      rfl
    next => rfl
  rw [read_apply, hframing, reading, hread]

/-- Octets that are no frame are thrown away with everything up to the next silence. -/
theorem read_of_decode_error {octets : List UInt8} {count : Nat} {fault : ProtocolFault}
    {dropped : List (Nat × UInt8)} (hframing : transport.framing = .headless true)
    (htiming : transport.timing.isSome) (hendless : transport.line.endsAt = none)
    (hoctets : headlessOctets .request true transport = (.ok octets, transport.past count))
    (hdecode : Headless.decode true octets = .error fault)
    (hleft : (transport.past count).line.arriving = dropped ++ rest)
    (hsteady : Line.Steady transport.quiet (transport.past count).line.now dropped)
    (hquiet : 0 < transport.quiet)
    (hsilent : ∀ next ∈ rest.head?, Line.overAt transport.line.resolution transport.quiet none
      (Line.lastTime (transport.past count).line.now dropped) ≤ next.1) :
    read .request transport =
      (.error (.failed (.protocol fault)), (transport.reached
        (Line.overAt transport.line.resolution transport.quiet none
          (Line.lastTime (transport.past count).line.now dropped)) rest).active) := by
  have htimed : (transport.past count).timing.isSome := htiming
  rw [read_undecoded hframing hoctets hdecode, if_pos htimed,
    drained_eq hleft hsteady hquiet hendless hsilent]
  rfl

end Transport

/-! ## Reading a burst -/

namespace Burst

/-- When a reader of requests has a frame that it takes as it is: with its last octet or, if
nothing tells which one that is, when it has been silent for long enough. -/
def heardAt (resolution quiet timeout : Nat) (burst : Burst) : Nat :=
  match Headless.requestSpan burst.octets with
  | some _ => burst.ending
  | none => Line.overAt resolution quiet (some (burst.start + timeout)) burst.ending

/-- When a reader takes it that a burst is over. -/
def overAt (resolution quiet : Nat) (burst : Burst) : Nat :=
  Line.overAt resolution quiet none burst.ending

/-- Nothing is read later than when the burst is over. -/
theorem heardAt_le_overAt (resolution quiet timeout : Nat) (burst : Burst) :
    burst.heardAt resolution quiet timeout ≤ burst.overAt resolution quiet := by
  simp only [heardAt, overAt, Line.overAt, Line.patience]
  split
  next => exact Line.since_le_ring _ _ _
  next => exact Line.ring_mono _ _ (Nat.add_le_add_left (Nat.min_le_left _ _) _)

end Burst

namespace Burst

/-- When a reader that is ready from a time on, before a frame comes or after, has that frame. -/
def readAt (resolution quiet timeout ready : Nat) (burst : Burst) : Nat :=
  match Headless.requestSpan burst.octets with
  | some _ => max ready burst.ending
  | none =>
    Line.overAt resolution quiet (some (max ready burst.start + timeout)) (max ready burst.ending)

theorem readAt_eq_heardAt {burst : Burst} {quiet timeout ready : Nat}
    (hwhole : burst.Whole quiet timeout) (hready : ready ≤ burst.start) (resolution : Nat) :
    burst.readAt resolution quiet timeout ready = burst.heardAt resolution quiet timeout := by
  rw [readAt, heardAt, Nat.max_eq_right hready,
    Nat.max_eq_right (hready.trans hwhole.start_le_ending)]

end Burst

namespace Transport

variable {transport : Transport} {burst next : Burst} {rest : List (Nat × UInt8)}

/-- When a transport has the frame that it finds next. -/
def readAt (transport : Transport) (burst : Burst) : Nat :=
  burst.readAt transport.line.resolution transport.quiet transport.timeout transport.line.now

namespace Offers

/-- As many octets of a burst are taken as its function code tells. -/
theorem octets_span (hoffers : transport.Offers burst rest) {count : Nat}
    (hspan : Headless.requestSpan burst.octets = some count)
    (hcount : count ≤ burst.octets.length) :
    headlessOctets .request true transport =
      (.ok (burst.octets.take count), transport.past count) := by
  have hlength := hoffers.whole.length_le
  have hroom : count ≤ bufferSize := by
    simp only [Limits.serialFrame, bufferSize, Limits.networkPrefix] at hlength ⊢
    omega
  have htake : (burst.octets.take count).length = count := by
    rw [List.length_take, Nat.min_eq_left hcount]
  have hawaiting : transport.awaiting =
      burst.octets.take count ++ (burst.octets.drop count ++ rest.map Prod.snd) := by
    rw [← List.append_assoc, List.take_append_drop, hoffers.awaiting_eq]
  have hread := (takes_requestSpan hspan hcount hroom).whole transport _ hawaiting
    (by rw [htake]; exact hoffers.prompt.mono hcount)
  rwa [htake] at hread

/-- If the function code does not tell, all octets up to the silence are taken. -/
theorem octets_silence (hoffers : transport.Offers burst rest)
    (hspan : Headless.requestSpan burst.octets = none)
    (hsilent : ∀ time ∈ (rest.head?.map Prod.fst).or transport.line.endsAt,
      transport.readAt burst ≤ time) :
    headlessOctets .request true transport =
      (.ok burst.octets, transport.reached (transport.readAt burst) rest) := by
  have hfour := hoffers.whole.four_le
  have hlength := hoffers.whole.length_le
  have htwo : 2 ≤ burst.octets.length := by omega
  obtain ⟨hleft, hunbroken⟩ := hoffers.unbroken_past (by omega) htwo
  have hcount : (burst.arrivals.drop 2).length = burst.octets.length - 2 := by
    rw [List.length_drop, hoffers.length_arrivals]
  have hothers : (burst.arrivals.drop 2).map Prod.snd = burst.octets.drop 2 := by
    rw [List.map_drop, hoffers.whole.brings]
  have hlast : ((transport.past 2).line.past (burst.arrivals.drop 2).length).now =
      max transport.line.now burst.ending := by
    have hpast : (transport.past 2).line.past (burst.arrivals.drop 2).length =
        (transport.past burst.octets.length).line := by
      rw [hcount, Transport.past, Line.past_past, Nat.add_sub_cancel' htwo]
      rfl
    rw [hpast, hoffers.past_eq]
    rfl
  have hbefore : max transport.line.now burst.ending < transport.deadline .request :=
    Nat.max_lt.mpr ⟨hoffers.now_lt_deadline, hoffers.ending_lt_deadline⟩
  obtain ⟨unit, code, payload, hoctets⟩ := hoffers.whole.exists_octets
  have hroom : [unit, code].length + (burst.arrivals.drop 2).length ≤ Limits.serialFrame := by
    simp only [hcount, List.length_cons, List.length_nil]
    omega
  rw [readAt, Burst.readAt, hspan, ← hoffers.deadline_eq] at hsilent ⊢
  have hread := untilQuiet_eq hleft hunbroken hlast hoffers.whole.quiet_pos hbefore hroom hsilent
  rw [hothers] at hread
  have hawaiting := hoffers.awaiting_eq
  rw [hoctets] at hspan hawaiting hread ⊢
  rw [headlessOctets_unknown hawaiting (hoffers.prompt.mono htwo)
    (Option.map_eq_none_iff.mp hspan)]
  exact hread

/-- A burst whose frame is as long as its function code tells, if it tells anything, is read as
the frame that it is.  If it tells nothing, the line has to be silent behind the burst. -/
theorem read_legible (hoffers : transport.Offers burst rest) (hlegible : burst.frame.Legible)
    (hsilent : Headless.requestSpan burst.octets = none →
      ∀ time ∈ (rest.head?.map Prod.fst).or transport.line.endsAt,
        transport.readAt burst ≤ time) :
    read .request transport =
      (.ok (transport.framing.received burst.frame),
        (transport.reached (transport.readAt burst) rest).active) := by
  have hoctets : headlessOctets .request true transport =
      (.ok burst.octets, transport.reached (transport.readAt burst) rest) := by
    rcases hlegible with hnone | hsome
    · exact hoffers.octets_silence hnone (hsilent hnone)
    · change Headless.requestSpan burst.octets = some burst.octets.length at hsome
      have hread := hoffers.octets_span hsome (le_refl _)
      rw [List.take_length, hoffers.past_eq] at hread
      rw [readAt, Burst.readAt, hsome]
      exact hread
  have hdecode := Headless.decode_encode true hoffers.whole.nonempty hoffers.whole.short
  have hread : readHeadless .request true transport =
      (.ok (transport.framing.received burst.frame),
        transport.reached (transport.readAt burst) rest) := by
    rw [Burst.octets] at hoctets
    unfold readHeadless
    rw [stateful_bind_ok hoctets]
    simp only [hdecode, hoffers.framing]
    rfl
  have hreading : reading transport.framing .request = readHeadless .request true := by
    rw [hoffers.framing, reading]
  rw [read_apply, hreading, hread]

end Offers

namespace Hears

/-- Of a burst that is longer than its function code tells a part is taken.  If that is not
protected by a right checksum, it is thrown away with everything behind it. -/
theorem read_damaged (hhears : transport.Hears burst rest) (htiming : transport.timing.isSome)
    (hendless : transport.line.endsAt = none) {count : Nat} {fault : ProtocolFault}
    (hspan : Headless.requestSpan burst.octets = some count)
    (hcount : count ≤ burst.octets.length)
    (hverify : Headless.verify (burst.octets.take count) = .error fault)
    (hsilent : ∀ next ∈ rest.head?,
      burst.overAt transport.line.resolution transport.quiet ≤ next.1) :
    read .request transport =
      (.error (.failed (.protocol fault)), (transport.reached
        (burst.overAt transport.line.resolution transport.quiet) rest).active) := by
  have hfour := Headless.four_le_requestSpan hspan
  have hlength : (burst.octets.take count).length = count := by
    rw [List.length_take, Nat.min_eq_left hcount]
  have hdecode := Headless.decode_of_verify (by omega)
    (by rw [hlength]; exact hcount.trans hhears.whole.length_le) hverify
  obtain ⟨hleft, hsteady, hlast⟩ := hhears.past (by omega) hcount
  have hread := read_of_decode_error hhears.framing htiming hendless
    (hhears.octets_span hspan hcount) hdecode hleft hsteady hhears.whole.quiet_pos
    (by rw [hlast]; exact hsilent)
  rwa [hlast] at hread

/-- Behind the octets of a burst the next burst is heard. -/
theorem behind (hhears : transport.Hears burst (next.arrivals ++ rest))
    (hnext : next.Whole transport.quiet transport.timeout) (hafter : burst.ending ≤ next.start) :
    (transport.past burst.octets.length).Hears next rest := by
  have hlate := hhears.before.trans hhears.whole.start_le_ending
  rw [hhears.past_eq, Nat.max_eq_right hlate]
  exact ⟨⟨hhears.framing, rfl, hnext⟩, hafter⟩

/-- If a reader takes a burst for a longer frame than it is, it takes the missing octets from
the burst that follows in time, and throws the rest of that away as well. -/
theorem read_swallowed (hhears : transport.Hears burst (next.arrivals ++ rest))
    (htiming : transport.timing.isSome) (hendless : transport.line.endsAt = none)
    (hnext : next.Whole transport.quiet transport.timeout) (hafter : burst.ending ≤ next.start)
    (hintime : next.ending < burst.start + transport.timeout) {count : Nat} {fault : ProtocolFault}
    (hspan : Headless.requestSpan (burst.octets ++ next.octets) = some count)
    (hmore : burst.octets.length < count)
    (hcount : count ≤ (burst.octets ++ next.octets).length) (hroom : count ≤ bufferSize)
    (hdecode : Headless.decode true ((burst.octets ++ next.octets).take count) = .error fault)
    (hsilent : ∀ later ∈ rest.head?,
      next.overAt transport.line.resolution transport.quiet ≤ later.1) :
    read .request transport =
      (.error (.failed (.protocol fault)), (transport.reached
        (next.overAt transport.line.resolution transport.quiet) rest).active) := by
  have hlater := hhears.behind hnext hafter
  obtain ⟨missing, rfl⟩ := Nat.exists_eq_add_of_le hmore.le
  have hmissing : missing ≤ next.octets.length := by
    rw [List.length_append] at hcount
    omega
  have hpast := hlater.past (by omega) hmissing
  rw [past_past] at hpast
  obtain ⟨hleft, hsteady, hlast⟩ := hpast
  have hawaiting : transport.awaiting = (burst.octets ++ next.octets).take
      (burst.octets.length + missing) ++ ((burst.octets ++ next.octets).drop
        (burst.octets.length + missing) ++ rest.map Prod.snd) := by
    rw [← List.append_assoc, List.take_append_drop, hhears.awaiting_eq, List.map_append,
      hnext.brings, List.append_assoc]
  have htake : ((burst.octets ++ next.octets).take (burst.octets.length + missing)).length =
      burst.octets.length + missing := by
    rw [List.length_take, Nat.min_eq_left hcount]
  -- The time that a frame may take runs from its own first octet, not from that of the next.
  have hprompt : transport.line.Prompt (burst.octets.length + missing)
      (some (transport.deadline .request)) :=
    Line.Prompt.add hhears.prompt
      ((hlater.prompt_of_ending_lt (by rwa [hhears.deadline_eq])).mono hmissing)
  have hoctets := (takes_requestSpan hspan hcount hroom).whole transport _ hawaiting
    (by rwa [htake])
  rw [htake] at hoctets
  have hread := read_of_decode_error hhears.framing htiming hendless hoctets hdecode
    hleft hsteady hhears.whole.quiet_pos (by rw [hlast]; exact hsilent)
  rwa [hlast] at hread

end Hears

end Transport

end Modbus
