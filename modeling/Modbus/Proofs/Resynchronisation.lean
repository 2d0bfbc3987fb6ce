import Mathlib.Data.List.GetD
import Mathlib.Tactic
import Modbus.Proofs.Bursts
import Modbus.Proofs.ConnectionService

/-!
# Resynchronisation

A frame that does not pass its check leaves a reader in the middle of whatever came
with it.  On a serial line the reader then throws octets away until the line has been
silent for long enough, so it finds the start of the next frame again.  It measures
that silence from when it has taken the last octet, which for a reader that came late
is not when the octet arrived.
-/

namespace Modbus

namespace Line

variable {quiet : Nat} {arrivals rest : List (Nat × UInt8)} {line after : Line}

/-! ## Throwing octets away -/

/-- Octets come as a burst if each arrives less than `quiet` after the one before it. -/
def Gapless (quiet : Nat) (arrivals : List (Nat × UInt8)) : Prop :=
  arrivals.IsChain fun arrival next => next.1 < arrival.1 + quiet

instance (quiet : Nat) (arrivals : List (Nat × UInt8)) : Decidable (Gapless quiet arrivals) :=
  inferInstanceAs (Decidable (arrivals.IsChain _))

/-- A reader who has taken one octet of a burst finds the others unbroken, however late it is. -/
theorem Gapless.unbroken {arrival : Nat × UInt8} {now : Nat}
    (hgapless : Gapless quiet (arrival :: arrivals)) (hnow : arrival.1 ≤ now) :
    Unbroken quiet now arrivals := by
  induction arrivals generalizing arrival now with
  | nil => trivial
  | cons next arrivals ih =>
      obtain ⟨hgap, hothers⟩ := List.isChain_cons_cons.mp hgapless
      exact ⟨by omega, ih hothers (Nat.le_max_right now next.1)⟩

/-- What is left of a burst when some of it has been taken is unbroken. -/
theorem Gapless.unbroken_past {burst : List (Nat × UInt8)} (hgapless : Gapless quiet burst)
    (harriving : line.arriving = burst ++ rest) {count : Nat} (hsome : 1 ≤ count)
    (hcount : count ≤ burst.length) :
    (line.past count).arriving = burst.drop count ++ rest ∧
      Unbroken quiet (line.past count).now (burst.drop count) := by
  obtain ⟨count, rfl⟩ := Nat.exists_eq_add_of_le' hsome
  cases burst with
  | nil => contradiction
  | cons arrival others =>
      have hnow : arrival.1 ≤ (line.past 1).now := first_le_past harriving 0
      have hleft : (line.past 1).arriving = others ++ rest := by simp [past, harriving]
      have hothers := (hgapless.unbroken hnow).past hleft (Nat.le_of_succ_le_succ hcount)
      rwa [past_past, Nat.add_comm 1 count] at hothers

theorem drain_unbroken (harriving : line.arriving = arrivals ++ rest)
    (hunbroken : Unbroken quiet line.now arrivals) :
    line.drain quiet = (line.past arrivals.length).drain quiet := by
  have hlength : line.arriving.length + 1 = arrivals.length + (rest.length + 1) := by
    rw [harriving, List.length_append]
    omega
  have hrest : (line.past arrivals.length).arriving = rest := by
    simp only [past, harriving, List.drop_left]
  have hnone : ∀ arrival ∈ arrivals, ∀ limit ∈ (none : Option Nat), arrival.1 < limit := by
    intro arrival harrival limit hlimit
    contradiction
  rw [drain, hlength, stretch_unbroken _ harriving hunbroken hnone, drain, hrest]

/-- What comes next comes only when a reader has found the line silent. -/
def Silent (quiet : Nat) (line : Line) : Prop :=
  ∀ next ∈ line.arriving.head?,
    line.now + quiet < next.1 ∧ overAt line.resolution quiet none line.now ≤ next.1

instance (quiet : Nat) (line : Line) : Decidable (line.Silent quiet) :=
  inferInstanceAs (Decidable (∀ next ∈ line.arriving.head?, _))

/-- What comes after the silence is not thrown away. -/
theorem drain_silent (hsilent : line.Silent quiet) :
    (line.drain quiet).arriving = line.arriving := by
  cases harriving : line.arriving with
  | nil =>
      have hsuffix := (Later.drain quiet line).suffix
      rw [harriving] at hsuffix
      exact List.suffix_nil.mp hsuffix
  | cons first rest =>
      obtain ⟨hafter, hlate⟩ := hsilent first (by rw [harriving]; rfl)
      change line.expiry (line.now + quiet) ≤ first.1 at hlate
      have hoverdue : line.next (some (line.now + patience quiet none line.now)) =
          (.overdue, line.sleepUntil (line.now + quiet)) :=
        next_late harriving (by omega) hlate
      rw [drain, stretch_overdue hoverdue, ← harriving]
      rfl

/-! ## What has been taken -/

theorem past_of_next {deadline : Option Nat} {octet : UInt8}
    (hnext : line.next deadline = (.octet octet, after)) : after = line.past 1 := by
  obtain ⟨time, harriving⟩ := arriving_of_next hnext
  unfold next at hnext
  rw [harriving] at hnext
  simp only at hnext
  split at hnext
  next =>
    rw [← (Prod.mk.inj hnext).2]
    simp [past, harriving]
  next => cases deadline <;> simp [waitInVain] at hnext

theorem past_of_exactly {deadline : Option Nat} {count : Nat} {octets : List UInt8}
    (hexactly : line.exactly deadline count = (.ok octets, after)) : after = line.past count := by
  induction count generalizing line octets with
  | zero =>
      obtain ⟨-, rfl⟩ := Prod.mk.inj hexactly
      rfl
  | succ count ih =>
      unfold exactly at hexactly
      split at hexactly
      next octet between hnext =>
        obtain rfl := past_of_next hnext
        split at hexactly
        next others last hothers =>
          obtain ⟨-, rfl⟩ := Prod.mk.inj hexactly
          rw [ih hothers, past_past, Nat.add_comm]
        next => simp at hexactly
      next => simp at hexactly

end Line

namespace Transport

variable {α β : Type} {transport between after : Transport}

theorem past_of_octets {deadline : Option Nat} {count : Nat} {taken : List UInt8}
    (hread : octets deadline count transport = (.ok taken, after)) :
    after = transport.past count := by
  rw [octets_apply] at hread
  obtain ⟨htaken, rfl⟩ := Prod.mk.inj hread
  rcases hline : transport.line.exactly deadline count with ⟨outcome, line⟩
  rw [hline] at htaken
  cases outcome with
  | ok octets => rw [Line.past_of_exactly hline, past]
  | error arrival => contradiction

theorem octets_ne_protocol {deadline : Option Nat} {count : Nat} {fault : ProtocolFault} :
    octets deadline count transport ≠ (.error (.failed (.protocol fault)), after) := by
  intro hread
  rw [octets_apply] at hread
  have houtcome := (Prod.mk.inj hread).1
  rcases hline : transport.line.exactly deadline count with ⟨outcome, line⟩
  rw [hline] at houtcome
  cases outcome with
  | ok octets => contradiction
  | error arrival => cases arrival <;> simp [Except.mapError, halt] at houtcome

theorem more_overflow {frame : List UInt8} {deadline count : Nat} {fault : ProtocolFault}
    (hread : more frame deadline count transport =
      (.error (.failed (.protocol fault)), after)) :
    fault = .frameTooLong transport.peer ∧ after = transport.drained ∧
      bufferSize < frame.length + count := by
  unfold more at hread
  split at hread
  next hroom =>
    obtain ⟨hfault, rfl⟩ := Prod.mk.inj ((stateful_bind_ok transport.drain_apply).symm.trans hread)
    exact ⟨(Error.protocol.inj (Halt.failed.inj (Except.error.inj hfault))).symm, rfl, hroom⟩
  next =>
    rcases hoctets : octets (some deadline) count transport with ⟨outcome | outcome, between⟩
    · have hoctet := hoctets.trans ((stateful_bind_error hoctets).symm.trans hread)
      exact absurd hoctet octets_ne_protocol
    · have hnone := (Prod.mk.inj ((stateful_bind_ok hoctets).symm.trans hread)).1
      contradiction

/-- Work that adds octets to those of a frame takes them from the front of the line, and nothing
else from there.  If the frame gets too long, the rest is thrown away. -/
structure Gathers (frame : List UInt8) (octetsOf : α → List UInt8) (work : Exchange α) :
    Prop where
  taken : ∀ {transport value after}, work transport = (.ok value, after) →
    ∃ rest, octetsOf value = frame ++ rest ∧ transport.awaiting = rest ++ after.awaiting ∧
      after = transport.past rest.length
  dropped : ∀ {transport fault after},
    work transport = (.error (.failed (.protocol fault)), after) →
    fault = .frameTooLong transport.peer ∧ ∃ count, after = (transport.past count).drained

namespace Gathers

variable {frame : List UInt8} {octetsOf : α → List UInt8} {othersOf : β → List UInt8}
  {work : Exchange α} {next : α → Exchange β}

theorem pure (value : α) : Gathers (octetsOf value) octetsOf (Pure.pure value) where
  taken hread := by
    obtain ⟨hresult, rfl⟩ := Prod.mk.inj hread
    obtain rfl := Except.ok.inj hresult
    exact ⟨[], (List.append_nil _).symm, rfl, rfl⟩
  dropped hread := by
    have hnone := (Prod.mk.inj hread).1
    contradiction

theorem bind (hwork : Gathers frame octetsOf work)
    (hnext : ∀ value, Gathers (octetsOf value) othersOf (next value)) :
    Gathers frame othersOf (work >>= next) where
  taken hread := by
    obtain ⟨value, between, hfirst, hlast⟩ := stateful_bind_eq_ok_iff.mp hread
    obtain ⟨front, hvalue, hfront, rfl⟩ := hwork.taken hfirst
    obtain ⟨back, hresult, hback, rfl⟩ := (hnext value).taken hlast
    refine ⟨front ++ back, ?_, ?_, ?_⟩
    · rw [hresult, hvalue, List.append_assoc]
    · rw [hfront, hback, List.append_assoc]
    · rw [past_past, List.length_append]
  dropped {transport fault after} hread := by
    rcases hfirst : work transport with ⟨halt | value, between⟩
    · rw [stateful_bind_error hfirst] at hread
      obtain ⟨hhalt, rfl⟩ := Prod.mk.inj hread
      rw [Except.error.inj hhalt] at hfirst
      exact hwork.dropped hfirst
    · rw [stateful_bind_ok hfirst] at hread
      obtain ⟨front, -, -, rfl⟩ := hwork.taken hfirst
      obtain ⟨hfault, count, rfl⟩ := (hnext value).dropped hread
      exact ⟨hfault, front.length + count, by rw [past_past]⟩

theorem more (frame : List UInt8) (deadline count : Nat) :
    Gathers frame id (Transport.more frame deadline count) where
  taken hread := by
    obtain ⟨rest, hrest, htaken⟩ := octets_of_more hread
    obtain ⟨hawaiting, hcount⟩ := awaiting_of_octets hrest
    exact ⟨rest, htaken, hawaiting, by rw [past_of_octets hrest, hcount]⟩
  dropped hread := by
    obtain ⟨hfault, rfl, -⟩ := more_overflow hread
    exact ⟨hfault, 0, rfl⟩

theorem shaped (frame : List UInt8) (deadline : Nat) (shape : Shape) :
    Gathers frame id (Transport.shaped frame deadline shape) := by
  cases shape with
  | fixed length => exact more frame deadline length
  | counted offset width => exact (more _ _ _).bind fun octets => more octets _ _

end Gathers

/-- What is read behind the function code. -/
def behindCode (direction : Direction) (checksum : Bool) (octets : List UInt8) (deadline : Nat) :
    Exchange (List UInt8) := do
  match shape? direction (octets.getD 1 0) with
  | some shape =>
    let octets ← shaped octets deadline shape
    if checksum then more octets deadline 2 else pure octets
  | none =>
    let rest ← untilQuiet octets deadline
    match direction with
    | .request => pure rest
    | .response => fail (.protocol (.unknownResponse (octets.getD 1 0)))

theorem headlessOctets_eq (direction : Direction) (checksum : Bool) :
    headlessOctets direction checksum =
      first direction >>= fun (start, deadline) => more start deadline 1 >>= fun octets =>
        behindCode direction checksum octets deadline := rfl

theorem gathers_behindCode {direction : Direction} {octets : List UInt8} (checksum : Bool)
    (deadline : Nat) (hknown : (shape? direction (octets.getD 1 0)).isSome) :
    Gathers octets id (behindCode direction checksum octets deadline) := by
  obtain ⟨shape, hshape⟩ := Option.isSome_iff_exists.mp hknown
  unfold behindCode
  simp only [hshape]
  refine (Gathers.shaped octets deadline shape).bind fun octets => ?_
  split
  · exact Gathers.more octets deadline 2
  · exact Gathers.pure octets

/-- What fails, if anything does, is the check of what was read. -/
def Judged (outcome : Except Halt α) : Prop :=
  ∀ halt, outcome = .error halt → ∃ fault, halt = .failed (.protocol fault)

theorem judged_ok (value : α) : Judged (.ok value) := by
  intro halt hnone
  contradiction

theorem judged_protocol (fault : ProtocolFault) :
    Judged (.error (.failed (.protocol fault)) : Except Halt α) := by
  intro halt hhalt
  exact ⟨fault, (Except.error.inj hhalt).symm⟩

theorem bind_of_judged {work : Exchange α} {next : α → Exchange β} {outcome : Except Halt β}
    (hread : (work >>= next) transport = (outcome, after)) (hjudged : Judged outcome) :
    (∃ fault, work transport = (.error (.failed (.protocol fault)), after)) ∨
      ∃ value between, work transport = (.ok value, between) ∧
        next value between = (outcome, after) := by
  rcases hwork : work transport with ⟨halt | value, between⟩
  · obtain ⟨rfl, rfl⟩ := Prod.mk.inj ((stateful_bind_error hwork).symm.trans hread)
    obtain ⟨fault, rfl⟩ := hjudged halt rfl
    exact Or.inl ⟨fault, rfl⟩
  · exact Or.inr ⟨value, between, rfl, (stateful_bind_ok hwork).symm.trans hread⟩

theorem first_ne_protocol {direction : Direction} {fault : ProtocolFault} :
    first direction transport ≠ (.error (.failed (.protocol fault)), after) := by
  intro hread
  obtain ⟨limit, front, hoctet, houtcome⟩ := octets_of_first hread
  cases front with
  | ok taken => contradiction
  | error halt =>
      rw [← Except.error.inj houtcome] at hoctet
      exact octets_ne_protocol hoctet

theorem past_of_first {direction : Direction} {taken : List UInt8} {limit : Nat}
    (hread : first direction transport = (.ok (taken, limit), after)) :
    after = transport.past 1 ∧ limit = transport.deadline direction := by
  obtain ⟨deadline, front, hoctet, houtcome⟩ := octets_of_first hread
  cases front with
  | error halt => contradiction
  | ok octet =>
      obtain rfl := past_of_octets hoctet
      obtain ⟨-, rfl⟩ := Prod.mk.inj (Except.ok.inj houtcome)
      cases direction <;> exact ⟨rfl, rfl⟩

/-- Of a frame the two octets up to the function code are read first. -/
theorem start_of_headlessOctets {direction : Direction} {checksum : Bool}
    {outcome : Except Halt (List UInt8)}
    (hread : headlessOctets direction checksum transport = (outcome, after))
    (hjudged : Judged outcome) :
    ∃ start, start.length = 2 ∧ transport.awaiting = start ++ (transport.past 2).awaiting ∧
      behindCode direction checksum start (transport.deadline direction) (transport.past 2) =
        (outcome, after) := by
  rw [headlessOctets_eq] at hread
  rcases bind_of_judged hread hjudged with ⟨fault, hfault⟩ | ⟨⟨front, limit⟩, early, hfirst, hrest⟩
  · exact absurd hfault first_ne_protocol
  obtain ⟨hfront, hone⟩ := awaiting_of_first hfirst
  obtain ⟨rfl, rfl⟩ := past_of_first hfirst
  rcases bind_of_judged hrest hjudged with ⟨fault, hfault⟩ | ⟨start, between, hcode, hbehind⟩
  · obtain ⟨-, -, hroom⟩ := more_overflow hfault
    rw [hone] at hroom
    exact absurd hroom (by decide)
  obtain ⟨code, hoctet, rfl⟩ := octets_of_more hcode
  obtain ⟨hback, hcount⟩ := awaiting_of_octets hoctet
  obtain rfl := past_of_octets hoctet
  rw [past_past] at hback hbehind
  refine ⟨front ++ code, ?_, ?_, hbehind⟩
  · rw [List.length_append, hone, hcount]
  · rw [hfront, hback, List.append_assoc]

/-- A frame of a known function is taken from the front of the line, and nothing else is taken
from there. -/
theorem past_of_headlessOctets {direction : Direction} {checksum : Bool} {octets : List UInt8}
    (hread : headlessOctets direction checksum transport = (.ok octets, after))
    (hknown : (shape? direction (transport.awaiting.getD 1 0)).isSome) :
    transport.awaiting = octets ++ after.awaiting ∧ after = transport.past octets.length ∧
      2 ≤ octets.length := by
  obtain ⟨start, htwo, hawaiting, hbehind⟩ := start_of_headlessOctets hread (judged_ok octets)
  have hcode : transport.awaiting.getD 1 0 = start.getD 1 0 := by
    rw [hawaiting, List.getD_append _ _ _ _ (by omega)]
  rw [hcode] at hknown
  obtain ⟨rest, hoctets, hothers, rfl⟩ := (gathers_behindCode checksum _ hknown).taken hbehind
  obtain rfl : octets = start ++ rest := hoctets
  refine ⟨?_, ?_, ?_⟩
  · rw [hawaiting, hothers, List.append_assoc]
  · rw [past_past, List.length_append, htwo]
  · rw [List.length_append, htwo]
    exact Nat.le_add_right 2 _

/-! ## Damaged frames -/

/-- A frame that arrives in time is read, and what arrives behind it is left. -/
theorem read_arrivals {direction : Direction} {frame : Frame} {arrivals rest : List (Nat × UInt8)}
    (hframe : transport.framing.Delimits direction frame)
    (harriving : transport.line.arriving = arrivals ++ rest)
    (hbrings : arrivals.map Prod.snd = transport.framing.encode frame)
    (hprompt : transport.line.Prompt arrivals.length (some (transport.deadline direction))) :
    read direction transport =
        (.ok (transport.framing.received frame), (transport.past arrivals.length).active) ∧
      (transport.past arrivals.length).line.arriving = rest := by
  have hlength : arrivals.length = (transport.framing.encode frame).length := by
    rw [← hbrings, List.length_map]
  have hawaiting : transport.awaiting = transport.framing.encode frame ++ rest.map Prod.snd := by
    rw [awaiting, harriving, List.map_append, hbrings]
  have hleft : (transport.past arrivals.length).line.arriving = rest := by
    simp only [past, Line.past, harriving, List.drop_left]
  rw [hlength] at hprompt hleft ⊢
  exact ⟨read_eq hframe hawaiting hprompt, hleft⟩

/-- A reader that rejects a frame of known length throws the rest of the burst away in which the
frame came.  What arrives only when the reader has found the line silent is left, and the next
frame is read as it is. -/
theorem read_resynchronised {direction : Direction} {checksum : Bool} {octets : List UInt8}
    {fault : ProtocolFault} {burst rest : List (Nat × UInt8)}
    (hframing : transport.framing = .headless checksum) (htiming : transport.timing.isSome)
    (harriving : transport.line.arriving = burst ++ rest)
    (hgapless : Line.Gapless transport.quiet burst)
    (hknown : (shape? direction (transport.awaiting.getD 1 0)).isSome)
    (htaken : headlessOctets direction checksum transport = (.ok octets, between))
    (hinside : octets.length ≤ burst.length)
    (hdecode : Headless.decode checksum octets = .error fault) :
    ∃ after, read direction transport = (.error (.failed (.protocol fault)), after) ∧
      after.line.arriving <:+ rest ∧
      ((transport.line.past burst.length).Silent transport.quiet →
        after.line.arriving = rest ∧
        ∀ (next : Direction) (frame : Frame) (arrivals later : List (Nat × UInt8)),
          (Framing.headless checksum).Delimits next frame → rest = arrivals ++ later →
          arrivals.map Prod.snd = (Framing.headless checksum).encode frame →
          after.line.Prompt arrivals.length (some (after.deadline next)) →
          ∃ last, read next after = (.ok ((Framing.headless checksum).received frame), last) ∧
            last.line.arriving = later) := by
  obtain ⟨-, rfl, htwo⟩ := past_of_headlessOctets htaken hknown
  obtain ⟨hleft, hunbroken⟩ := hgapless.unbroken_past harriving (by omega) hinside
  -- The reader throws away what is left of the burst and then waits for the silence.
  have hdrain : ((transport.past octets.length).drained).line =
      (transport.line.past burst.length).drain transport.quiet := by
    have hskip := Line.drain_unbroken hleft hunbroken
    rw [Line.past_past, List.length_drop, Nat.add_sub_cancel' hinside] at hskip
    exact hskip
  have hbehind : (transport.line.past burst.length).arriving = rest := by
    simp only [Line.past, harriving, List.drop_left]
  have htimed : (transport.past octets.length).timing.isSome := htiming
  have hread := read_undecoded hframing htaken hdecode
  rw [if_pos htimed] at hread
  refine ⟨_, hread, ?_, fun hsilent => ?_⟩
  · rw [← hbehind]
    show ((transport.past octets.length).drained).line.arriving <:+ _
    rw [hdrain]
    exact (Line.Later.drain _ _).suffix
  · have hrest : ((transport.past octets.length).drained.active).line.arriving = rest := by
      show ((transport.past octets.length).drained).line.arriving = rest
      rw [hdrain, Line.drain_silent hsilent, hbehind]
    refine ⟨hrest, fun next frame arrivals later hframe hsplit hbrings hprompt => ?_⟩
    have hsame : ((transport.past octets.length).drained.active).framing = .headless checksum :=
      hframing
    rw [← hsame] at hframe hbrings ⊢
    obtain ⟨hread, hlater⟩ := read_arrivals hframe (hrest.trans hsplit) hbrings hprompt
    exact ⟨_, hread, hlater⟩

/-- A request with a wrong checksum and two pieces of noise, then the same request as it should
be. -/
theorem read_resynchronised_noise :
    let frame : Frame := ⟨⟨0, 0, 1⟩, [3, 0, 0, 0, 1]⟩
    let line := Line.ofChunks 1000000
      [(0, [1, 3, 0, 0, 0, 1, 0, 0, 170]), (3000000, [187, 1]),
        (10000000, Headless.encode true frame)] false
    let transport :=
      opened line (.headless true) "peer" (some (.ofBaud 9600 none false)) defaultTimeout
    ∃ after last,
      read .request transport = (.error (.failed (.protocol (.checksum 0x0a84 0))), after) ∧
      read .request after = (.ok frame, last) ∧ last.line.arriving = [] := by
  intro frame line transport
  have htaken : headlessOctets .request true transport =
      (.ok [1, 3, 0, 0, 0, 1, 0, 0], (headlessOctets .request true transport).2) :=
    Prod.ext (by decide +kernel) rfl
  have hdecode : Headless.decode true [1, 3, 0, 0, 0, 1, 0, 0] =
      .error (.checksum 0x0a84 0) := by decide +kernel
  have hsplit : transport.line.arriving = line.arriving.take 11 ++ line.arriving.drop 11 :=
    (List.take_append_drop 11 _).symm
  obtain ⟨after, hread, -, hnext⟩ := read_resynchronised rfl rfl hsplit (by decide +kernel)
    (by decide +kernel) htaken (by decide +kernel) hdecode
  obtain ⟨-, hframe⟩ := hnext (by decide +kernel)
  obtain rfl : (read .request transport).2 = after := congrArg Prod.snd hread
  have hdelimits : (Framing.headless true).Delimits .request frame :=
    ⟨by decide, 3, [0, 0, 0, 1], .fixed 4, rfl, rfl, rfl⟩
  obtain ⟨last, hlast, hlater⟩ := hframe .request frame (line.arriving.drop 11) [] hdelimits
    (List.append_nil _).symm (by decide +kernel) (by decide +kernel)
  exact ⟨_, last, hread, hlast, hlater⟩

/-- A reader that comes late does not know that the line has been silent for longer than the
quiet time already.  It waits for another such silence and throws the next request away. -/
theorem late_reader_drops_request :
    let frame : Frame := ⟨⟨0, 0, 1⟩, [3, 0, 0, 0, 1]⟩
    let damaged : List UInt8 := [1, 3, 0, 0, 0, 1, 0, 0]
    let line := Line.ofChunks 1000000 [(0, damaged), (23000000, Headless.encode true frame)] false
    let transport :=
      (opened line (.headless true) "peer" (some (.ofBaud 9600 none false)) defaultTimeout).sleep
        20000000
    let damage := read .request transport
    Line.Gapless transport.quiet (line.arriving.take 8) ∧
      transport.quiet < 23000000 ∧
      (headlessOctets .request true transport).1 = .ok damaged ∧
      damage.1 = .error (.failed (.protocol (.checksum 0x0a84 0))) ∧
      damage.2.line.arriving = [] ∧
      (read .request damage.2).1 ≠ .ok frame := by
  decide +kernel

end Transport

end Modbus
