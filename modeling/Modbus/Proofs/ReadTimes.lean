import Mathlib.Tactic
import Modbus.Proofs.DamagedRequests

/-!
# How long a master waits

A master waits for all octets of an answer with one deadline, so it has the answer, or
knows that there is none, when a timer set to the deadline ends.  What a damaged answer
leaves on the line is thrown away without a deadline, and for each octet the silence is
waited for anew: such a read ends when the peer pauses.
-/

namespace Modbus

namespace Line

variable {quiet limit deadline : Nat} {line after : Line}

/-! ## Timers -/

/-- A timer that is set to the same time later on, but before it has ended, does not end later. -/
theorem ring_le_ring {resolution since later time : Nat} (hlater : since ≤ later)
    (hbefore : later ≤ ring resolution since time) :
    ring resolution later time ≤ ring resolution since time := by
  by_cases hpassed : time ≤ later
  · have hnow : ring resolution later time = later := by simp [ring, expiry, hpassed]
    rwa [hnow]
  · simp only [ring, expiry]
    rw [if_neg hpassed, if_neg (by omega)]

theorem overAt_mono (resolution quiet : Nat) {last later : Nat} (hlast : last ≤ later) :
    overAt resolution quiet none last ≤ overAt resolution quiet none later := by
  by_cases hquiet : quiet = 0
  · subst hquiet
    simpa [overAt, patience, ring, expiry] using hlast
  · have hsum : last + quiet + max resolution 1 - 1 ≤ later + quiet + max resolution 1 - 1 := by
      omega
    change ring resolution last (last + quiet) ≤ ring resolution later (later + quiet)
    simp only [ring, expiry]
    rw [if_neg (by omega), if_neg (by omega)]
    exact Nat.mul_le_mul_right _ (Nat.div_le_div_right hsum)

/-! ## Waiting with a deadline -/

/-- Waiting for an octet ends with the timer. -/
theorem now_next_le (limit : Nat) (line : Line) :
    (line.next (some limit)).2.now ≤ line.expiry limit := by
  have hnow := now_le_expiry line limit
  have htaken {time : Nat} (htime : time ≤ line.now ∨ line.inTime (some limit) time = true) :
      max line.now time ≤ line.expiry limit := by
    simp only [inTime, decide_eq_true_eq] at htime
    omega
  unfold next
  split
  next time octet rest harriving =>
    split
    next hsoon => exact htaken hsoon
    next => exact le_refl _
  next =>
    split
    next time hends =>
      split
      next hsoon => exact htaken hsoon
      next => exact le_refl _
    next => exact le_refl _

theorem resolution_next (limit : Option Nat) (line : Line) :
    (line.next limit).2.resolution = line.resolution := by
  have hvain : (line.waitInVain limit).2.resolution = line.resolution := by
    cases limit <;> rfl
  unfold next
  split
  · split
    · rfl
    · exact hvain
  · split
    · split
      · rfl
      · exact hvain
    · exact hvain

theorem next_ne_never (limit : Nat) (line : Line) : (line.next (some limit)).1 ≠ .never := by
  have hvain : (line.waitInVain (some limit)).1 ≠ .never := by simp [waitInVain]
  unfold next
  split
  · split
    · simp
    · exact hvain
  · split
    · split
      · simp
      · exact hvain
    · exact hvain

theorem exactly_ne_never (limit count : Nat) (line : Line) :
    (line.exactly (some limit) count).1 ≠ .error .never := by
  induction count generalizing line with
  | zero => simp [exactly]
  | succ count ih =>
      have hone := next_ne_never limit line
      unfold exactly
      split
      next octet between hnext =>
        have hothers := ih between
        split
        next => simp
        next hexactly =>
          rw [hexactly] at hothers
          exact hothers
      next arrival between hvain hnext =>
        rw [hnext] at hone
        simpa using hone

/-- A line at a later time.  If a timer is set to the deadline now, it does not end later than
one that was set to it before. -/
structure Within (deadline : Nat) (line after : Line) : Prop extends line.Later after where
  resolution : after.resolution = line.resolution
  expiry : after.expiry deadline ≤ line.expiry deadline

namespace Within

theorem refl (deadline : Nat) (line : Line) : line.Within deadline line :=
  ⟨.refl line, rfl, le_refl _⟩

theorem trans {last : Line} (hfirst : line.Within deadline after)
    (hsecond : after.Within deadline last) : line.Within deadline last :=
  ⟨hfirst.toLater.trans hsecond.toLater, hsecond.resolution.trans hfirst.resolution,
    hsecond.expiry.trans hfirst.expiry⟩

theorem now_le (hwithin : line.Within deadline after) : after.now ≤ line.expiry deadline :=
  (now_le_expiry after deadline).trans hwithin.expiry

theorem next (hlimit : line.expiry limit ≤ line.expiry deadline) :
    line.Within deadline (line.next (some limit)).2 := by
  have hlater := Later.next (some limit) line
  refine ⟨hlater, resolution_next _ line, ?_⟩
  rw [expiry_eq_ring, resolution_next]
  exact ring_le_ring hlater.clock ((now_next_le limit line).trans hlimit)

theorem exactly (deadline count : Nat) (line : Line) :
    line.Within deadline (line.exactly (some deadline) count).2 := by
  induction count generalizing line with
  | zero => exact refl deadline line
  | succ count ih =>
      have hone : line.Within deadline (line.next (some deadline)).2 := next (le_refl _)
      unfold Line.exactly
      split
      next octet between hnext =>
        rw [hnext] at hone
        have hothers := hone.trans (ih between)
        split <;> next hexactly => rwa [hexactly] at hothers
      next arrival between hvain hnext => rwa [hnext] at hone

theorem stretch (quiet deadline most : Nat) (line : Line) :
    line.Within deadline (line.stretch quiet (some deadline) most).2.2 := by
  induction most generalizing line with
  | zero => exact refl deadline line
  | succ most ih =>
      -- The silence is waited for no longer than until the deadline.
      have hlimit : line.expiry (line.now + patience quiet (some deadline) line.now) ≤
          line.expiry deadline := by
        by_cases hpassed : deadline ≤ line.now
        · have hnone : patience quiet (some deadline) line.now = 0 := by
            simp only [patience]
            omega
          rw [hnone, Nat.add_zero]
          simp [Line.expiry, hpassed]
        · refine ring_mono line.resolution line.now ?_
          simp only [patience]
          omega
      have hone := next hlimit
      rcases hnext : line.next (some (line.now + patience quiet (some deadline) line.now)) with
        ⟨arrival, between⟩
      rw [hnext] at hone
      cases arrival with
      | octet octet =>
          rw [stretch_octet hnext]
          exact hone.trans (ih between)
      | overdue =>
          rw [stretch_overdue hnext]
          exact hone
      | ended | never =>
          rw [stretch.eq_def]
          simp only [patience] at hnext
          simpa only [hnext] using hone

end Within

/-! ## Throwing octets away -/

/-- For a reader who takes them from a time on, no octet lets a timer end that is set to a
silence. -/
def Restless (resolution quiet : Nat) : Nat → List (Nat × UInt8) → Prop
  | _, [] => True
  | now, arrival :: arrivals =>
    (arrival.1 ≤ now ∨ arrival.1 < overAt resolution quiet none now) ∧
      Restless resolution quiet (max now arrival.1) arrivals

/-- When a reader who takes octets from a time on has them. -/
def takenAt (now : Nat) (arrivals : List (Nat × UInt8)) : Nat :=
  arrivals.foldl (fun now arrival => max now arrival.1) now

/-- If no octet comes between a time and the silence behind it, the reader has them all by then. -/
theorem Restless.takenAt_le {resolution now : Nat} {arrivals : List (Nat × UInt8)}
    (hrestless : Restless resolution quiet now arrivals) (hnow : now ≤ limit)
    (hpause : ∀ arrival ∈ arrivals,
      arrival.1 ≤ limit ∨ overAt resolution quiet none limit ≤ arrival.1) :
    takenAt now arrivals ≤ limit := by
  induction arrivals generalizing now with
  | nil => exact hnow
  | cons arrival arrivals ih =>
      obtain ⟨hsoon, hothers⟩ := hrestless
      obtain ⟨hthis, hmore⟩ := List.forall_mem_cons.mp hpause
      have hover := overAt_mono resolution quiet hnow
      have hnext : max now arrival.1 ≤ limit := by omega
      exact ih hothers hnext hmore

theorem soon_of_next {octet : UInt8} (hnext : line.next (some limit) = (.octet octet, after)) :
    ∃ time, line.arriving = (time, octet) :: after.arriving ∧
      (time ≤ line.now ∨ time < line.expiry limit) ∧ after.now = max line.now time := by
  obtain ⟨time, harriving⟩ := arriving_of_next hnext
  refine ⟨time, harriving, ?_, ?_⟩
  · by_contra hlate
    have hguard : ¬(time ≤ line.now ∨ line.inTime (some limit) time = true) := by
      simpa only [inTime, decide_eq_true_eq] using hlate
    unfold next at hnext
    simp only [harriving, if_neg hguard, waitInVain] at hnext
    simp at hnext
  · rw [past_of_next hnext]
    simp [past, harriving]

theorem le_past {count : Nat} {arrival : Nat × UInt8}
    (harrival : arrival ∈ line.arriving.take count) : arrival.1 ≤ (line.past count).now := by
  show arrival.1 ≤ takenAt line.now (line.arriving.take count)
  generalize line.arriving.take count = arrivals at harrival
  generalize line.now = now
  induction arrivals generalizing now with
  | nil => contradiction
  | cons first arrivals ih =>
      rcases List.mem_cons.mp harrival with rfl | hother
      · exact (Nat.le_max_right now _).trans (le_foldl_max arrivals _)
      · exact ih hother (max now first.1)

theorem spared_of_next {deadline : Option Nat} {arrival : Arrival}
    (hnext : line.next deadline = (arrival, after)) (hvain : ∀ octet, arrival ≠ .octet octet) :
    after.arriving = line.arriving := by
  have hspared : (line.waitInVain deadline).2.arriving = line.arriving := by
    cases deadline <;> rfl
  unfold next at hnext
  split at hnext
  next time octet rest harriving =>
    split at hnext
    next => exact absurd (Prod.mk.inj hnext).1.symm (hvain octet)
    next => rw [← hspared, hnext]
  next =>
    split at hnext
    next =>
      split at hnext
      next => rw [← (Prod.mk.inj hnext).2]
      next => rw [← hspared, hnext]
    next => rw [← hspared, hnext]

theorem stretch_restless {most : Nat} (hmost : line.arriving.length < most) :
    let after := (line.stretch quiet none most).2.2
    ∃ discarded, line.arriving = discarded ++ after.arriving ∧
      Restless line.resolution quiet line.now discarded ∧
      after.now ≤ overAt line.resolution quiet none (takenAt line.now discarded) := by
  induction most generalizing line with
  | zero => contradiction
  | succ most ih =>
      have hone := now_next_le (line.now + patience quiet none line.now) line
      have hlater := Later.next (some (line.now + patience quiet none line.now)) line
      rcases hnext : line.next (some (line.now + patience quiet none line.now)) with
        ⟨arrival, between⟩
      rw [hnext] at hone hlater
      cases arrival with
      | octet octet =>
          obtain ⟨time, harriving, hsoon, hnow⟩ := soon_of_next hnext
          have hsame : between.resolution = line.resolution := by
            rw [← resolution_next _ line, hnext]
          rw [harriving, List.length_cons] at hmost
          obtain ⟨discarded, hdiscarded, hrestless, hend⟩ := ih (Nat.lt_of_succ_lt_succ hmost)
          rw [hsame, hnow] at hrestless hend
          rw [stretch_octet hnext]
          refine ⟨(time, octet) :: discarded, ?_, ⟨hsoon, hrestless⟩, hend⟩
          rw [harriving, hdiscarded]
          rfl
      | overdue =>
          rw [stretch_overdue hnext]
          exact ⟨[], (spared_of_next hnext (by simp)).symm, trivial, hone⟩
      | ended | never =>
          rw [stretch.eq_def]
          simp only [patience] at hnext
          simp only [hnext]
          exact ⟨[], (spared_of_next hnext (by simp)).symm, trivial, hone⟩

/-- A reader throws octets away as long as they come before a timer ends that is set to a silence,
and then it waits for one such timer. -/
theorem drain_restless (quiet : Nat) (line : Line) :
    ∃ discarded, line.arriving = discarded ++ (line.drain quiet).arriving ∧
      Restless line.resolution quiet line.now discarded ∧
      (line.drain quiet).now ≤ overAt line.resolution quiet none (takenAt line.now discarded) :=
  stretch_restless (Nat.lt_succ_self _)

end Line

namespace Transport

/-! ## Reading an answer -/

/-- Why a reader throws octets away: a frame is too long, or a frame on a serial line does not
pass its check. -/
def Spoils (transport : Transport) (fault : ProtocolFault) : Prop :=
  fault = .frameTooLong transport.peer ∨ transport.timing.isSome = true

/-- How work with a deadline ends.  It takes from the line what it waits for, and that in time;
if it fails it may throw octets away behind that, which only frames that spoil make it do. -/
inductive Ends {α : Type} (deadline : Nat) (spoiling : Prop) (transport : Transport) :
    Except Halt α × Transport → Prop where
  | done {value : α} {line : Line} (hwithin : transport.line.Within deadline line) :
      Ends deadline spoiling transport (.ok value, { transport with line := line })
  | failed {error : Error} {line : Line} (hwithin : transport.line.Within deadline line) :
      Ends deadline spoiling transport
        (.error (.failed error), { transport with line := line })
  | discarding {fault : ProtocolFault} {line : Line} (hspoiling : spoiling)
      (hspoils : transport.Spoils fault) (hwithin : transport.line.Within deadline line) :
      Ends deadline spoiling transport
        (.error (.failed (.protocol fault)), ({ transport with line := line } : Transport).drained)

/-- Work that keeps a deadline. -/
def Keeps {α : Type} (deadline : Nat) (spoiling : Prop) (work : Exchange α) : Prop :=
  ∀ transport, Ends deadline spoiling transport (work transport)

namespace Ends

variable {α β : Type} {deadline : Nat} {spoiling : Prop} {transport : Transport}
  {work : Exchange α} {next : α → Exchange β}

/-- Work that begins later with the same deadline ends like work that began earlier. -/
theorem later {line : Line} {result : Except Halt α × Transport}
    (hwithin : transport.line.Within deadline line)
    (hends : Ends deadline spoiling { transport with line := line } result) :
    Ends deadline spoiling transport result := by
  cases hends with
  | done hmore => exact .done (hwithin.trans hmore)
  | failed hmore => exact .failed (hwithin.trans hmore)
  | discarding hspoiling hspoils hmore => exact .discarding hspoiling hspoils (hwithin.trans hmore)

theorem bind (hwork : Ends deadline spoiling transport (work transport))
    (hnext : ∀ value after, work transport = (.ok value, after) →
      Keeps deadline spoiling (next value)) :
    Ends deadline spoiling transport ((work >>= next) transport) := by
  cases hresult : work transport with
  | mk outcome after =>
      rw [hresult] at hwork
      cases hwork with
      | done hwithin =>
          rw [stateful_bind_ok hresult]
          exact later hwithin (hnext _ _ hresult _)
      | failed hwithin =>
          rw [stateful_bind_error hresult]
          exact .failed hwithin
      | discarding hspoiling hspoils hwithin =>
          rw [stateful_bind_error hresult]
          exact .discarding hspoiling hspoils hwithin

end Ends

namespace Keeps

variable {α β : Type} {deadline : Nat} {spoiling : Prop} {work : Exchange α} {next : α → Exchange β}

theorem pure (value : α) : Keeps deadline spoiling (Pure.pure value) :=
  fun _ => .done (.refl _ _)

theorem fail (error : Error) : Keeps deadline spoiling (Transport.fail error : Exchange α) :=
  fun _ => .failed (.refl _ _)

theorem get : Keeps deadline spoiling (MonadState.get : Exchange Transport) :=
  fun _ => .done (.refl _ _)

theorem bind (hwork : Keeps deadline spoiling work)
    (hnext : ∀ value, Keeps deadline spoiling (next value)) :
    Keeps deadline spoiling (work >>= next) :=
  fun transport => (hwork transport).bind fun value _ _ => hnext value

theorem octets (deadline count : Nat) :
    Keeps deadline spoiling (Transport.octets (some deadline) count) := by
  intro transport
  have hwithin := Line.Within.exactly deadline count transport.line
  have hwaits := Line.exactly_ne_never deadline count transport.line
  rw [octets_apply]
  generalize transport.line.exactly (some deadline) count = result at hwithin hwaits ⊢
  obtain ⟨outcome, line⟩ := result
  cases outcome with
  | ok octets => exact .done hwithin
  | error arrival =>
      cases arrival with
      | never => exact absurd rfl hwaits
      | octet _ | overdue | ended => exact .failed hwithin

theorem more {frame : List UInt8} {count : Nat} (deadline : Nat)
    (hroom : bufferSize < frame.length + count → spoiling) :
    Keeps deadline spoiling (Transport.more frame deadline count) := by
  unfold Transport.more
  split
  next htoo => exact fun transport => .discarding (hroom htoo) (Or.inl rfl) (.refl _ _)
  next => exact (octets deadline count).bind fun _ => pure _

theorem shaped (frame : List UInt8) (deadline : Nat) (shape : Shape) :
    Keeps deadline True (Transport.shaped frame deadline shape) := by
  cases shape with
  | fixed length => exact more deadline fun _ => trivial
  | counted offset width =>
      exact (more deadline fun _ => trivial).bind fun _ => more deadline fun _ => trivial

theorem untilQuiet (frame : List UInt8) (deadline : Nat) :
    Keeps deadline True (Transport.untilQuiet frame deadline) := by
  intro transport
  have hwithin := Line.Within.stretch transport.quiet deadline
    (Limits.serialFrame + 1 - frame.length) transport.line
  rw [untilQuiet_apply]
  generalize transport.line.stretch transport.quiet (some deadline)
    (Limits.serialFrame + 1 - frame.length) = result at hwithin ⊢
  obtain ⟨octets, stop, line⟩ := result
  cases stop with
  | silence => exact .done hwithin
  | ended => exact .failed hwithin
  | full => exact .discarding trivial (Or.inl rfl) hwithin

theorem behindCode (direction : Direction) (checksum : Bool) (octets : List UInt8)
    (deadline : Nat) :
    Keeps deadline True (Transport.behindCode direction checksum octets deadline) := by
  unfold Transport.behindCode
  split
  next shape hshape =>
    refine (shaped octets deadline shape).bind fun octets => ?_
    cases checksum with
    | false => exact pure octets
    | true => exact more deadline fun _ => trivial
  next hnone =>
    refine (untilQuiet octets deadline).bind fun rest => ?_
    cases direction with
    | request => exact pure rest
    | response => exact fail _

end Keeps

/-- The first octet of an answer is waited for with the deadline for all of them. -/
theorem ends_first_bind {α : Type} {spoiling : Prop} {next : List UInt8 × Nat → Exchange α}
    (transport : Transport)
    (hnext : ∀ start, start.length = 1 →
      Keeps (transport.deadline .response) spoiling (next (start, transport.deadline .response))) :
    Ends (transport.deadline .response) spoiling transport
      ((first .response >>= next) transport) := by
  have hends : Ends (transport.deadline .response) spoiling transport
      (first .response transport) := by
    rw [first_response_eq]
    exact (Keeps.octets _ 1).bind (fun _ => .pure _) transport
  refine hends.bind fun taken after hread => ?_
  obtain ⟨start, limit⟩ := taken
  obtain ⟨-, rfl⟩ := past_of_first hread
  exact hnext start (awaiting_of_first hread).2

/-- With network headers no frame is too long, and nothing is thrown away. -/
theorem ends_readMbap (transport : Transport) :
    Ends (transport.deadline .response) False transport (readMbap .response transport) := by
  refine ends_first_bind transport fun start hone between => ?_
  have hroom : ¬ bufferSize < start.length + Limits.networkPrefix := by
    rw [hone]
    decide
  refine (Keeps.more _ hroom between).bind fun front after hread => ?_
  obtain ⟨rest, rfl, hsix, -⟩ := awaiting_of_more hread
  cases hheader : Mbap.decodeHeader (start ++ rest) with
  | error fault => exact Keeps.get.bind fun _ => .fail _
  | ok announced =>
      obtain ⟨header, length⟩ := announced
      have hshort := Mbap.length_of_decodeHeader hheader
      have hbody : ¬ bufferSize < (start ++ rest).length + length := by
        simp only [bufferSize, Limits.serialFrame, Limits.pdu, Limits.networkPrefix,
          List.length_append] at hshort hsix ⊢
        omega
      exact (Keeps.more _ hbody).bind fun _ => .pure _

theorem ends_readHeadless (checksum : Bool) (transport : Transport) :
    Ends (transport.deadline .response) True transport
      (readHeadless .response checksum transport) := by
  have hoctets : Ends (transport.deadline .response) True transport
      (headlessOctets .response checksum transport) :=
    ends_first_bind transport fun start _ =>
      (Keeps.more _ fun _ => trivial).bind fun octets => .behindCode _ _ octets _
  refine hoctets.bind fun octets _ _ between => ?_
  cases hdecode : Headless.decode checksum octets with
  | ok frame => exact .done (.refl _ _)
  | error fault =>
      dsimp only
      rw [stateful_get_bind]
      split
      next htimed =>
        rw [stateful_bind_ok between.drain_apply]
        exact .discarding trivial (Or.inr htimed) (.refl _ _)
      next => exact .failed (.refl _ _)

theorem Ends.mono {α : Type} {deadline : Nat} {spoiling more : Prop} {transport : Transport}
    {result : Except Halt α × Transport} (hmore : spoiling → more)
    (hends : Ends deadline spoiling transport result) : Ends deadline more transport result := by
  cases hends with
  | done hwithin => exact .done hwithin
  | failed hwithin => exact .failed hwithin
  | discarding hspoiling hspoils hwithin => exact .discarding (hmore hspoiling) hspoils hwithin

theorem ends_reading (transport : Transport) :
    Ends (transport.deadline .response) (transport.framing.isHeadless = true) transport
      (reading transport.framing .response transport) := by
  cases transport.framing with
  | mbap => exact (ends_readMbap transport).mono False.elim
  | headless checksum => exact (ends_readHeadless checksum transport).mono fun _ => rfl

/-- Reading an answer comes to an end.  It does so when a timer ends that was set to the deadline,
unless a frame without a network header is too long or damaged.  The octets that are then
thrown away come one after another before a timer ends that is set to a silence, the first
one before such a timer that was set in time; with one more such timer the reading is over.
So if the peer pauses behind the deadline for one silence, the reading ends with that. -/
theorem read_response_ends (transport : Transport) :
    let limit := transport.line.expiry (transport.deadline .response)
    let silentAt := Line.overAt transport.line.resolution transport.quiet none
    let outcome := (read .response transport).1
    let after := (read .response transport).2
    outcome ≠ .error .waiting ∧
      (after.line.now ≤ limit ∨
        transport.framing.isHeadless = true ∧
        (∃ fault, outcome = .error (.failed (.protocol fault)) ∧ transport.Spoils fault) ∧
        ∃ taken discarded start,
          transport.line.arriving = taken ++ (discarded ++ after.line.arriving) ∧
          start ≤ limit ∧
          Line.Restless transport.line.resolution transport.quiet start discarded ∧
          after.line.now ≤ silentAt (Line.takenAt start discarded)) ∧
      ((∀ arrival ∈ transport.line.arriving, arrival.1 ≤ limit ∨ silentAt limit ≤ arrival.1) →
        after.line.now ≤ silentAt limit) := by
  intro limit silentAt outcome after
  have hends := ends_reading transport
  have hread : read .response transport = (outcome, after) := rfl
  have hlimit : limit ≤ silentAt limit := Line.since_le_ring _ _ _
  rw [read_apply] at hread
  generalize reading transport.framing .response transport = result at hends hread
  cases hends with
  | done hwithin =>
      obtain ⟨houtcome, hafter⟩ := Prod.mk.inj hread
      have hnow : after.line.now ≤ limit := by
        rw [← hafter]
        exact hwithin.now_le
      exact ⟨by rw [← houtcome]; simp, Or.inl hnow, fun _ => hnow.trans hlimit⟩
  | failed hwithin =>
      obtain ⟨houtcome, hafter⟩ := Prod.mk.inj hread
      have hnow : after.line.now ≤ limit := by
        rw [← hafter]
        exact hwithin.now_le
      exact ⟨by rw [← houtcome]; simp, Or.inl hnow, fun _ => hnow.trans hlimit⟩
  | @discarding fault line hheadless hspoils hwithin =>
      obtain ⟨houtcome, hafter⟩ := Prod.mk.inj hread
      have hline : after.line = line.drain transport.quiet := by
        rw [← hafter]
        rfl
      obtain ⟨discarded, hdiscarded, hrestless, hover⟩ :=
        Line.drain_restless transport.quiet line
      obtain ⟨taken, htaken, -⟩ := hwithin.taken
      rw [hwithin.resolution] at hrestless hover
      rw [hline]
      refine ⟨by rw [← houtcome]; simp, Or.inr ⟨hheadless, ⟨fault, houtcome.symm, hspoils⟩, taken,
        discarded, line.now, ?_, hwithin.now_le, hrestless, hover⟩, fun hpause => ?_⟩
      · rw [htaken, ← hdiscarded]
      · have hpaused : ∀ arrival ∈ discarded, arrival.1 ≤ limit ∨ silentAt limit ≤ arrival.1 := by
          intro arrival harrival
          refine hpause arrival ?_
          rw [htaken, hdiscarded]
          exact List.mem_append_right _ (List.mem_append_left _ harrival)
        exact hover.trans
          (Line.overAt_mono _ _ (hrestless.takenAt_le hwithin.now_le hpaused))

/-- A damaged answer with noise behind it, and then a pause: the reading ends with a silence after
its deadline at the latest. -/
theorem read_response_ends_noise :
    let line := Line.ofChunks 1000000
      [(0, [1, 3, 2, 0, 10, 0, 0]), (18000000, [187, 1]), (30000000, [1])] false
    let transport :=
      opened line (.headless true) "peer" (some (.ofBaud 9600 none false)) 20000000
    (∀ arrival ∈ line.arriving, arrival.1 ≤ 20000000 ∨ 25000000 ≤ arrival.1) ∧
      (read .response transport).2.line.now ≤ 25000000 := by
  intro line transport
  have hlimit : transport.line.expiry (transport.deadline .response) = 20000000 := by
    decide +kernel
  have hsilent : Line.overAt transport.line.resolution transport.quiet none 20000000 =
      25000000 := by decide +kernel
  have hpause : ∀ arrival ∈ line.arriving, arrival.1 ≤ 20000000 ∨ 25000000 ≤ arrival.1 := by
    decide +kernel
  obtain ⟨-, -, hends⟩ := read_response_ends transport
  rw [hlimit, hsilent] at hends
  exact ⟨hpause, hends hpause⟩

/-- As long as octets follow a damaged frame without a silence between them, the reading goes
on. -/
theorem read_outlasts_burst {between : Transport} {direction : Direction} {checksum : Bool}
    {octets : List UInt8} {fault : ProtocolFault} {burst rest : List (Nat × UInt8)}
    {transport : Transport} (hframing : transport.framing = .headless checksum)
    (htiming : transport.timing.isSome) (harriving : transport.line.arriving = burst ++ rest)
    (hgapless : Line.Gapless transport.quiet burst)
    (hknown : (shape? direction (transport.awaiting.getD 1 0)).isSome)
    (htaken : headlessOctets direction checksum transport = (.ok octets, between))
    (hinside : octets.length ≤ burst.length)
    (hdecode : Headless.decode checksum octets = .error fault) :
    ∀ arrival ∈ burst, arrival.1 ≤ (read direction transport).2.line.now := by
  obtain ⟨-, rfl, htwo⟩ := past_of_headlessOctets htaken hknown
  obtain ⟨hleft, hunbroken⟩ := hgapless.unbroken_past harriving (by omega) hinside
  have hdrain := Line.drain_unbroken hleft hunbroken
  rw [Line.past_past, List.length_drop, Nat.add_sub_cancel' hinside] at hdrain
  have hread := read_undecoded hframing htaken hdecode
  rw [if_pos (show (transport.past octets.length).timing.isSome from htiming)] at hread
  have hline : (read direction transport).2.line =
      (transport.line.past burst.length).drain transport.quiet := by
    rw [hread]
    exact hdrain
  intro arrival harrival
  have hcame : arrival.1 ≤ (transport.line.past burst.length).now :=
    Line.le_past (by rwa [harriving, List.take_left])
  rw [hline]
  exact hcame.trans (Line.Later.drain _ _).clock

/-- A damaged answer, and then a right one every three milliseconds.  Twenty milliseconds are
allowed for an answer, and less than five for a silence.  The first reading goes on for
longer than both of them and throws away all the answers, and the second one finds
none. -/
theorem read_response_held_up :
    let answer : Frame := ⟨⟨0, 0, 1⟩, [3, 2, 0, 5]⟩
    let line := Line.ofChunks 1000000
      ((0, [1, 3, 2, 0, 10, 0, 0]) :: List.replicate 12 (3000000, Headless.encode true answer))
      false
    let transport :=
      opened line (.headless true) "peer" (some (.ofBaud 9600 none false)) 20000000
    let damage := read .response transport
    damage.1 = .error (.failed (.protocol (.checksum 0x4338 0))) ∧
      transport.line.now + transport.timeout + transport.quiet + line.resolution <
        damage.2.line.now ∧
      damage.2.line.arriving = [] ∧
      (read .response damage.2).1 = .error (.failed (.timeout (.frame "peer" 20000000))) := by
  decide +kernel

end Transport

end Modbus
