import Mathlib.Tactic
import Modbus.Proofs.FrameReading

/-!
# Silences

A reader that takes octets up to the next silence is told of it by a timer.  As
long as octets follow each other fast enough it takes them all; then it waits, and
goes on when the timer ends.
-/

namespace Modbus

namespace Line

/-- When a timer ends that was started at one time and set to another. -/
def ring (resolution since time : Nat) : Nat := (Line.mk since resolution [] none).expiry time

theorem expiry_eq_ring (line : Line) (time : Nat) :
    line.expiry time = ring line.resolution line.now time := rfl

/-- No timer ends before it was started. -/
theorem since_le_ring (resolution since time : Nat) : since ≤ ring resolution since time :=
  now_le_expiry (Line.mk since resolution [] none) time

/-- A timer that is set to a later time does not end earlier. -/
theorem ring_mono (resolution since : Nat) {time later : Nat} (htime : time ≤ later) :
    ring resolution since time ≤ ring resolution since later := by
  by_cases hpassed : time ≤ since
  · have hsince : ring resolution since time = since := by simp [ring, expiry, hpassed]
    rw [hsince]
    exact since_le_ring resolution since later
  · have hsum : time + max resolution 1 - 1 ≤ later + max resolution 1 - 1 := by omega
    have hticks := Nat.mul_le_mul_right (max resolution 1)
      (Nat.div_le_div_right (c := max resolution 1) hsum)
    simp only [ring, expiry]
    rwa [if_neg hpassed, if_neg (by omega)]

/-- A timer ends no later than at the first tick of the clock behind the time it is set to. -/
theorem ring_le_of_tick {resolution since time tick : Nat} (hsince : since ≤ tick)
    (htime : time ≤ tick) (htick : max resolution 1 ∣ tick) :
    ring resolution since time ≤ tick := by
  obtain ⟨ticks, rfl⟩ := htick
  have hunit : 0 < max resolution 1 := by omega
  simp only [ring, expiry]
  split
  next => exact hsince
  next =>
    have hticks : (time + max resolution 1 - 1) / max resolution 1 ≤ ticks := by
      rw [← Nat.lt_succ_iff, Nat.div_lt_iff_lt_mul hunit, Nat.succ_mul, Nat.mul_comm ticks]
      omega
    rw [Nat.mul_comm]
    exact Nat.mul_le_mul_left _ hticks

/-- Octets follow each other from a time on with less than `quiet` between them. -/
def Steady (quiet : Nat) : Nat → List (Nat × UInt8) → Prop
  | _, [] => True
  | since, arrival :: arrivals =>
    since ≤ arrival.1 ∧ arrival.1 < since + quiet ∧ Steady quiet arrival.1 arrivals

instance decidableSteady (quiet : Nat) :
    (since : Nat) → (arrivals : List (Nat × UInt8)) → Decidable (Steady quiet since arrivals)
  | _, [] => .isTrue trivial
  | since, arrival :: arrivals =>
    have := decidableSteady quiet arrival.1 arrivals
    inferInstanceAs (Decidable (since ≤ arrival.1 ∧ arrival.1 < since + quiet ∧
      Steady quiet arrival.1 arrivals))

/-- When the last of some octets has arrived. -/
def lastTime : Nat → List (Nat × UInt8) → Nat
  | since, [] => since
  | _, arrival :: arrivals => lastTime arrival.1 arrivals

section Steady

variable {quiet since : Nat} {arrivals rest : List (Nat × UInt8)} {line : Line}

theorem Steady.le_lastTime (hsteady : Steady quiet since arrivals) :
    since ≤ lastTime since arrivals := by
  induction arrivals generalizing since with
  | nil => exact le_refl since
  | cons arrival arrivals ih => exact hsteady.1.trans (ih hsteady.2.2)

theorem Steady.mem_le_lastTime (hsteady : Steady quiet since arrivals) :
    ∀ arrival ∈ arrivals, arrival.1 ≤ lastTime since arrivals := by
  induction arrivals generalizing since with
  | nil =>
      intro arrival harrival
      contradiction
  | cons first arrivals ih =>
      exact List.forall_mem_cons.mpr ⟨hsteady.2.2.le_lastTime, ih hsteady.2.2⟩

/-- What follows the octets that have been taken is as steady as all of them. -/
theorem Steady.past (harriving : line.arriving = arrivals ++ rest)
    (hsteady : Steady quiet line.now arrivals) {count : Nat} (hcount : count ≤ arrivals.length) :
    (line.past count).arriving = arrivals.drop count ++ rest ∧
      Steady quiet (line.past count).now (arrivals.drop count) ∧
      lastTime (line.past count).now (arrivals.drop count) = lastTime line.now arrivals := by
  induction count generalizing line arrivals with
  | zero => exact ⟨harriving, hsteady, rfl⟩
  | succ count ih =>
      cases arrivals with
      | nil => contradiction
      | cons arrival arrivals =>
          obtain ⟨hafter, -, hothers⟩ := hsteady
          have hnow : (line.past 1).now = arrival.1 := by
            simp only [Line.past, harriving, List.cons_append, List.take_succ_cons, List.take_zero,
              List.foldl_cons, List.foldl_nil]
            exact Nat.max_eq_right hafter
          have hleft : (line.past 1).arriving = arrivals ++ rest := by
            simp [Line.past, harriving]
          have hlater := ih hleft (by rwa [hnow]) (Nat.le_of_succ_le_succ hcount)
          rwa [past_past, Nat.add_comm 1 count, hnow] at hlater

/-- The clock of a reader who takes steady octets, however late it begins. -/
theorem Steady.foldl_max (hsteady : Steady quiet since arrivals) (now : Nat) :
    arrivals.foldl (fun now arrival => max now arrival.1) (max now since) =
      max now (lastTime since arrivals) := by
  induction arrivals generalizing since with
  | nil => rfl
  | cons arrival arrivals ih =>
      obtain ⟨hafter, -, hothers⟩ := hsteady
      rw [List.foldl_cons, Nat.max_assoc, Nat.max_eq_right hafter]
      exact ih hothers

end Steady

section Unbroken

variable {quiet since : Nat} {arrivals rest : List (Nat × UInt8)} {line : Line}

/-- For a reader who takes them from a time on, octets follow each other with less than `quiet`
between them.  Those that are there already do not have to be waited for. -/
def Unbroken (quiet : Nat) : Nat → List (Nat × UInt8) → Prop
  | _, [] => True
  | now, arrival :: arrivals =>
    arrival.1 < now + quiet ∧ Unbroken quiet (max now arrival.1) arrivals

/-- A reader finds steady octets unbroken, however late it is. -/
theorem Steady.unbroken (hsteady : Steady quiet since arrivals) (now : Nat) :
    Unbroken quiet (max now since) arrivals := by
  induction arrivals generalizing since with
  | nil => trivial
  | cons arrival arrivals ih =>
      obtain ⟨hafter, hsoon, hothers⟩ := hsteady
      refine ⟨by omega, ?_⟩
      rw [Nat.max_assoc, Nat.max_eq_right hafter]
      exact ih hothers

/-- What is left of unbroken octets when some have been taken is unbroken. -/
theorem Unbroken.past (harriving : line.arriving = arrivals ++ rest)
    (hunbroken : Unbroken quiet line.now arrivals) {count : Nat}
    (hcount : count ≤ arrivals.length) :
    (line.past count).arriving = arrivals.drop count ++ rest ∧
      Unbroken quiet (line.past count).now (arrivals.drop count) := by
  induction count generalizing line arrivals with
  | zero => exact ⟨harriving, hunbroken⟩
  | succ count ih =>
      cases arrivals with
      | nil => contradiction
      | cons arrival arrivals =>
          have hleft : (line.past 1).arriving = arrivals ++ rest := by simp [Line.past, harriving]
          have hnow : (line.past 1).now = max line.now arrival.1 := by simp [Line.past, harriving]
          have hothers := ih hleft (by rw [hnow]; exact hunbroken.2) (Nat.le_of_succ_le_succ hcount)
          rwa [past_past, Nat.add_comm 1 count] at hothers

end Unbroken

/-! ## Waiting for silence -/

theorem not_inTime {line : Line} {limit time : Nat} (hafter : line.now < time)
    (hlate : line.expiry limit ≤ time) :
    ¬(time ≤ line.now ∨ line.inTime (some limit) time = true) := by
  simp only [inTime, decide_eq_true_eq]
  omega

theorem next_late {line : Line} {limit : Nat} {first : Nat × UInt8} {rest : List (Nat × UInt8)}
    (harriving : line.arriving = first :: rest) (hafter : line.now < first.1)
    (hlate : line.expiry limit ≤ first.1) :
    line.next (some limit) = (.overdue, line.sleepUntil limit) := by
  unfold next
  simp only [harriving, if_neg (not_inTime hafter hlate)]
  rfl

/-- Whoever waits for an octet learns that it is overdue when it comes too late, or the line ends
too late. -/
theorem next_overdue {line : Line} {limit : Nat}
    (hlate : ∀ time ∈ (line.arriving.head?.map Prod.fst).or line.endsAt,
      line.now < time ∧ line.expiry limit ≤ time) :
    line.next (some limit) = (.overdue, line.sleepUntil limit) := by
  cases harriving : line.arriving with
  | nil =>
      rw [harriving] at hlate
      unfold next
      rw [harriving]
      cases hends : line.endsAt with
      | none => rfl
      | some time =>
          obtain ⟨hafter, hrung⟩ := hlate time hends
          simp only [if_neg (not_inTime hafter hrung)]
          rfl
  | cons first rest =>
      obtain ⟨hafter, hrung⟩ := hlate first.1 (by rw [harriving]; rfl)
      exact next_late harriving hafter hrung

/-- How long the next octet is waited for when a frame ends with a silence. -/
def patience (quiet : Nat) (deadline : Option Nat) (now : Nat) : Nat :=
  match deadline with
  | some deadline => min quiet (deadline - now)
  | none => quiet

theorem patience_pos {quiet now : Nat} {deadline : Option Nat} (hquiet : 0 < quiet)
    (hdeadline : ∀ limit ∈ deadline, now < limit) : 0 < patience quiet deadline now := by
  cases deadline with
  | none => exact hquiet
  | some limit =>
      have hlimit := hdeadline limit rfl
      simp only [patience]
      omega

section Stretch

variable {quiet most : Nat} {deadline : Option Nat} {line after : Line}
  {arrivals rest : List (Nat × UInt8)}

theorem stretch_octet {octet : UInt8}
    (hnext : line.next (some (line.now + patience quiet deadline line.now)) =
      (.octet octet, after)) :
    line.stretch quiet deadline (most + 1) =
      (octet :: (after.stretch quiet deadline most).1, (after.stretch quiet deadline most).2) := by
  rw [stretch.eq_def]
  cases deadline <;> simp only [patience] at hnext <;> simp only [hnext]

theorem stretch_overdue
    (hnext : line.next (some (line.now + patience quiet deadline line.now)) = (.overdue, after)) :
    line.stretch quiet deadline (most + 1) = ([], .silence, after) := by
  rw [stretch.eq_def]
  cases deadline <;> simp only [patience] at hnext <;> simp only [hnext]

/-- When a reader takes steady octets to be over: a while after the last of them. -/
def overAt (resolution quiet : Nat) (deadline : Option Nat) (last : Nat) : Nat :=
  ring resolution last (last + patience quiet deadline last)

/-- Unbroken octets that arrive before the deadline are taken, as far as they are wanted. -/
theorem stretch_unbroken (more : Nat) (harriving : line.arriving = arrivals ++ rest)
    (hunbroken : Unbroken quiet line.now arrivals)
    (hintime : ∀ arrival ∈ arrivals, ∀ limit ∈ deadline, arrival.1 < limit) :
    line.stretch quiet deadline (arrivals.length + more) =
      (arrivals.map Prod.snd ++ ((line.past arrivals.length).stretch quiet deadline more).1,
        ((line.past arrivals.length).stretch quiet deadline more).2) := by
  induction arrivals generalizing line with
  | nil =>
      rw [List.length_nil, Nat.zero_add]
      rfl
  | cons arrival arrivals ih =>
      obtain ⟨hsoon, hothers⟩ := hunbroken
      obtain ⟨hfirst, hlater⟩ := List.forall_mem_cons.mp hintime
      have hprompt : line.Prompt 1 (some (line.now + patience quiet deadline line.now)) := by
        intro first hmem time htime
        obtain rfl := Option.mem_some_iff.mp htime
        rw [harriving, List.cons_append, List.take_succ_cons, List.take_zero,
          List.mem_singleton] at hmem
        obtain rfl := hmem
        cases deadline with
        | none => exact hsoon
        | some limit =>
            have hlimit := hfirst limit rfl
            simp only [patience]
            omega
      have hnext := next_eq harriving hprompt
      have hleft : (line.past 1).arriving = arrivals ++ rest := by simp [past, harriving]
      have hnow : (line.past 1).now = max line.now arrival.1 := by simp [past, harriving]
      have hcount : (arrival :: arrivals).length + more = arrivals.length + more + 1 := by
        rw [List.length_cons]
        omega
      rw [hcount, stretch_octet hnext, ih hleft (by rwa [hnow]) hlater, past_past,
        List.length_cons, Nat.add_comm 1]
      rfl

/-- Unbroken octets are taken up to the silence behind them.  It is measured from when the reader
has taken the last of them. -/
theorem stretch_silence (harriving : line.arriving = arrivals ++ rest)
    (hunbroken : Unbroken quiet line.now arrivals) (hquiet : 0 < quiet)
    (hdeadline : ∀ limit ∈ deadline, (line.past arrivals.length).now < limit)
    (hmost : arrivals.length < most)
    (hsilent : ∀ time ∈ (rest.head?.map Prod.fst).or line.endsAt,
      overAt line.resolution quiet deadline (line.past arrivals.length).now ≤ time) :
    line.stretch quiet deadline most =
      (arrivals.map Prod.snd, .silence,
        { line with
          now := overAt line.resolution quiet deadline (line.past arrivals.length).now
          arriving := rest }) := by
  obtain ⟨more, rfl⟩ := Nat.exists_eq_add_of_lt hmost
  have hintime : ∀ arrival ∈ arrivals, ∀ limit ∈ deadline, arrival.1 < limit := by
    intro arrival harrival limit hlimit
    have htaken : arrival ∈ line.arriving.take arrivals.length := by
      rwa [harriving, List.take_left]
    exact (mem_le_foldl_max htaken line.now).trans_lt (hdeadline limit hlimit)
  rw [Nat.add_assoc, stretch_unbroken (more + 1) harriving hunbroken hintime]
  set behind := line.past arrivals.length with hbehind
  have hleft : behind.arriving = rest := by
    rw [hbehind]
    simp only [past, harriving, List.drop_left]
  -- Nothing unbroken is left, and the timer ends before anything else happens.
  have hpositive := patience_pos hquiet hdeadline
  have hlater : behind.now + patience quiet deadline behind.now ≤
      behind.expiry (behind.now + patience quiet deadline behind.now) := le_expiry (by omega)
  have hoverdue : behind.next (some (behind.now + patience quiet deadline behind.now)) =
      (.overdue, behind.sleepUntil (behind.now + patience quiet deadline behind.now)) := by
    refine next_overdue fun time htime => ?_
    rw [hleft] at htime
    have hlate := hsilent time htime
    exact ⟨(Nat.lt_add_of_pos_right hpositive).trans_le (hlater.trans hlate), hlate⟩
  rw [stretch_overdue hoverdue, List.append_nil, ← hleft]
  rfl

/-- All steady octets are taken, up to the silence behind them. -/
theorem stretch_steady (harriving : line.arriving = arrivals ++ rest)
    (hsteady : Steady quiet line.now arrivals) (hquiet : 0 < quiet)
    (hdeadline : ∀ limit ∈ deadline, lastTime line.now arrivals < limit)
    (hmost : arrivals.length < most)
    (hsilent : ∀ time ∈ (rest.head?.map Prod.fst).or line.endsAt,
      overAt line.resolution quiet deadline (lastTime line.now arrivals) ≤ time) :
    line.stretch quiet deadline most =
      (arrivals.map Prod.snd, .silence,
        { line with
          now := overAt line.resolution quiet deadline (lastTime line.now arrivals)
          arriving := rest }) := by
  have hunbroken := hsteady.unbroken line.now
  rw [Nat.max_self] at hunbroken
  have hclock : (line.past arrivals.length).now = lastTime line.now arrivals := by
    have hlast := hsteady.foldl_max line.now
    rw [Nat.max_self, Nat.max_eq_right hsteady.le_lastTime] at hlast
    rw [past, harriving, List.take_left]
    exact hlast
  rw [← hclock] at hdeadline hsilent ⊢
  exact stretch_silence harriving hunbroken hquiet hdeadline hmost hsilent

end Stretch

/-! ## Lines later on -/

section Later

variable {line after : Line}

/-- A line at a later time: some octets have been taken from its front, and these have arrived. -/
structure Later (line after : Line) : Prop where
  taken : ∃ taken, line.arriving = taken ++ after.arriving ∧
    ∀ arrival ∈ taken, arrival.1 ≤ after.now
  clock : line.now ≤ after.now

namespace Later

theorem refl (line : Line) : line.Later line :=
  ⟨⟨[], rfl, fun arrival harrival => by contradiction⟩, le_refl line.now⟩

theorem trans {last : Line} (hfirst : line.Later after) (hsecond : after.Later last) :
    line.Later last := by
  obtain ⟨⟨front, hfront, hsooner⟩, hclock⟩ := hfirst
  obtain ⟨⟨back, hback, hlater⟩, hmore⟩ := hsecond
  refine ⟨⟨front ++ back, ?_, fun arrival harrival => ?_⟩, hclock.trans hmore⟩
  · rw [hfront, hback, List.append_assoc]
  · rcases List.mem_append.mp harrival with hmem | hmem
    · exact (hsooner arrival hmem).trans hmore
    · exact hlater arrival hmem

theorem suffix (hlater : line.Later after) : after.arriving <:+ line.arriving := by
  obtain ⟨taken, htaken, -⟩ := hlater.taken
  exact ⟨taken, htaken.symm⟩

theorem waitInVain (deadline : Option Nat) (line : Line) :
    line.Later (line.waitInVain deadline).2 := by
  cases deadline with
  | none => exact refl line
  | some limit =>
      exact ⟨⟨[], rfl, fun arrival harrival => by contradiction⟩, now_le_expiry line limit⟩

theorem next (deadline : Option Nat) (line : Line) : line.Later (line.next deadline).2 := by
  unfold Line.next
  split
  next time octet rest harriving =>
    split
    next =>
      refine ⟨⟨[(time, octet)], harriving, fun arrival harrival => ?_⟩, Nat.le_max_left _ _⟩
      rw [List.mem_singleton.mp harrival]
      exact Nat.le_max_right line.now time
    next => exact waitInVain deadline line
  next =>
    split
    next =>
      split
      next =>
        exact ⟨⟨[], rfl, fun arrival harrival => by contradiction⟩, Nat.le_max_left _ _⟩
      next => exact waitInVain deadline line
    next => exact waitInVain deadline line

theorem exactly (deadline : Option Nat) (count : Nat) (line : Line) :
    line.Later (line.exactly deadline count).2 := by
  induction count generalizing line with
  | zero => exact refl line
  | succ count ih =>
      have hone := next deadline line
      unfold Line.exactly
      split
      next octet between hnext =>
        rw [hnext] at hone
        have hothers := hone.trans (ih between)
        split <;> next hexactly => rwa [hexactly] at hothers
      next arrival after hvain hnext => rwa [hnext] at hone

theorem stretch (quiet : Nat) (deadline : Option Nat) (most : Nat) (line : Line) :
    line.Later (line.stretch quiet deadline most).2.2 := by
  induction most generalizing line with
  | zero => exact refl line
  | succ most ih =>
      have hone := next (some (line.now + patience quiet deadline line.now)) line
      rcases hnext : line.next (some (line.now + patience quiet deadline line.now)) with
        ⟨arrival, after⟩
      rw [hnext] at hone
      cases arrival with
      | octet octet =>
          rw [stretch_octet hnext]
          exact hone.trans (ih after)
      | overdue =>
          rw [stretch_overdue hnext]
          exact hone
      | ended | never =>
          rw [stretch.eq_def]
          cases deadline <;> simp only [patience] at hnext <;> simpa only [hnext] using hone

theorem drain (quiet : Nat) (line : Line) : line.Later (line.drain quiet) :=
  stretch quiet none (line.arriving.length + 1) line

end Later

end Later

end Line

end Modbus
