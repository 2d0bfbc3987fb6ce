import Mathlib.Tactic
import Modbus.Proofs.ReadTimes

/-!
# Echoes

On some lines everything that is sent comes back.  A master reads as many octets as it
has sent before it waits for the answer, whatever they are, and from then on it cannot
tell that there was an echo: it finds the line as if the answer were all that ever came.

Only its clock differs.  It begins to wait for the answer when it has the echo, so its
deadline is a later one.  The two deadlines lead to the same result if nothing happens
between them.
-/

namespace Modbus

namespace Line

/-- What has not been read. -/
def unread (line : Line) : List (Nat × UInt8) × Option Nat := (line.arriving, line.endsAt)

/-- A time is not between a deadline and the end of a timer that is set to another one. -/
def Apart (resolution early late time : Nat) : Prop :=
  time < early ∨ late + max resolution 1 ≤ time

instance (resolution early late time : Nat) : Decidable (Apart resolution early late time) :=
  inferInstanceAs (Decidable (_ ∨ _))

/-- Nothing happens on a line between two deadlines.  So it is where everything comes before the
first of them. -/
structure Pauses (early late : Nat) (line : Line) : Prop where
  octets : ∀ arrival ∈ line.arriving, Apart line.resolution early late arrival.1
  ends : ∀ time ∈ line.endsAt, Apart line.resolution early late time

/-- A line after a wait in which nothing happened that had not happened before. -/
structure Waited (line other : Line) : Prop where
  arriving : other.arriving = line.arriving
  endsAt : other.endsAt = line.endsAt
  resolution : other.resolution = line.resolution
  clock : line.now ≤ other.now
  octets : ∀ arrival ∈ line.arriving, other.now ≤ max line.now arrival.1
  ends : ∀ time ∈ line.endsAt, other.now ≤ max line.now time

/-- Two readers wait, one of them from later on and until later.  Neither gives up before the
first deadline, or waits any longer when the second one has passed. -/
structure Waiting (early late : Nat) (line other : Line) (limit later : Nat) : Prop
    extends line.Waited other where
  start : other.now ≤ max late line.now
  early_le : early ≤ max limit line.now
  limit_le_later : limit ≤ later
  limit_le : limit ≤ max late line.now
  later_le : later ≤ max late other.now

variable {line other after : Line} {early late limit later time : Nat}

theorem Waited.refl (line : Line) : line.Waited line :=
  ⟨rfl, rfl, rfl, le_refl _, fun _ _ => Nat.le_max_left _ _, fun _ _ => Nat.le_max_left _ _⟩

theorem Waited.unread (hwaited : line.Waited other) : line.unread = other.unread := by
  rw [Line.unread, Line.unread, hwaited.arriving, hwaited.endsAt]

theorem Pauses.next {deadline : Option Nat} {octet : UInt8} (hpauses : line.Pauses early late)
    (hnext : line.next deadline = (.octet octet, after)) : after.Pauses early late := by
  rw [past_of_next hnext]
  constructor
  · intro arrival harrival
    exact hpauses.octets arrival (List.mem_of_mem_drop harrival)
  · exact hpauses.ends

/-- What comes before a deadline comes in time. -/
theorem inTime_of_lt_max (line : Line) (hbefore : time < max limit line.now) :
    time ≤ line.now ∨ line.inTime (some limit) time = true := by
  by_cases hpassed : limit ≤ line.now
  · left
    omega
  · apply inTime_of_lt
    intro deadline hdeadline
    rw [← Option.some.inj hdeadline]
    omega

/-- What comes after the end of every timer that is set to a deadline does not come in time. -/
theorem inTime_iff_of_late (line : Line) (hafter : late + max line.resolution 1 ≤ time)
    (hlimit : limit ≤ max late line.now) :
    time ≤ line.now ∨ line.inTime (some limit) time = true ↔ time ≤ line.now := by
  apply or_iff_left_of_imp
  intro hsoon
  simp only [inTime, decide_eq_true_eq] at hsoon
  by_cases hpassed : limit ≤ line.now
  · have hexpiry : line.expiry limit = line.now := by simp [expiry, hpassed]
    omega
  · have hexpiry := line.expiry_le limit
    generalize max line.resolution 1 = unit at hafter hexpiry
    omega

/-- Either both readers learn of something that happens, or neither of them does. -/
theorem Waiting.inTime_iff (hwaiting : Waiting early late line other limit later)
    (hapart : Apart line.resolution early late time) :
    time ≤ line.now ∨ line.inTime (some limit) time = true ↔
      time ≤ other.now ∨ other.inTime (some later) time = true := by
  obtain ⟨hwaited, hstart, hearly, hless, hlimit, hlater⟩ := hwaiting
  have hclock := hwaited.clock
  rcases hapart with hbefore | hafter
  · apply iff_of_true
    · exact line.inTime_of_lt_max (by omega)
    · exact other.inTime_of_lt_max (by omega)
  · -- The timers are over, so only what came before they were set is still there in time.
    rw [line.inTime_iff_of_late hafter hlimit]
    rw [← hwaited.resolution] at hafter
    rw [other.inTime_iff_of_late hafter hlater]
    have hunit : 1 ≤ max other.resolution 1 := Nat.le_max_right _ _
    omega

/-- The same comes of waiting for an octet, and who gets one goes on alike. -/
structure SameArrival (one other : Arrival × Line) : Prop where
  arrival : one.1 = other.1
  unread : one.2.unread = other.2.unread
  line : ∀ octet, one.1 = .octet octet → one.2 = other.2

theorem next_agrees (hpauses : line.Pauses early late)
    (hwaiting : Waiting early late line other limit later) :
    SameArrival (line.next (some limit)) (other.next (some later)) := by
  have hsame := hwaiting.unread
  have hclock := hwaiting.clock
  unfold next
  rw [hwaiting.arriving, hwaiting.endsAt]
  cases harriving : line.arriving with
  | cons first rest =>
      have hhead : first ∈ line.arriving := by simp [harriving]
      have hcatch := hwaiting.octets first hhead
      have hiff := hwaiting.inTime_iff (hpauses.octets first hhead)
      by_cases hsoon : first.1 ≤ line.now ∨ line.inTime (some limit) first.1 = true
      · have hmoment : max line.now first.1 = max other.now first.1 := by omega
        have htaken : ({ line with now := max line.now first.1, arriving := rest } : Line) =
            ⟨max other.now first.1, other.resolution, rest, line.endsAt⟩ := by
          rw [hmoment, hwaiting.resolution]
        simp only [if_pos hsoon, if_pos (hiff.mp hsoon), htaken]
        exact ⟨rfl, rfl, fun _ _ => rfl⟩
      · simp only [if_neg hsoon, if_neg (mt hiff.mpr hsoon)]
        exact ⟨rfl, hsame, nofun⟩
  | nil =>
      cases hends : line.endsAt with
      | none => exact ⟨rfl, hsame, nofun⟩
      | some time =>
          have hiff := hwaiting.inTime_iff (hpauses.ends time hends)
          by_cases hsoon : time ≤ line.now ∨ line.inTime (some limit) time = true
          · simp only [if_pos hsoon, if_pos (hiff.mp hsoon)]
            exact ⟨rfl, rfl, nofun⟩
          · simp only [if_neg hsoon, if_neg (mt hiff.mpr hsoon)]
            exact ⟨rfl, hsame, nofun⟩

/-- Readers who wait for a number of octets get the same ones, or both fail. -/
structure SameOctets (early late : Nat) (one other : Except Arrival (List UInt8) × Line) :
    Prop where
  outcome : one.1 = other.1
  unread : one.2.unread = other.2.unread
  line : ∀ octets, one.1 = .ok octets → one.2 = other.2 ∧ one.2.Pauses early late

theorem exactly_succ_agrees {count : Nat} (hpauses : line.Pauses early late)
    (hwaited : line.Waited other) (hstart : other.now ≤ max late line.now)
    (hless : early ≤ late) (hothers : ∀ after, Pauses early late after →
      SameOctets early late (after.exactly (some early) count) (after.exactly (some late) count)) :
    SameOctets early late (line.exactly (some early) (count + 1))
      (other.exactly (some late) (count + 1)) := by
  have hwaiting : Waiting early late line other early late :=
    ⟨hwaited, hstart, Nat.le_max_left _ _, hless, by omega, Nat.le_max_left _ _⟩
  obtain ⟨harrival, hunread, hoctet⟩ := next_agrees hpauses hwaiting
  rcases hone : line.next (some early) with ⟨arrival, after⟩
  rcases hother : other.next (some late) with ⟨partner, last⟩
  rw [hone, hother] at harrival hunread hoctet
  obtain rfl : arrival = partner := harrival
  cases arrival with
  | octet octet =>
      -- Whenever the readers began to wait, they have this octet at the same time.
      obtain rfl : after = last := hoctet octet rfl
      obtain ⟨hoctets, hleft, htaken⟩ := hothers after (hpauses.next hone)
      rcases hfirst : after.exactly (some early) count with ⟨outcome, rest⟩
      rcases hsecond : after.exactly (some late) count with ⟨result, remains⟩
      rw [hfirst, hsecond] at hoctets hleft htaken
      obtain rfl : outcome = result := hoctets
      simp only [exactly, hone, hother, hfirst, hsecond]
      cases outcome with
      | ok octets => exact ⟨rfl, hleft, fun _ _ => htaken octets rfl⟩
      | error arrival => exact ⟨rfl, hleft, fun _ hfalse => by contradiction⟩
  | overdue | ended | never =>
      simp only [exactly, hone, hother]
      exact ⟨rfl, hunread, fun _ hfalse => by contradiction⟩

theorem exactly_agrees (hpauses : line.Pauses early late) (hless : early ≤ late) (count : Nat) :
    SameOctets early late (line.exactly (some early) count) (line.exactly (some late) count) := by
  induction count generalizing line with
  | zero => exact ⟨rfl, rfl, fun _ _ => ⟨rfl, hpauses⟩⟩
  | succ count ih =>
      exact exactly_succ_agrees hpauses (.refl line) (Nat.le_max_right _ _) hless fun _ => ih

/-- Readers who wait for the next octet until there is a silence, but no longer than until the
deadline. -/
theorem next_patience_agrees (hpauses : line.Pauses early late) (hless : early ≤ late)
    (quiet : Nat) :
    SameArrival (line.next (some (line.now + patience quiet (some early) line.now)))
      (line.next (some (line.now + patience quiet (some late) line.now))) := by
  set limit := line.now + patience quiet (some early) line.now with hlimit
  set later := line.now + patience quiet (some late) line.now with hlater
  simp only [patience] at hlimit hlater
  by_cases hsilence : quiet ≤ early - line.now
  · -- The silence ends before both deadlines.
    have hsame : limit = later := by omega
    rw [hsame]
    exact ⟨rfl, rfl, fun _ _ => rfl⟩
  · apply next_agrees hpauses
    exact ⟨.refl line, Nat.le_max_right _ _, by omega, by omega, by omega, by omega⟩

/-- Readers who take octets up to the next silence take the same ones. -/
structure SameStretch (one other : List UInt8 × StretchEnd × Line) : Prop where
  octets : one.1 = other.1
  stop : one.2.1 = other.2.1
  unread : one.2.2.unread = other.2.2.unread
  line : one.2.1 = .full → one.2.2 = other.2.2

theorem stretch_agrees (hpauses : line.Pauses early late) (hless : early ≤ late)
    (quiet most : Nat) :
    SameStretch (line.stretch quiet (some early) most) (line.stretch quiet (some late) most) := by
  induction most generalizing line with
  | zero => exact ⟨rfl, rfl, rfl, fun _ => rfl⟩
  | succ most ih =>
      obtain ⟨harrival, hunread, hoctet⟩ := next_patience_agrees hpauses hless quiet
      rcases hone : line.next (some (line.now + patience quiet (some early) line.now)) with
        ⟨arrival, after⟩
      rcases hother : line.next (some (line.now + patience quiet (some late) line.now)) with
        ⟨partner, last⟩
      rw [hone, hother] at harrival hunread hoctet
      obtain rfl : arrival = partner := harrival
      cases arrival with
      | octet octet =>
          obtain rfl : after = last := hoctet octet rfl
          obtain ⟨hoctets, hstop, hleft, hfull⟩ := ih (hpauses.next hone)
          rw [stretch_octet hone, stretch_octet hother]
          exact ⟨congrArg (octet :: ·) hoctets, hstop, hleft, hfull⟩
      | overdue =>
          rw [stretch_overdue hone, stretch_overdue hother]
          exact ⟨rfl, rfl, hunread, fun hfalse => by contradiction⟩
      | ended | never =>
          simp only [patience] at hone hother
          rw [stretch.eq_def, stretch.eq_def quiet (some late)]
          simp only [hone, hother]
          exact ⟨rfl, rfl, hunread, fun hfalse => by contradiction⟩

/-- What comes from the peer comes in order, and the line ends behind it. -/
structure InOrder (line : Line) : Prop where
  octets : line.arriving.Pairwise fun arrival next => arrival.1 ≤ next.1
  ends : ∀ arrival ∈ line.arriving, ∀ time ∈ line.endsAt, arrival.1 ≤ time

theorem now_past_append {taken rest : List (Nat × UInt8)}
    (harriving : line.arriving = taken ++ rest) :
    (line.past taken.length).now = takenAt line.now taken := by
  show takenAt line.now (line.arriving.take taken.length) = takenAt line.now taken
  rw [harriving, List.take_left]

/-- Whoever takes the first octets of a line waits for nothing that comes behind them. -/
theorem InOrder.waited {taken rest : List (Nat × UInt8)} (horder : line.InOrder)
    (harriving : line.arriving = taken ++ rest) :
    Waited { line with arriving := rest } (line.past taken.length) := by
  have hnow := now_past_append harriving
  obtain ⟨hsorted, hends⟩ := horder
  rw [harriving] at hsorted hends
  have hlast {time : Nat} (hbehind : ∀ arrival ∈ taken, arrival.1 ≤ time) :
      (line.past taken.length).now ≤ max line.now time := by
    rw [hnow]
    apply foldl_max_le (Nat.le_max_left _ _)
    intro arrival harrival
    exact (hbehind arrival harrival).trans (Nat.le_max_right _ _)
  refine ⟨by simp [past, harriving], rfl, rfl, by rw [hnow]; exact le_foldl_max _ _,
    fun arrival harrival => hlast ?_, fun time htime => hlast ?_⟩
  · intro earlier hearlier
    exact (List.pairwise_append.mp hsorted).2.2 earlier hearlier arrival harrival
  · intro earlier hearlier
    exact hends earlier (List.mem_append_left _ hearlier) time htime

end Line

namespace Transport

/-- Transports that are not told apart by reading, unless by their lines. -/
structure Akin (transport other : Transport) : Prop where
  timeout : transport.timeout = other.timeout
  peer : transport.peer = other.peer
  quiet : transport.quiet = other.quiet
  timed : transport.timing.isSome = other.timing.isSome

structure Alike (transport other : Transport) : Prop extends transport.Akin other where
  line : transport.line = other.line

/-- Two readers end in the same way and leave the same input.  Where they go on, they do so on
transports that are alike. -/
structure SameEnd {α : Type} (early late : Nat) (one other : Except Halt α × Transport) :
    Prop where
  outcome : one.1 = other.1
  unread : one.2.line.unread = other.2.line.unread
  alike : ∀ value, one.1 = .ok value → one.2.Alike other.2 ∧ one.2.line.Pauses early late

/-- Work that ends in the same way on transports that are alike. -/
def Agreeing {α : Type} (early late : Nat) (work partner : Exchange α) : Prop :=
  ∀ transport other, transport.Alike other → transport.line.Pauses early late →
    SameEnd early late (work transport) (partner other)

section Agreeing

variable {α β : Type} {early late : Nat} {transport other : Transport}

theorem Akin.halt (hakin : transport.Akin other) : transport.halt = other.halt := by
  funext arrival
  simp only [Transport.halt, hakin.peer, hakin.timeout]

theorem Akin.withLine (hakin : transport.Akin other) (line : Line) :
    Alike { transport with line := line } { other with line := line } :=
  ⟨⟨hakin.timeout, hakin.peer, hakin.quiet, hakin.timed⟩, rfl⟩

/-- Readers who give up when they have thrown octets away. -/
theorem Alike.drained {halt reason : Halt} (halike : transport.Alike other)
    (hreason : halt = reason) :
    SameEnd (α := α) early late (.error halt, transport.drained)
      (.error reason, other.drained) := by
  refine ⟨by rw [hreason], ?_, nofun⟩
  simp only [Transport.drained, halike.line, halike.quiet]

namespace SameEnd

variable {work partner : Exchange α} {next follower : α → Exchange β}

theorem failed {halt reason : Halt} (hreason : halt = reason)
    (hunread : transport.line.unread = other.line.unread) :
    SameEnd (α := α) early late (.error halt, transport) (.error reason, other) :=
  ⟨by rw [hreason], hunread, nofun⟩

theorem bind (hwork : SameEnd early late (work transport) (partner other))
    (hnext : ∀ value, Agreeing early late (next value) (follower value)) :
    SameEnd early late ((work >>= next) transport) ((partner >>= follower) other) := by
  obtain ⟨houtcome, hunread, halike⟩ := hwork
  rcases hone : work transport with ⟨outcome, after⟩
  rcases htwo : partner other with ⟨result, last⟩
  rw [hone, htwo] at houtcome hunread halike
  obtain rfl : outcome = result := houtcome
  cases outcome with
  | ok value =>
      obtain ⟨hafter, hpauses⟩ := halike value rfl
      rw [stateful_bind_ok hone, stateful_bind_ok htwo]
      exact hnext value after last hafter hpauses
  | error halt =>
      rw [stateful_bind_error hone, stateful_bind_error htwo]
      exact failed rfl hunread

/-- Octets that were waited for with deadlines. -/
theorem octets {count : Nat} (hakin : transport.Akin other)
    (hsame : Line.SameOctets early late (transport.line.exactly (some early) count)
      (other.line.exactly (some late) count)) :
    SameEnd early late (Transport.octets (some early) count transport)
      (Transport.octets (some late) count other) := by
  obtain ⟨houtcome, hunread, hline⟩ := hsame
  rw [octets_apply, octets_apply]
  rcases hone : transport.line.exactly (some early) count with ⟨outcome, line⟩
  rcases htwo : other.line.exactly (some late) count with ⟨result, last⟩
  rw [hone, htwo] at houtcome hunread hline
  obtain rfl : outcome = result := houtcome
  refine ⟨by rw [hakin.halt], hunread, fun octets hoctets => ?_⟩
  cases outcome with
  | error arrival => contradiction
  | ok taken =>
      obtain ⟨rfl, hpauses⟩ : line = last ∧ line.Pauses early late := hline taken rfl
      exact ⟨hakin.withLine line, hpauses⟩

end SameEnd

namespace Agreeing

theorem pure (value : α) : Agreeing early late (Pure.pure value) (Pure.pure value) :=
  fun _ _ halike hpauses =>
    ⟨rfl, congrArg Line.unread halike.line, fun _ _ => ⟨halike, hpauses⟩⟩

theorem bind {work partner : Exchange α} {next follower : α → Exchange β}
    (hwork : Agreeing early late work partner)
    (hnext : ∀ value, Agreeing early late (next value) (follower value)) :
    Agreeing early late (work >>= next) (partner >>= follower) :=
  fun transport other halike hpauses => (hwork transport other halike hpauses).bind hnext

theorem octets (hless : early ≤ late) (count : Nat) :
    Agreeing early late (Transport.octets (some early) count)
      (Transport.octets (some late) count) := by
  intro transport other halike hpauses
  have hsame := Line.exactly_agrees hpauses hless count
  apply SameEnd.octets halike.toAkin
  rwa [← halike.line]

theorem more (hless : early ≤ late) (frame : List UInt8) (count : Nat) :
    Agreeing early late (Transport.more frame early count) (Transport.more frame late count) := by
  unfold Transport.more
  by_cases htoo : bufferSize < frame.length + count
  · rw [if_pos htoo, if_pos htoo]
    exact fun _ _ halike _ => halike.drained (by rw [halike.peer])
  · rw [if_neg htoo, if_neg htoo]
    exact (octets hless count).bind fun _ => pure _

theorem shaped (hless : early ≤ late) (frame : List UInt8) (shape : Shape) :
    Agreeing early late (Transport.shaped frame early shape)
      (Transport.shaped frame late shape) := by
  cases shape with
  | fixed length => exact more hless frame length
  | counted offset width => exact (more hless frame _).bind fun octets => more hless octets _

/-- An answer of unknown length is refused, whatever it is. -/
theorem untilQuiet_fail (hless : early ≤ late) (frame : List UInt8) (error : Error) :
    Agreeing early late
      (Transport.untilQuiet frame early >>= fun _ => (Transport.fail error : Exchange α))
      (Transport.untilQuiet frame late >>= fun _ => Transport.fail error) := by
  intro transport other halike hpauses
  have hsame := Line.stretch_agrees hpauses hless transport.quiet
    (Limits.serialFrame + 1 - frame.length)
  have hone := untilQuiet_apply frame early transport
  have htwo := untilQuiet_apply frame late other
  rw [← halike.line, ← halike.quiet] at htwo
  obtain ⟨hoctets, hstop, hunread, hline⟩ := hsame
  rcases hearly : transport.line.stretch transport.quiet (some early)
    (Limits.serialFrame + 1 - frame.length) with ⟨octets, stop, line⟩
  rcases hlate : transport.line.stretch transport.quiet (some late)
    (Limits.serialFrame + 1 - frame.length) with ⟨others, ending, last⟩
  rw [hearly] at hone hoctets hstop hunread hline
  rw [hlate] at htwo hoctets hstop hunread hline
  obtain rfl : octets = others := hoctets
  obtain rfl : stop = ending := hstop
  cases stop with
  | silence =>
      -- The clocks may differ behind the silence, so the readers could not go on alike.
      rw [stateful_bind_ok hone, stateful_bind_ok htwo]
      exact .failed rfl hunread
  | ended =>
      rw [stateful_bind_error hone, stateful_bind_error htwo]
      exact .failed (by rw [halike.peer]) hunread
  | full =>
      obtain rfl : line = last := hline rfl
      rw [stateful_bind_error hone, stateful_bind_error htwo]
      exact (halike.withLine line).drained (by rw [halike.peer])

theorem behindCode (hless : early ≤ late) (checksum : Bool) (octets : List UInt8) :
    Agreeing early late (Transport.behindCode .response checksum octets early)
      (Transport.behindCode .response checksum octets late) := by
  unfold Transport.behindCode
  split
  next shape hshape =>
    apply (shaped hless octets shape).bind
    intro octets
    cases checksum with
    | false => exact pure octets
    | true => exact more hless octets 2
  next hnone => exact untilQuiet_fail hless octets _

/-- A damaged answer on a serial line makes both readers throw octets away. -/
theorem damaged (fault : ProtocolFault) :
    Agreeing early late
      (do
        if (← get).timing.isSome then
          drain
        Transport.fail (.protocol fault) : Exchange α)
      (do
        if (← get).timing.isSome then
          drain
        Transport.fail (.protocol fault)) := by
  intro transport other halike _
  rw [stateful_get_bind, stateful_get_bind, ← halike.timed]
  by_cases htimed : transport.timing.isSome = true
  · rw [if_pos htimed, stateful_bind_ok transport.drain_apply,
      stateful_bind_ok other.drain_apply]
    exact halike.drained rfl
  · rw [if_neg htimed]
    exact .failed rfl (congrArg Line.unread halike.line)

end Agreeing

end Agreeing

/-- One reader begins to wait for an answer when the other one has waited for something else. -/
structure Sooner (transport other : Transport) : Prop extends transport.Akin other where
  line : transport.line.Waited other.line

section Sooner

variable {α : Type} {transport other : Transport}

theorem Sooner.deadline_le (hsooner : transport.Sooner other) :
    transport.deadline .response ≤ other.deadline .response := by
  have hclock := hsooner.line.clock
  have htimeout := hsooner.timeout
  simp only [deadline]
  omega

theorem first_bind_eq (next : List UInt8 × Nat → Exchange α) (transport : Transport) :
    (first .response >>= next) transport =
      (octets (some (transport.deadline .response)) 1 >>= fun start =>
        next (start, transport.deadline .response)) transport := by
  have hfirst := first_response_eq transport
  rcases hoctets : octets (some (transport.deadline .response)) 1 transport with
    ⟨halt | start, after⟩
  · rw [stateful_bind_error hoctets] at hfirst ⊢
    exact stateful_bind_error hfirst
  · rw [stateful_bind_ok hoctets] at hfirst ⊢
    exact stateful_bind_ok hfirst

theorem Sooner.first_bind {next : List UInt8 × Nat → Exchange α}
    (hsooner : transport.Sooner other)
    (hpauses : transport.line.Pauses (transport.deadline .response) (other.deadline .response))
    (hnext : ∀ start, Agreeing (transport.deadline .response) (other.deadline .response)
      (next (start, transport.deadline .response)) (next (start, other.deadline .response))) :
    SameEnd (transport.deadline .response) (other.deadline .response)
      ((first .response >>= next) transport) ((first .response >>= next) other) := by
  have hless := hsooner.deadline_le
  have hstart : other.line.now ≤ max (other.deadline .response) transport.line.now := by
    simp only [deadline]
    omega
  have hsame := Line.exactly_succ_agrees hpauses hsooner.line hstart hless fun after hafter =>
    Line.exactly_agrees hafter hless 0
  rw [first_bind_eq, first_bind_eq]
  exact (SameEnd.octets hsooner.toAkin hsame).bind hnext

theorem Sooner.reading (framing : Framing) (hsooner : transport.Sooner other)
    (hpauses : transport.line.Pauses (transport.deadline .response) (other.deadline .response)) :
    SameEnd (transport.deadline .response) (other.deadline .response)
      (reading framing .response transport) (reading framing .response other) := by
  have hless := hsooner.deadline_le
  cases framing with
  | mbap =>
      apply hsooner.first_bind hpauses
      intro start
      apply (Agreeing.more hless start _).bind
      intro octets
      cases Mbap.decodeHeader octets with
      | ok announced => exact (Agreeing.more hless octets _).bind fun _ => .pure _
      | error fault =>
          intro transport other halike _
          exact .failed (by rw [halike.peer]) (congrArg Line.unread halike.line)
  | headless checksum =>
      have hoctets : SameEnd (transport.deadline .response) (other.deadline .response)
          (headlessOctets .response checksum transport)
          (headlessOctets .response checksum other) := by
        rw [headlessOctets_eq]
        apply hsooner.first_bind hpauses
        intro start
        exact (Agreeing.more hless start 1).bind (Agreeing.behindCode hless checksum)
      apply hoctets.bind
      intro octets
      cases Headless.decode checksum octets with
      | ok frame => exact .pure frame
      | error fault => exact .damaged fault

end Sooner

/-! ## Writing -/

/-- The transport on a line that brings other octets and returns nothing that is sent. -/
def unechoed (arriving : List (Nat × UInt8)) (transport : Transport) : Transport :=
  { transport with
    line := { transport.line with arriving := arriving }
    timing := transport.timing.map fun timing => { timing with echo := false } }

/-- When a reader has an echo that begins to come when the octets have left. -/
def echoedAt (echo : List (Nat × UInt8)) (transport : Transport) : Nat :=
  Line.takenAt transport.departure echo

section Writing

variable {transport : Transport} {frame : Frame} {echo reply : List (Nat × UInt8)}

theorem departure_unechoed (arriving : List (Nat × UInt8)) (transport : Transport) :
    (transport.unechoed arriving).departure = transport.departure := by
  unfold departure waitGap unechoed
  cases transport.timing with
  | none => rfl
  | some timing => cases transport.lastActivity <;> rfl

theorem quiet_unechoed (arriving : List (Nat × UInt8)) (transport : Transport) :
    (transport.unechoed arriving).quiet = transport.quiet := by
  unfold quiet unechoed
  cases transport.timing <;> rfl

theorem silent_unechoed (arriving : List (Nat × UInt8)) (transport : Transport) :
    (transport.unechoed arriving).timing.any Timing.echo = false := by
  unfold unechoed
  cases transport.timing <;> rfl

/-- Without an echo the reader begins to wait sooner. -/
theorem sooner_unechoed (horder : transport.line.InOrder)
    (harriving : transport.line.arriving = echo ++ reply) (sent : List UInt8) :
    Sooner ((transport.unechoed reply).sending sent).active
      ((transport.sending sent).past echo.length).active where
  line := by
    have horder : Line.InOrder { transport.line with now := transport.departure } :=
      ⟨horder.octets, horder.ends⟩
    have hwaited := horder.waited harriving
    show Line.Waited { (transport.unechoed reply).line with
      now := (transport.unechoed reply).departure } _
    rw [departure_unechoed]
    exact hwaited
  timeout := rfl
  peer := rfl
  quiet := quiet_unechoed reply transport
  timed := Option.isSome_map

theorem confirm_echoing (sent : List UInt8)
    (hechoing : transport.timing.any Timing.echo = true) :
    confirm sent transport =
      (octets (some (transport.line.now + transport.timeout)) sent.length >>= fun _ =>
        modify active) transport := by
  have hreads : readEcho sent transport =
      (octets (some (transport.line.now + transport.timeout)) sent.length >>= fun _ =>
        pure ()) transport := stateful_get_bind
  unfold confirm
  rw [stateful_get_bind, hechoing]
  show (readEcho sent >>= fun _ => modify active) transport = _
  rcases hoctets : octets (some (transport.line.now + transport.timeout)) sent.length transport
    with ⟨halt | echo, after⟩
  · rw [stateful_bind_error hoctets] at hreads ⊢
    exact stateful_bind_error hreads
  · rw [stateful_bind_ok hoctets] at hreads ⊢
    exact stateful_bind_ok hreads

/-- The echo is read back, whatever it is. -/
theorem write_echoed (hopen : transport.closed = false)
    (hechoing : transport.timing.any Timing.echo = true)
    (harriving : transport.line.arriving = echo ++ reply)
    (hlength : echo.length = (transport.framing.encode frame).length)
    (hprompt : ∀ arrival ∈ echo, arrival.1 < transport.departure + transport.timeout) :
    write frame transport =
      (.ok (), ((transport.sending (transport.framing.encode frame)).past echo.length).active) := by
  set between := transport.sending (transport.framing.encode frame)
  have hcame : between.line.arriving = echo ++ reply := harriving
  have hcount : echo.length ≤ between.awaiting.length := by
    rw [← length_arriving, hcame, List.length_append]
    omega
  have hread : octets (some (between.line.now + between.timeout)) echo.length between =
      (.ok (between.awaiting.take echo.length), between.past echo.length) := by
    apply octets_eq hcount
    intro arrival harrival time htime
    rw [hcame, List.take_left] at harrival
    rw [← Option.some.inj htime]
    exact hprompt arrival harrival
  have hconfirm : confirm (transport.framing.encode frame) between =
      (.ok (), (between.past echo.length).active) := by
    have hreturned : between.timing.any Timing.echo = true := hechoing
    rw [hlength] at hread ⊢
    rw [confirm_echoing _ hreturned, stateful_bind_ok hread]
    rfl
  exact (stateful_bind_ok (transmit_eq frame hopen)).trans hconfirm

/-- A master that reads echoes back gets the same answer as one without them, or fails for the
same reason, and leaves the same input.  What is to be the echo is as long as the
frame and comes in time; it need not be equal to the frame, and what follows it may be anything
and may come together with it.  Only between the ends of the two waits must nothing
happen. -/
theorem read_behind_echo (hopen : transport.closed = false)
    (hechoing : transport.timing.any Timing.echo = true)
    (harriving : transport.line.arriving = echo ++ reply)
    (hlength : echo.length = (transport.framing.encode frame).length)
    (horder : transport.line.InOrder)
    (hprompt : ∀ arrival ∈ echo, arrival.1 < transport.departure + transport.timeout)
    (hpauses : (transport.unechoed reply).line.Pauses (transport.departure + transport.timeout)
      (transport.echoedAt echo + transport.timeout)) :
    let echoing := write frame transport
    let plain := write frame (transport.unechoed reply)
    echoing.1 = .ok () ∧ plain.1 = .ok () ∧
      (read .response echoing.2).1 = (read .response plain.2).1 ∧
      (read .response echoing.2).2.line.unread = (read .response plain.2).2.line.unread := by
  intro echoing plain
  have hechoed : echoing = _ := write_echoed hopen hechoing harriving hlength hprompt
  have hplain : plain = _ := write_eq frame hopen (silent_unechoed reply transport)
  have hsooner : plain.2.Sooner echoing.2 := by
    rw [hechoed, hplain]
    exact sooner_unechoed horder harriving _
  have hearly : plain.2.deadline .response = transport.departure + transport.timeout := by
    rw [hplain, ← departure_unechoed reply transport]
    rfl
  have hlate : echoing.2.deadline .response =
      transport.echoedAt echo + transport.timeout := by
    rw [hechoed]
    exact congrArg (· + transport.timeout) (Line.now_past_append harriving)
  have hquiet : plain.2.line.Pauses (plain.2.deadline .response)
      (echoing.2.deadline .response) := by
    rw [hearly, hlate, hplain]
    exact ⟨hpauses.octets, hpauses.ends⟩
  have hone : echoing.2.framing = transport.framing := by rw [hechoed]; rfl
  have hother : plain.2.framing = transport.framing := by rw [hplain]; rfl
  have hsame := hsooner.reading transport.framing hquiet
  rw [read_apply, read_apply, hone, hother]
  exact ⟨by rw [hechoed], by rw [hplain], hsame.outcome.symm, hsame.unread.symm⟩

/-- The echo is damaged and comes in one piece with the answer. -/
theorem read_behind_echo_damaged :
    let request : Frame := ⟨⟨0, 0, 1⟩, [3, 0, 0, 0, 1]⟩
    let answer : Frame := ⟨⟨0, 0, 1⟩, [3, 2, 0, 5]⟩
    let line := Line.ofChunks 1000000
      [(4000000, [1, 3, 0, 0, 255, 255, 255, 255] ++ Headless.encode true answer ++ [7])] false
    let transport :=
      opened line (.headless true) "peer" (some (.ofBaud 9600 none true)) 20000000
    let echoing := write request transport
    echoing.1 = .ok () ∧ (read .response echoing.2).1 = .ok answer ∧
      (read .response echoing.2).2.line.arriving = [(4000000, 7)] := by
  intro request answer line transport echoing
  have horder : line.InOrder := ⟨by decide +kernel, by decide +kernel⟩
  have hpauses : (transport.unechoed (line.arriving.drop 8)).line.Pauses
      (transport.departure + transport.timeout)
      (transport.echoedAt (line.arriving.take 8) + transport.timeout) :=
    ⟨by decide +kernel, by decide +kernel⟩
  have harriving : transport.line.arriving = line.arriving.take 8 ++ line.arriving.drop 8 :=
    (List.take_append_drop 8 _).symm
  have hlength : (line.arriving.take 8).length =
      (transport.framing.encode request).length := by decide +kernel
  have hprompt : ∀ arrival ∈ line.arriving.take 8,
      arrival.1 < transport.departure + transport.timeout := by decide +kernel
  obtain ⟨hwrite, -, hread, hunread⟩ :=
    read_behind_echo rfl rfl harriving hlength horder hprompt hpauses
  set plain := write request (transport.unechoed (line.arriving.drop 8))
  have hanswer : (read .response plain.2).1 = .ok answer := by decide +kernel
  have hleft : (read .response plain.2).2.line.arriving = [(4000000, 7)] := by decide +kernel
  exact ⟨hwrite, hread.trans hanswer, (congrArg Prod.fst hunread).trans hleft⟩

end Writing

end Transport

end Modbus
