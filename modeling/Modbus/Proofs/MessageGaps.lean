import Mathlib.Tactic
import Modbus.Proofs.Echoes

/-!
# Silences between messages

A transport with a timing leaves a silence between two messages.  It remembers when it
read or wrote the last one and waits before the next one is sent, so the silence depends
on whether that time is kept up to date: each reading does it, however it ends, and each
writing that succeeds.

A writing whose echo does not come fails and does not do it.  The next message then waits
for the silence behind an earlier one, and leaves at once if there was none.  This shows
only if the writing is over before a silence has passed.
-/

namespace Modbus

namespace Line

variable {line after : Line} {limit : Nat}

theorem limit_le_expiry (line : Line) (limit : Nat) : limit ≤ line.expiry limit := by
  by_cases hpassed : limit ≤ line.now
  · exact hpassed.trans (now_le_expiry line limit)
  · exact le_expiry (Nat.lt_of_not_le hpassed)

/-- Whoever learns that an octet is overdue has waited for it until the deadline. -/
theorem limit_le_of_next (hnext : line.next (some limit) = (.overdue, after)) :
    limit ≤ after.now := by
  have hexpiry := line.limit_le_expiry limit
  have hwaited {result : Arrival × Line} (hvain : line.waitInVain (some limit) = result) :
      limit ≤ result.2.now := by
    rw [← hvain]
    exact hexpiry
  unfold next at hnext
  split at hnext
  next =>
    split at hnext
    next => simp at hnext
    next => exact hwaited hnext
  next =>
    split at hnext
    next =>
      split at hnext
      next => simp at hnext
      next => exact hwaited hnext
    next => exact hwaited hnext

theorem limit_le_of_exactly {count : Nat} {arrival : Arrival}
    (hexactly : line.exactly (some limit) count = (.error arrival, after))
    (hopen : arrival ≠ .ended) : limit ≤ after.now := by
  induction count generalizing line with
  | zero => simp [exactly] at hexactly
  | succ count ih =>
      rcases hnext : line.next (some limit) with ⟨first, between⟩
      cases first with
      | octet octet =>
          rcases hothers : between.exactly (some limit) count with ⟨outcome, last⟩
          simp only [exactly, hnext, hothers] at hexactly
          cases outcome with
          | ok octets => simp at hexactly
          | error reason =>
              obtain ⟨hreason, hlast⟩ := Prod.mk.inj hexactly
              exact ih (by rw [hothers, hreason, hlast])
      | overdue =>
          simp only [exactly, hnext] at hexactly
          obtain ⟨-, rfl⟩ := Prod.mk.inj hexactly
          exact limit_le_of_next hnext
      | ended =>
          simp only [exactly, hnext] at hexactly
          obtain ⟨hreason, -⟩ := Prod.mk.inj hexactly
          exact absurd (Except.error.inj hreason).symm hopen
      | never => exact absurd (congrArg Prod.fst hnext) (next_ne_never limit line)

end Line

namespace Transport

/-! ## What a writing does -/

/-- How a writing ends.  Nothing leaves if the transport is closed.  What has left is
remembered if the echo, where there is one, comes in time; otherwise the echo
is waited for until its deadline or until the line ends. -/
inductive Written (transport : Transport) (encoded : List UInt8) :
    Except Halt Unit × Transport → Prop where
  | refused (hclosed : transport.closed = true) :
      Written transport encoded (.error (.failed (.io .brokenPipe)), transport.waitGap)
  | done {line : Line} (hlater : (transport.sending encoded).line.Later line) :
      Written transport encoded
        (.ok (), ({ transport.sending encoded with line := line } : Transport).active)
  | unechoed {halt : Halt} {line : Line} (hechoing : transport.timing.any Timing.echo = true)
      (hlater : (transport.sending encoded).line.Later line)
      (hwaited : halt ≠ .failed (.endOfStream .insideFrame) →
        transport.departure + transport.timeout ≤ line.now) :
      Written transport encoded
        (.error halt, { transport.sending encoded with line := line })

theorem transmit_refused {transport : Transport} (frame : Frame)
    (hclosed : transport.closed = true) :
    transmit frame transport = (.error (.failed (.io .brokenPipe)), transport.waitGap) := by
  have hstill : transport.waitGap.closed = true := by rwa [waitGap_eq]
  have hsend : send (transport.framing.encode frame) transport.waitGap =
      (.error (.failed (.io .brokenPipe)), transport.waitGap) := by
    unfold send
    rw [stateful_get_bind, if_pos hstill]
    rfl
  exact stateful_get_bind.trans (stateful_modify_bind.trans (stateful_bind_error hsend))

/-- Reading the echo of what was sent. -/
theorem written_confirm (encoded : List UInt8) (transport : Transport) :
    Written transport encoded (confirm encoded (transport.sending encoded)) := by
  set between := transport.sending encoded
  by_cases hechoing : transport.timing.any Timing.echo = true
  · have hreturned : between.timing.any Timing.echo = true := hechoing
    have hlater := Line.Later.exactly (some (between.line.now + between.timeout))
      encoded.length between.line
    have hread := octets_apply (some (between.line.now + between.timeout)) encoded.length between
    rw [confirm_echoing _ hreturned]
    rcases hexactly : between.line.exactly (some (between.line.now + between.timeout))
      encoded.length with ⟨outcome, line⟩
    rw [hexactly] at hlater hread
    cases outcome with
    | ok echo =>
        rw [stateful_bind_ok hread]
        exact .done hlater
    | error arrival =>
        rw [stateful_bind_error hread]
        apply Written.unechoed hechoing hlater
        intro hopen
        apply Line.limit_le_of_exactly hexactly
        intro hended
        rw [hended] at hopen
        exact hopen rfl
  · have hsilent : between.timing.any Timing.echo = false :=
      Bool.eq_false_of_not_eq_true hechoing
    rw [confirm_eq _ hsilent]
    exact .done (.refl _)

theorem written_write (frame : Frame) (transport : Transport) :
    Written transport (transport.framing.encode frame) (write frame transport) := by
  by_cases hclosed : transport.closed = true
  · have hwrite : write frame transport = _ :=
      stateful_bind_error (transmit_refused frame hclosed)
    rw [hwrite]
    exact .refused hclosed
  · have htransmit := transmit_eq frame (Bool.eq_false_of_not_eq_true hclosed)
    have hwrite : write frame transport = _ := stateful_bind_ok htransmit
    rw [hwrite]
    exact written_confirm _ transport

/-! ## Calls one after another -/

/-- What is done with a transport, and what others do while nothing is. -/
inductive Action where
  | read (direction : Direction)
  | write (frame : Frame)
  /-- Nothing is done until a time. -/
  | wait (time : Nat)
  /-- Octets arrive. -/
  | arrive (octets : List UInt8)
  /-- Nothing can be sent any more. -/
  | close

/-- What a call did, and when it ended. -/
inductive Call where
  | reading (ended : Nat)
  /-- Octets left at a time, or nothing was sent. -/
  | writing (left : Option Nat) (outcome : Except Halt Unit) (ended : Nat)
  deriving DecidableEq

namespace Call

/-- When octets left. -/
def left : Call → Option Nat
  | reading _ => none
  | writing left _ _ => left

/-- When the frame that was read or written was over.  Without its echo, a frame is over when
its octets have left. -/
def frameEnd : Call → Option Nat
  | reading ended => some ended
  | writing (some _) (.ok ()) ended => some ended
  | writing left _ _ => left

/-- A writing has failed before a silence has passed since the octets left. -/
def CutShort (gap : Nat) : Call → Prop
  | writing (some left) (.error _) ended => ended < left + gap
  | _ => False

instance decidableCutShort (gap : Nat) : (call : Call) → Decidable (call.CutShort gap)
  | writing (some left) (.error _) ended => inferInstanceAs (Decidable (ended < left + gap))
  | writing (some _) (.ok _) _ | writing none _ _ | reading _ => .isFalse id

/-- The line ended before the echo of what was written had come. -/
def Broken : Call → Prop
  | writing _ outcome _ => outcome = .error (.failed (.endOfStream .insideFrame))
  | _ => False

end Call

/-- Octets that were sent in the course of some work leave at this time. -/
def leftAt (transport after : Transport) : Option Nat :=
  (after.sent.drop transport.sent.length).head?.map Transmission.time

def act (action : Action) (transport : Transport) : Option Call × Transport :=
  match action with
  | .read direction =>
    let after := (Transport.read direction transport).2
    (some (.reading after.line.now), after)
  | .write frame =>
    let (outcome, after) := Transport.write frame transport
    (some (.writing (transport.leftAt after) outcome after.line.now), after)
  | .wait time =>
    (none, { transport with line := { transport.line with now := max transport.line.now time } })
  | .arrive octets => (none, transport.deliver octets)
  | .close => (none, transport.close)

/-- Actions one after another, and the calls among them. -/
def actAll : List Action → Transport → List Call × Transport
  | [], transport => ([], transport)
  | action :: actions, transport =>
    let (call, after) := transport.act action
    let (calls, last) := actAll actions after
    (call.toList ++ calls, last)

/-! ## The silence that is kept -/

/-- Time passes on a transport, and it does not forget when it was last active. -/
structure Onward (transport after : Transport) : Prop where
  clock : transport.line.now ≤ after.line.now
  activity : after.lastActivity = transport.lastActivity ∨
    after.lastActivity = some after.line.now
  timing : after.timing = transport.timing
  timeout : after.timeout = transport.timeout

/-- The next message will be sent with a silence behind a call, unless that was cut short. -/
structure Spares (gap : Nat) (transport : Transport) (call : Call) : Prop where
  past : ∀ time ∈ call.frameEnd, time ≤ transport.line.now
  kept : call.CutShort gap ∨ ∀ time ∈ call.frameEnd,
    time + gap ≤ transport.line.now ∨ ∃ last ∈ transport.lastActivity, time ≤ last

section Spares

variable {gap : Nat} {transport after : Transport} {call : Call} {timing : Timing}

theorem Spares.onward (hspares : transport.Spares gap call) (honward : transport.Onward after) :
    after.Spares gap call := by
  have hclock := honward.clock
  constructor
  · intro time htime
    exact (hspares.past time htime).trans hclock
  · apply hspares.kept.imp_right
    intro hkept time htime
    have hpast := hspares.past time htime
    rcases honward.activity with hsame | hnow
    · rw [hsame]
      exact (hkept time htime).imp_left fun hrest => hrest.trans hclock
    · right
      exact ⟨after.line.now, hnow, hpast.trans hclock⟩

/-- What a transport spares has been over for a silence when the next octets leave. -/
theorem Spares.le_departure (hspares : transport.Spares timing.messageGap call)
    (htiming : transport.timing = some timing) (hwhole : ¬ call.CutShort timing.messageGap) :
    ∀ time ∈ call.frameEnd, time + timing.messageGap ≤ transport.departure := by
  intro time htime
  rcases hspares.kept.resolve_left hwhole time htime with hrest | ⟨last, hlast, hsooner⟩
  · exact hrest.trans transport.now_le_departure
  · have hdeparture : transport.departure =
        transport.line.expiry (last + timing.messageGap) := by
      rw [departure, waitGap, htiming, Option.mem_def.mp hlast]
      rfl
    have hexpiry := transport.line.limit_le_expiry (last + timing.messageGap)
    omega

end Spares

/-! ## What one call does -/

section Steps

variable {gap : Nat} {transport after : Transport} {call : Call} {encoded : List UInt8}
  {outcome : Except Halt Unit}

theorem Listens.reading (framing : Framing) (direction : Direction) :
    Listens (Transport.reading framing direction) := by
  cases framing with
  | mbap => exact readMbap direction
  | headless checksum => exact readHeadless direction checksum

/-- A reading is remembered, however it ends. -/
theorem read_remembered (direction : Direction) (transport : Transport) :
    let after := (read direction transport).2
    transport.Onward after ∧ after.lastActivity = some after.line.now ∧
      after.sent = transport.sent := by
  obtain ⟨line, hline, hlater⟩ := Listens.reading transport.framing direction transport
  have hread : (read direction transport).2 =
      ({ transport with line := line } : Transport).active := by
    rw [read_apply, hline]
  rw [hread]
  exact ⟨⟨hlater.clock, Or.inr rfl, rfl, rfl⟩, rfl, rfl⟩

theorem Written.onward (hwritten : Written transport encoded (outcome, after)) :
    transport.Onward after := by
  have hgap := transport.now_le_departure
  cases hwritten with
  | refused hclosed =>
      rw [waitGap_eq]
      exact ⟨hgap, Or.inl rfl, rfl, rfl⟩
  | done hlater => exact ⟨hgap.trans hlater.clock, Or.inr rfl, rfl, rfl⟩
  | unechoed hechoing hlater hwaited => exact ⟨hgap.trans hlater.clock, Or.inl rfl, rfl, rfl⟩

theorem leftAt_append (sent : Transmission) (hsent : after.sent = transport.sent ++ [sent]) :
    transport.leftAt after = some sent.time := by
  simp [leftAt, hsent]

theorem leftAt_same (hsent : after.sent = transport.sent) : transport.leftAt after = none := by
  simp [leftAt, hsent]

/-- A writing is remembered, or its echo has not come. -/
theorem Written.spares (hwritten : Written transport encoded (outcome, after)) (gap : Nat) :
    after.Spares gap (.writing (transport.leftAt after) outcome after.line.now) := by
  cases hwritten with
  | refused hclosed =>
      have hsent : transport.waitGap.sent = transport.sent := by rw [waitGap_eq]
      rw [leftAt_same hsent]
      exact ⟨nofun, Or.inr nofun⟩
  | @done line hlater =>
      rw [leftAt_append _ rfl]
      constructor
      · intro time htime
        exact (Option.some.inj htime).ge
      · right
        intro time htime
        exact Or.inr ⟨line.now, rfl, (Option.some.inj htime).ge⟩
  | @unechoed halt line hechoing hlater hwaited =>
      rw [leftAt_append _ rfl]
      constructor
      · intro time htime
        rw [← Option.some.inj htime]
        exact hlater.clock
      · -- The time of the last activity is an old one, so only the time that the echo was waited
        -- for can keep the next message away.
        by_cases hsoon : line.now < transport.departure + gap
        · exact Or.inl hsoon
        · right
          intro time htime
          rw [← Option.some.inj htime]
          exact Or.inl (Nat.le_of_not_lt hsoon)

/-- What is sent leaves when there was silence for long enough. -/
theorem Written.sent (hwritten : Written transport encoded (outcome, after)) :
    after.sent.map Transmission.time =
        transport.sent.map Transmission.time ++ (transport.leftAt after).toList ∧
      ∀ time ∈ transport.leftAt after, time = transport.departure := by
  cases hwritten with
  | refused hclosed =>
      have hsent : transport.waitGap.sent = transport.sent := by rw [waitGap_eq]
      rw [leftAt_same hsent, hsent]
      exact ⟨by simp, nofun⟩
  | done hlater =>
      rw [leftAt_append _ rfl]
      exact ⟨by simp [active, sending], fun time htime => (Option.some.inj htime).symm⟩
  | unechoed hechoing hlater hwaited =>
      rw [leftAt_append _ rfl]
      exact ⟨by simp [sending], fun time htime => (Option.some.inj htime).symm⟩

/-- Only a writing whose echo does not come is cut short: because the line ends, or because no
echo is waited for as long as a silence lasts. -/
theorem Written.cutShort (hwritten : Written transport encoded (outcome, after))
    (hcut : (Call.writing (transport.leftAt after) outcome after.line.now).CutShort gap) :
    transport.timing.any Timing.echo = true ∧
      ((Call.writing (transport.leftAt after) outcome after.line.now).Broken ∨
        transport.timeout < gap) := by
  cases hwritten with
  | refused hclosed =>
      have hsent : transport.waitGap.sent = transport.sent := by rw [waitGap_eq]
      rw [leftAt_same hsent] at hcut
      contradiction
  | done hlater =>
      rw [leftAt_append _ rfl] at hcut
      contradiction
  | @unechoed halt line hechoing hlater hwaited =>
      rw [leftAt_append _ rfl] at hcut
      have hsoon : line.now < transport.departure + gap := hcut
      refine ⟨hechoing, ?_⟩
      by_cases hended : halt = .failed (.endOfStream .insideFrame)
      · exact Or.inl (congrArg Except.error hended)
      · have hlate := hwaited hended
        right
        omega

theorem onward_act (action : Action) (transport : Transport) :
    transport.Onward (transport.act action).2 := by
  cases action with
  | read direction => exact (read_remembered direction transport).1
  | write frame => exact (written_write frame transport).onward
  | wait time => exact ⟨Nat.le_max_left _ _, Or.inl rfl, rfl, rfl⟩
  | arrive octets => exact ⟨le_refl _, Or.inl rfl, rfl, rfl⟩
  | close => exact ⟨le_refl _, Or.inl rfl, rfl, rfl⟩

theorem spares_act {action : Action} (hact : transport.act action = (some call, after)) :
    after.Spares gap call := by
  cases action with
  | read direction =>
      obtain ⟨-, hremembered, -⟩ := read_remembered direction transport
      obtain ⟨hcall, rfl⟩ := Prod.mk.inj hact
      obtain rfl := Option.some.inj hcall
      constructor
      · intro time htime
        exact (Option.some.inj htime).ge
      · right
        intro time htime
        exact Or.inr ⟨_, hremembered, (Option.some.inj htime).ge⟩
  | write frame =>
      have hwritten := written_write frame transport
      obtain ⟨hcall, rfl⟩ := Prod.mk.inj hact
      obtain rfl := Option.some.inj hcall
      exact hwritten.spares gap
  | wait | arrive | close => simp [act] at hact

theorem sent_act (action : Action) (transport : Transport) :
    let result := transport.act action
    result.2.sent.map Transmission.time =
        transport.sent.map Transmission.time ++ (result.1.bind Call.left).toList ∧
      ∀ call ∈ result.1, ∀ time ∈ call.left, time = transport.departure := by
  cases action with
  | read direction =>
      obtain ⟨-, -, hsent⟩ := read_remembered direction transport
      refine ⟨?_, fun call hcall => ?_⟩
      · show (read direction transport).2.sent.map Transmission.time = _
        rw [hsent]
        exact (List.append_nil _).symm
      · obtain rfl := Option.some.inj hcall
        exact nofun
  | write frame =>
      obtain ⟨hsent, hleft⟩ := (written_write frame transport).sent
      refine ⟨hsent, fun call hcall => ?_⟩
      obtain rfl := Option.some.inj hcall
      exact hleft
  | wait | arrive | close => exact ⟨(List.append_nil _).symm, nofun⟩

theorem cutShort_act {action : Action} (hact : transport.act action = (some call, after))
    (hcut : call.CutShort gap) :
    transport.timing.any Timing.echo = true ∧ (call.Broken ∨ transport.timeout < gap) := by
  cases action with
  | read direction =>
      obtain ⟨hcall, -⟩ := Prod.mk.inj hact
      obtain rfl := Option.some.inj hcall
      contradiction
  | write frame =>
      have hwritten := written_write frame transport
      obtain ⟨hcall, -⟩ := Prod.mk.inj hact
      obtain rfl := Option.some.inj hcall
      exact hwritten.cutShort hcut
  | wait | arrive | close => simp [act] at hact

end Steps

/-! ## What a run does -/

section Runs

variable {timing : Timing} {transport : Transport} {call : Call}

/-- Whatever is done, nothing leaves before there was a silence behind a call that is spared. -/
theorem Spares.run (hspares : transport.Spares timing.messageGap call)
    (htiming : transport.timing = some timing) (hwhole : ¬ call.CutShort timing.messageGap)
    (actions : List Action) :
    ∀ later ∈ (actAll actions transport).1, ∀ time ∈ call.frameEnd, ∀ left ∈ later.left,
      time + timing.messageGap ≤ left := by
  induction actions generalizing transport with
  | nil => exact nofun
  | cons action actions ih =>
      have honward := onward_act action transport
      have hothers := ih (hspares.onward honward) (honward.timing.trans htiming)
      obtain ⟨-, hleft⟩ := sent_act action transport
      intro later hlater time htime left hgone
      rcases List.mem_append.mp hlater with hthis | hmore
      · rw [hleft later (Option.mem_toList.mp hthis) left hgone]
        exact hspares.le_departure htiming hwhole time htime
      · exact hothers later hmore time htime left hgone

/-- All that is sent is sent by the calls. -/
theorem sent_actAll (actions : List Action) (transport : Transport) :
    (actAll actions transport).2.sent.map Transmission.time =
      transport.sent.map Transmission.time ++
        (actAll actions transport).1.filterMap Call.left := by
  induction actions generalizing transport with
  | nil => exact (List.append_nil _).symm
  | cons action actions ih =>
      obtain ⟨hsent, -⟩ := sent_act action transport
      have hothers := ih (transport.act action).2
      have hcalls : (actAll (action :: actions) transport).1 =
          (transport.act action).1.toList ++ (actAll actions (transport.act action).2).1 := rfl
      have hone : (transport.act action).1.toList.filterMap Call.left =
          ((transport.act action).1.bind Call.left).toList := by
        cases (transport.act action).1 with
        | none => rfl
        | some call => cases hleft : call.left <;> simp [hleft]
      rw [hcalls, List.filterMap_append, hone, ← List.append_assoc, ← hsent, ← hothers]
      rfl

theorem pairwise_actAll (htiming : transport.timing = some timing) (actions : List Action) :
    (actAll actions transport).1.Pairwise fun earlier later =>
      ¬ earlier.CutShort timing.messageGap →
        ∀ time ∈ earlier.frameEnd, ∀ left ∈ later.left, time + timing.messageGap ≤ left := by
  induction actions generalizing transport with
  | nil => exact .nil
  | cons action actions ih =>
      have hnext := (onward_act action transport).timing.trans htiming
      show ((transport.act action).1.toList ++
        (actAll actions (transport.act action).2).1).Pairwise _
      rcases hact : transport.act action with ⟨call, after⟩
      rw [hact] at hnext
      cases call with
      | none => exact ih hnext
      | some call =>
          -- The first call is spared from here on, whatever else is done.
          refine .cons (fun later hlater hwhole => ?_) (ih hnext)
          exact (spares_act hact).run hnext hwhole actions later hlater

theorem cutShort_actAll {gap : Nat} (actions : List Action) (transport : Transport) :
    ∀ call ∈ (actAll actions transport).1, call.CutShort gap →
      transport.timing.any Timing.echo = true ∧ (call.Broken ∨ transport.timeout < gap) := by
  induction actions generalizing transport with
  | nil => exact nofun
  | cons action actions ih =>
      have honward := onward_act action transport
      have hothers := ih (transport.act action).2
      rw [honward.timing, honward.timeout] at hothers
      intro call hcall hcut
      rcases List.mem_append.mp hcall with hthis | hmore
      · exact cutShort_act (Prod.ext (Option.mem_toList.mp hthis) rfl) hcut
      · exact hothers call hmore hcut

/-- However readings and writings on a timed line follow each other, and however they end, all
octets leave with a silence behind every frame that was read or written before.  The
only exceptions are writings whose echo is given up before a silence has passed: because the
line ends, or because an echo is not waited for as long as a silence lasts. -/
theorem message_gaps (htiming : transport.timing = some timing) (actions : List Action) :
    let calls := (actAll actions transport).1
    (actAll actions transport).2.sent.map Transmission.time =
        transport.sent.map Transmission.time ++ calls.filterMap Call.left ∧
      (calls.Pairwise fun earlier later => ¬ earlier.CutShort timing.messageGap →
        ∀ time ∈ earlier.frameEnd, ∀ left ∈ later.left, time + timing.messageGap ≤ left) ∧
      ∀ call ∈ calls, call.CutShort timing.messageGap →
        timing.echo = true ∧ (call.Broken ∨ transport.timeout < timing.messageGap) := by
  intro calls
  refine ⟨sent_actAll actions transport, pairwise_actAll htiming actions,
    fun call hcall hcut => ?_⟩
  have hcause := cutShort_actAll actions transport call hcall hcut
  rwa [htiming] at hcause

/-- A damaged frame, an echo that does not come and a message that is repeated at once.  The echo is
waited for longer than a silence lasts. -/
theorem message_gaps_failures :
    let line := Line.ofChunks 1000000 [(5000000, [1, 3, 2, 0, 10, 0, 0])] false
    let transport :=
      opened line (.headless true) "peer" (some (.ofBaud 9600 none true)) 20000000
    let request : Frame := ⟨⟨0, 0, 1⟩, [3, 0, 0, 0, 1]⟩
    let calls := (actAll [.read .response, .write request, .write request] transport).1
    calls.filterMap Call.left = [15000000, 35000000] ∧
      calls.Pairwise fun earlier later => ∀ time ∈ earlier.frameEnd, ∀ left ∈ later.left,
        time + 4580000 ≤ left := by
  intro line transport request calls
  have htiming : transport.timing = some ⟨1145000, 4580000, true⟩ := by decide +kernel
  have hwhole : ∀ call ∈ calls, ¬ call.CutShort 4580000 := by decide +kernel
  obtain ⟨-, hgaps, -⟩ :=
    message_gaps htiming [.read .response, .write request, .write request]
  refine ⟨by decide +kernel, hgaps.imp_of_mem fun hearlier _ hgap => ?_⟩
  exact hgap (hwhole _ hearlier)

/-- With a long silence and little patience for an echo, the message that is repeated leaves as
soon as the first one has failed. -/
theorem retry_too_soon :
    let line := Line.ofChunks 1000000 [] false
    let transport :=
      opened line (.headless true) "peer" (some (.ofBaud 9600 (some 1000000000) true)) 20000000
    let request : Frame := ⟨⟨0, 0, 1⟩, [3, 0, 0, 0, 1]⟩
    let overdue : Halt := .failed (.timeout (.frame "peer" 20000000))
    let calls := (actAll [.write request, .write request] transport).1
    calls = [.writing (some 0) (.error overdue) 20000000,
        .writing (some 20000000) (.error overdue) 40000000] ∧
      ¬ calls.Pairwise fun earlier later => ∀ time ∈ earlier.frameEnd, ∀ left ∈ later.left,
        time + 1000000000 ≤ left := by
  decide +kernel

end Runs

end Transport

end Modbus
