import Mathlib.Tactic
import Modbus.Proofs.Resynchronisation

/-!
# Damaged requests on a connection

A slave keeps a connection on which a frame without a network header was damaged.  There
is no timing, so nothing is thrown away behind a frame that fails its check: what has
been taken is gone, what has not is taken for the start of the next frame.  A request
whose damage makes it look shorter than it is leaves octets behind in this way.
-/

namespace Modbus

namespace Line

variable {quiet : Nat} {line after : Line} {front rest arrivals : List (Nat × UInt8)}

theorem Later.spares (hlater : line.Later after) (harriving : line.arriving = front ++ rest)
    (hcoming : ∀ next ∈ rest.head?, after.now < next.1) : rest <:+ after.arriving := by
  obtain ⟨taken, htaken, hcame⟩ := hlater.taken
  rw [harriving] at htaken
  rcases List.append_eq_append_iff.mp htaken with ⟨more, htaken, hrest⟩ | ⟨left, hfront, hleft⟩
  · -- Whatever else was taken would have come before its time.
    cases more with
    | nil => exact ⟨[], hrest⟩
    | cons first more =>
        have hbefore := hcame first (by rw [htaken]; simp)
        have hafter := hcoming first (by rw [hrest]; rfl)
        omega
  · exact ⟨left, hleft.symm⟩

theorem Unbroken.take {now : Nat} (hunbroken : Unbroken quiet now arrivals) (count : Nat) :
    Unbroken quiet now (arrivals.take count) := by
  induction arrivals generalizing now count with
  | nil => rwa [List.take_nil]
  | cons arrival arrivals ih =>
      cases count with
      | zero => trivial
      | succ count => exact ⟨hunbroken.1, ih hunbroken.2 count⟩

/-- Of unbroken octets that come in time none is left when a silence is found, or when there are
too many of them and the others are thrown away. -/
theorem stretch_leaves (most : Nat) {limit : Nat} (harriving : line.arriving = arrivals ++ rest)
    (hunbroken : Unbroken quiet line.now arrivals)
    (hintime : ∀ arrival ∈ arrivals, ∀ time ∈ some limit, arrival.1 < time) :
    ((line.stretch quiet (some limit) most).2.1 ≠ .full →
        (line.stretch quiet (some limit) most).2.2.arriving <:+ rest) ∧
      ((line.stretch quiet (some limit) most).2.2.drain quiet).arriving <:+ rest := by
  rcases Nat.lt_or_ge arrivals.length most with hroom | hfull
  · obtain ⟨more, rfl⟩ := Nat.exists_eq_add_of_le hroom.le
    have hrest : (line.past arrivals.length).arriving = rest := by
      simp only [past, harriving, List.drop_left]
    rw [stretch_unbroken more harriving hunbroken hintime]
    have hsuffix := (Later.stretch quiet (some limit) more (line.past arrivals.length)).suffix
    rw [hrest] at hsuffix
    exact ⟨fun _ => hsuffix, (Later.drain quiet _).suffix.trans hsuffix⟩
  · have hsplit : line.arriving = arrivals.take most ++ (arrivals.drop most ++ rest) := by
      rw [harriving, ← List.append_assoc, List.take_append_drop]
    have hlength : (arrivals.take most).length = most := by
      rw [List.length_take, Nat.min_eq_left hfull]
    have hstretch := stretch_unbroken 0 hsplit (hunbroken.take most)
      fun arrival harrival => hintime arrival (List.mem_of_mem_take harrival)
    rw [hlength, Nat.add_zero] at hstretch
    rw [hstretch]
    refine ⟨fun hnot => absurd rfl hnot, ?_⟩
    obtain ⟨hleft, hothers⟩ := hunbroken.past harriving hfull
    show ((line.past most).drain quiet).arriving <:+ rest
    rw [drain_unbroken hleft hothers]
    refine (Later.drain quiet _).suffix.trans ?_
    rw [past_past, List.length_drop, Nat.add_sub_cancel' hfull]
    simp only [past, harriving, List.drop_left]
    exact List.suffix_rfl

/-- On a silent line a reader is told so, even if it does not wait for long. -/
theorem stretch_silent {deadline : Option Nat} (most : Nat) (hsilent : line.Silent quiet)
    (hopen : line.endsAt = none) :
    line.stretch quiet deadline (most + 1) =
      ([], .silence, line.sleepUntil (line.now + patience quiet deadline line.now)) := by
  refine stretch_overdue (next_overdue fun time htime => ?_)
  rw [hopen, Option.or_none] at htime
  obtain ⟨next, hnext, rfl⟩ := Option.map_eq_some_iff.mp htime
  obtain ⟨hafter, hlate⟩ := hsilent next hnext
  have hpatience : patience quiet deadline line.now ≤ quiet := by
    cases deadline with
    | none => exact le_refl quiet
    | some limit => exact Nat.min_le_left quiet (limit - line.now)
  have hsooner := ring_mono line.resolution line.now (Nat.add_le_add_left hpatience line.now)
  exact ⟨by omega, hsooner.trans hlate⟩

end Line

namespace Transport

variable {transport between after : Transport} {damaged rest : List (Nat × UInt8)}

/-! ## Reading without a network header -/

theorem untilQuiet_apply (frame : List UInt8) (deadline : Nat) (transport : Transport) :
    untilQuiet frame deadline transport =
      match transport.line.stretch transport.quiet (some deadline)
        (Limits.serialFrame + 1 - frame.length) with
      | (octets, .silence, line) => (.ok (frame ++ octets), { transport with line := line })
      | (_, .ended, line) => (.error (.failed (.endOfStream (.closed transport.peer))),
          { transport with line := line })
      | (_, .full, line) => (.error (.failed (.protocol (.frameTooLong transport.peer))),
          ({ transport with line := line } : Transport).drained) := by
  unfold untilQuiet
  rw [stateful_get_bind]
  rcases transport.line.stretch transport.quiet (some deadline)
    (Limits.serialFrame + 1 - frame.length) with ⟨octets, stop, line⟩
  cases stop <;> rfl

namespace Listens

theorem shaped (frame : List UInt8) (deadline : Nat) (shape : Shape) :
    Listens (Transport.shaped frame deadline shape) := by
  cases shape with
  | fixed length => exact more frame deadline length
  | counted offset width => exact (more _ _ _).bind fun octets => more octets _ _

theorem untilQuiet (frame : List UInt8) (deadline : Nat) :
    Listens (Transport.untilQuiet frame deadline) := by
  intro transport
  rw [untilQuiet_apply]
  have hlater := Line.Later.stretch transport.quiet (some deadline)
    (Limits.serialFrame + 1 - frame.length) transport.line
  rcases hstretch : transport.line.stretch transport.quiet (some deadline)
    (Limits.serialFrame + 1 - frame.length) with ⟨octets, stop, line⟩
  rw [hstretch] at hlater
  cases stop with
  | silence | ended => exact ⟨line, rfl, hlater⟩
  | full => exact ⟨_, rfl, hlater.trans (.drain transport.quiet line)⟩

theorem behindCode (direction : Direction) (checksum : Bool) (octets : List UInt8)
    (deadline : Nat) : Listens (Transport.behindCode direction checksum octets deadline) := by
  unfold Transport.behindCode
  split
  next shape hshape =>
    refine (shaped octets deadline shape).bind fun octets => ?_
    cases checksum with
    | false => exact pure octets
    | true => exact more octets deadline 2
  next hnone =>
    refine (untilQuiet octets deadline).bind fun rest => ?_
    cases direction with
    | request => exact pure rest
    | response => exact fail _

theorem headlessOctets (direction : Direction) (checksum : Bool) :
    Listens (Transport.headlessOctets direction checksum) :=
  (first direction).bind fun _ => (more _ _ _).bind fun octets =>
    behindCode direction checksum octets _

theorem readHeadless (direction : Direction) (checksum : Bool) :
    Listens (Transport.readHeadless direction checksum) := by
  refine (headlessOctets direction checksum).bind fun octets => ?_
  cases Headless.decode checksum octets with
  | ok frame => exact pure frame
  | error fault =>
      refine get.bind fun transport => ?_
      by_cases htimed : transport.timing.isSome
      · rw [if_pos htimed]
        exact drain.bind fun _ => fail _
      · rw [if_neg htimed]
        exact fail _

end Listens

/-! ## How long a frame is taken to be -/

theorem length_of_shaped {unit code : UInt8} {deadline : Nat} {shape : Shape}
    {octets : List UInt8}
    (hread : shaped [unit, code] deadline shape transport = (.ok octets, after)) :
    ∃ payload, octets = unit :: code :: payload ∧ shape.length payload = payload.length := by
  cases shape with
  | fixed length =>
      obtain ⟨payload, rfl, hlength, -⟩ := awaiting_of_more hread
      exact ⟨payload, rfl, hlength.symm⟩
  | counted offset width =>
      obtain ⟨announced, between, hfront, hback⟩ := stateful_bind_eq_ok_iff.mp hread
      obtain ⟨front, rfl, hlength, -⟩ := awaiting_of_more hfront
      obtain ⟨back, rfl, hcount, -⟩ := awaiting_of_more hback
      refine ⟨front ++ back, by simp, ?_⟩
      have hdrop : ([unit, code] ++ front).drop (2 + offset) = front.drop offset := by
        rw [← List.drop_drop]
        rfl
      rw [hdrop] at hcount
      rw [Shape.length, List.drop_append_of_le_length (by omega),
        List.take_append_of_le_length (by rw [List.length_drop]; omega), List.length_append,
        hlength, hcount]

/-- A request of a known function is read as far as its function code tells. -/
theorem requestSpan_of_headlessOctets {octets : List UInt8}
    (hread : headlessOctets .request true transport = (.ok octets, after))
    (hknown : (shape? .request (transport.awaiting.getD 1 0)).isSome) :
    Headless.requestSpan octets = some octets.length := by
  obtain ⟨start, htwo, hawaiting, hbehind⟩ := start_of_headlessOctets hread (judged_ok octets)
  match start, htwo with
  | [unit, code], _ =>
    rw [hawaiting] at hknown
    obtain ⟨shape, hshape⟩ := Option.isSome_iff_exists.mp hknown
    change shape? .request code = some shape at hshape
    have hcode : shape? .request (([unit, code] : List UInt8).getD 1 0) = some shape := hshape
    unfold behindCode at hbehind
    simp only [hcode] at hbehind
    obtain ⟨body, between, hbody, htrailer⟩ := stateful_bind_eq_ok_iff.mp hbehind
    obtain ⟨payload, rfl, hlength⟩ := length_of_shaped hbody
    obtain ⟨trailer, rfl, htrailing, -⟩ := awaiting_of_more htrailer
    change (Shape.request? code).map (fun shape => 4 + shape.length (payload ++ trailer)) = _
    rw [show Shape.request? code = some shape from hshape, Option.map_some,
      Shape.length_append hlength.le, hlength]
    simp only [List.cons_append, List.length_cons, List.length_append, htrailing]
    congr 1
    omega

end Transport

namespace Headless

/-- Octets behind a request do not change how far it reaches. -/
theorem requestSpan_append {octets more : List UInt8} {count : Nat}
    (hspan : requestSpan octets = some count) (hcount : count ≤ octets.length) :
    requestSpan (octets ++ more) = some count := by
  obtain ⟨unit, code, payload, shape, rfl, hshape, rfl⟩ := requestSpan_eq_some hspan
  simp only [List.length_cons] at hcount
  change (Shape.request? code).map (fun shape => 4 + shape.length (payload ++ more)) = _
  rw [hshape, Option.map_some, Shape.length_append (by omega)]

theorem isSome_requestSpan {octets : List UInt8} (htwo : 2 ≤ octets.length) :
    (requestSpan octets).isSome = (Shape.request? (octets.getD 1 0)).isSome := by
  match octets, htwo with
  | unit :: code :: payload, _ => exact Option.isSome_map

/-- A frame that is checked has not got too long before. -/
theorem decode_ne_frameTooLong {octets : List UInt8} {peer : String} :
    decode true octets ≠ .error (.frameTooLong peer) := by
  intro hdecode
  rcases fault_of_decode hdecode with ⟨-, hfault⟩ | ⟨-, calculated, received, hfault⟩
  · contradiction
  · contradiction

end Headless

namespace Transport

variable {transport between after : Transport} {damaged rest : List (Nat × UInt8)}

/-! ## What a damaged request leaves behind -/

/-- Octets come as one burst and in time. -/
def OneBurst (transport : Transport) (arrivals : List (Nat × UInt8)) : Prop :=
  Line.Gapless transport.quiet arrivals ∧
    transport.line.Prompt arrivals.length (some (transport.deadline .request))

/-- A damaged request is not longer than its function code tells.  If that does not tell, or tells
of more than there is room for, the request is one burst. -/
def LeavesNothing (transport : Transport) (damaged : List (Nat × UInt8)) (fault : ProtocolFault) :
    Prop :=
  match Headless.requestSpan (damaged.map Prod.snd) with
  | none => transport.OneBurst damaged
  | some count =>
    if fault = .frameTooLong transport.peer then transport.OneBurst damaged
    else damaged.length ≤ count

/-- A frame fails its check, or what is read of it already is no frame. -/
theorem octets_of_read {fault : ProtocolFault} (hframing : transport.framing = .headless true)
    (htiming : transport.timing = none)
    (hread : read .request transport = (.error (.failed (.protocol fault)), after)) :
    ∃ outcome between, headlessOctets .request true transport = (outcome, between) ∧
      after = between.active ∧
      (outcome = .error (.failed (.protocol fault)) ∨
        ∃ octets, outcome = .ok octets ∧ Headless.decode true octets = .error fault) := by
  rcases hoctets : headlessOctets .request true transport with ⟨halt | octets, between⟩
  · have hreading : readHeadless .request true transport = (.error halt, between) :=
      stateful_bind_error hoctets
    rw [read_apply, hframing, reading, hreading] at hread
    obtain ⟨hhalt, rfl⟩ := Prod.mk.inj hread
    exact ⟨.error halt, between, rfl, rfl, Or.inl (congrArg Except.error (Except.error.inj hhalt))⟩
  cases hdecode : Headless.decode true octets with
  | ok frame =>
      have hreading : readHeadless .request true transport = (.ok frame, between) := by
        unfold readHeadless
        rw [stateful_bind_ok hoctets]
        simp only [hdecode]
        rfl
      rw [read_apply, hframing, reading, hreading] at hread
      have hnone := (Prod.mk.inj hread).1
      contradiction
  | error other =>
      obtain ⟨line, hline, -⟩ := Listens.headlessOctets .request true transport
      rw [hoctets] at hline
      have huntimed : ¬between.timing.isSome := by
        rw [show between = { transport with line := line } from hline]
        simp [htiming]
      rw [read_undecoded hframing hoctets hdecode, if_neg huntimed] at hread
      obtain ⟨hother, rfl⟩ := Prod.mk.inj hread
      obtain rfl := Error.protocol.inj (Halt.failed.inj (Except.error.inj hother))
      exact ⟨.ok octets, between, rfl, rfl, Or.inr ⟨octets, rfl, hdecode⟩⟩

/-- What has been taken of a request and what comes behind it is past the request, or part of it. -/
theorem suffix_of_past (harriving : transport.line.arriving = damaged ++ rest) {count : Nat}
    (hcount : damaged.length ≤ count) : (transport.past count).line.arriving <:+ rest := by
  simp only [past, Line.past, harriving, List.drop_append, List.drop_eq_nil_of_le hcount,
    List.nil_append]
  exact List.drop_suffix _ _

/-- A request for which there is no room is thrown away with the rest of its burst. -/
theorem suffix_of_drained (harriving : transport.line.arriving = damaged ++ rest)
    (hgapless : Line.Gapless transport.quiet damaged) {count : Nat} (hsome : 1 ≤ count) :
    (transport.past count).drained.line.arriving <:+ rest := by
  have hdrained := (Line.Later.drain transport.quiet (transport.past count).line).suffix
  rcases Nat.le_total count damaged.length with hinside | hbehind
  · obtain ⟨hleft, hunbroken⟩ := hgapless.unbroken_past harriving hsome hinside
    show ((transport.line.past count).drain transport.quiet).arriving <:+ rest
    rw [Line.drain_unbroken hleft hunbroken, Line.past_past, List.length_drop,
      Nat.add_sub_cancel' hinside]
    exact (Line.Later.drain _ _).suffix.trans (suffix_of_past harriving (le_refl _))
  · exact hdrained.trans (suffix_of_past harriving hbehind)

/-- If its function code does not tell how long it is, all of a burst is taken or thrown away. -/
theorem suffix_of_untilQuiet {frame : List UInt8} {outcome : Except Halt (List UInt8)}
    (harriving : transport.line.arriving = damaged ++ rest) (hburst : transport.OneBurst damaged)
    {count : Nat} (hsome : 1 ≤ count) (hcount : count ≤ damaged.length)
    (hread : untilQuiet frame (transport.deadline .request) (transport.past count) =
      (outcome, between)) (hjudged : Judged outcome) : between.line.arriving <:+ rest := by
  obtain ⟨hgapless, hprompt⟩ := hburst
  obtain ⟨hleft, hunbroken⟩ := hgapless.unbroken_past harriving hsome hcount
  have hintime : ∀ arrival ∈ damaged.drop count,
      ∀ time ∈ some (transport.deadline .request), arrival.1 < time := by
    intro arrival harrival
    refine hprompt arrival ?_
    rw [harriving, List.take_left]
    exact List.mem_of_mem_drop harrival
  obtain ⟨hsilence, hfull⟩ := Line.stretch_leaves (Limits.serialFrame + 1 - frame.length) hleft
    hunbroken hintime
  rw [untilQuiet_apply] at hread
  change (match (transport.line.past count).stretch transport.quiet
    (some (transport.deadline .request)) (Limits.serialFrame + 1 - frame.length) with
    | (octets, .silence, line) => _ | (_, .ended, line) => _ | (_, .full, line) => _) = _ at hread
  rcases hstretch : (transport.line.past count).stretch transport.quiet
    (some (transport.deadline .request)) (Limits.serialFrame + 1 - frame.length) with
    ⟨octets, stop, line⟩
  rw [hstretch] at hread hsilence hfull
  cases stop with
  | silence =>
      obtain ⟨-, rfl⟩ := Prod.mk.inj hread
      exact hsilence StretchEnd.noConfusion
  | ended =>
      obtain ⟨rfl, -⟩ := Prod.mk.inj hread
      obtain ⟨fault, hfault⟩ := hjudged _ rfl
      exact Error.noConfusion (Halt.failed.inj hfault)
  | full =>
      obtain ⟨-, rfl⟩ := Prod.mk.inj hread
      exact hfull

/-- What is read of a damaged request reaches as far as its function code tells. -/
theorem requestSpan_damaged {octets : List UInt8}
    (harriving : transport.line.arriving = damaged ++ rest)
    (hread : headlessOctets .request true transport = (.ok octets, after))
    (hknown : (shape? .request (transport.awaiting.getD 1 0)).isSome)
    (hinside : octets.length ≤ damaged.length) :
    Headless.requestSpan (damaged.map Prod.snd) = some octets.length := by
  obtain ⟨hfront, -, -⟩ := past_of_headlessOctets hread hknown
  rw [awaiting, harriving, List.map_append] at hfront
  obtain ⟨more, hmore⟩ : octets <+: damaged.map Prod.snd :=
    List.prefix_of_prefix_length_le ⟨_, hfront.symm⟩ (List.prefix_append _ _)
      (by rwa [List.length_map])
  rw [← hmore]
  exact Headless.requestSpan_append (requestSpan_of_headlessOctets hread hknown) (le_refl _)

/-- If a damaged request leaves nothing behind and the next one is sent only when it has been
refused, the next one is all that is still to come. -/
theorem arriving_of_damaged {fault : ProtocolFault}
    (hframing : transport.framing = .headless true) (htiming : transport.timing = none)
    (harriving : transport.line.arriving = damaged ++ rest)
    (hread : read .request transport = (.error (.failed (.protocol fault)), after))
    (hcoming : ∀ next ∈ rest.head?, after.line.now < next.1)
    (hnothing : transport.LeavesNothing damaged fault) : after.line.arriving = rest := by
  obtain ⟨outcome, between, hoctets, rfl, houtcome⟩ := octets_of_read hframing htiming hread
  have hjudged : Judged outcome := by
    rcases houtcome with rfl | ⟨octets, rfl, -⟩
    · exact judged_protocol fault
    · exact judged_ok octets
  obtain ⟨start, htwo, hawaiting, hbehind⟩ := start_of_headlessOctets hoctets hjudged
  have hspared : rest <:+ between.line.arriving := by
    obtain ⟨line, hline, hlater⟩ := Listens.headlessOctets .request true transport
    rw [hoctets] at hline
    obtain rfl : between.line = line := congrArg Transport.line hline
    exact hlater.spares harriving hcoming
  suffices hleft : between.line.arriving <:+ rest from
    hleft.eq_of_length_le hspared.length_le
  -- Two octets at least have been taken, and these belong to the damaged request.
  have hsome : 2 ≤ damaged.length := by
    obtain ⟨line, hline, hlater⟩ := Listens.behindCode .request true start
      (transport.deadline .request) (transport.past 2)
    rw [hbehind] at hline
    obtain rfl : between.line = line := congrArg Transport.line hline
    have hless := hspared.length_le.trans hlater.suffix.length_le
    have hlength := congrArg List.length hawaiting
    simp only [past, Line.past, harriving, List.length_drop, List.length_append] at hless
    rw [← length_arriving, harriving] at hlength
    simp only [List.length_append, htwo] at hlength
    omega
  have hcode : start.getD 1 0 = transport.awaiting.getD 1 0 := by
    rw [hawaiting, List.getD_append _ _ _ _ (by omega)]
  have hspan : (Headless.requestSpan (damaged.map Prod.snd)).isSome =
      (shape? .request (transport.awaiting.getD 1 0)).isSome := by
    have hlength : 2 ≤ (damaged.map Prod.snd).length := by rwa [List.length_map]
    rw [Headless.isSome_requestSpan hlength, awaiting, harriving, List.map_append,
      List.getD_append _ _ _ _ (by omega)]
    rfl
  cases hshape : shape? .request (transport.awaiting.getD 1 0) with
  | none =>
      rw [hshape, Option.isSome_none, Option.isSome_eq_false_iff,
        Option.isNone_iff_eq_none] at hspan
      simp only [LeavesNothing, hspan] at hnothing
      rw [← hcode] at hshape
      unfold behindCode at hbehind
      simp only [hshape] at hbehind
      rw [bind_pure] at hbehind
      exact suffix_of_untilQuiet harriving hnothing (by decide) hsome hbehind hjudged
  | some shape =>
      have hknown : (shape? .request (transport.awaiting.getD 1 0)).isSome := by
        rw [hshape, Option.isSome_some]
      rcases houtcome with rfl | ⟨octets, rfl, hdecode⟩
      · obtain ⟨count, hcount⟩ := Option.isSome_iff_exists.mp (hspan.trans hknown)
        rw [← hcode] at hknown
        obtain ⟨rfl, taken, rfl⟩ := (gathers_behindCode true _ hknown).dropped hbehind
        simp only [LeavesNothing, hcount, past, if_true] at hnothing
        rw [past_past]
        exact suffix_of_drained harriving hnothing.1 (by omega)
      · obtain ⟨hfront, rfl, -⟩ := past_of_headlessOctets hoctets hknown
        -- All that has been taken as a frame is part of the damaged request.
        have hinside : octets.length ≤ damaged.length := by
          have hless := hspared.length_le
          have hlength := congrArg List.length hfront
          simp only [past, Line.past, harriving, List.length_drop, List.length_append] at hless
          rw [← length_arriving, harriving] at hlength
          simp only [List.length_append] at hlength
          omega
        have hroom : fault ≠ .frameTooLong transport.peer := by
          rintro rfl
          exact Headless.decode_ne_frameTooLong hdecode
        simp only [LeavesNothing, requestSpan_damaged harriving hoctets hknown hinside,
          if_neg hroom] at hnothing
        exact suffix_of_past harriving hnothing

/-- If the function code tells of fewer octets than the damaged request has, the others are left
for the next frame to begin with. -/
theorem read_leaves_octets {count : Nat} {fault : ProtocolFault}
    (hframing : transport.framing = .headless true) (htiming : transport.timing = none)
    (harriving : transport.line.arriving = damaged ++ rest)
    (hspan : Headless.requestSpan (damaged.map Prod.snd) = some count)
    (hcount : count ≤ damaged.length) (hroom : count ≤ bufferSize)
    (hprompt : transport.line.Prompt count (some (transport.deadline .request)))
    (hdecode : Headless.decode true ((damaged.map Prod.snd).take count) = .error fault) :
    read .request transport =
        (.error (.failed (.protocol fault)), (transport.past count).active) ∧
      (transport.past count).line.arriving = damaged.drop count ++ rest := by
  have hinside : count ≤ (damaged.map Prod.snd).length := by rwa [List.length_map]
  have hlength : ((damaged.map Prod.snd).take count).length = count := by
    rw [List.length_take, Nat.min_eq_left hinside]
  have hawaiting : transport.awaiting = (damaged.map Prod.snd).take count ++
      ((damaged.map Prod.snd).drop count ++ rest.map Prod.snd) := by
    rw [← List.append_assoc, List.take_append_drop, awaiting, harriving, List.map_append]
  have hoctets := (takes_requestSpan hspan hinside hroom).whole transport _ hawaiting
    (by rwa [hlength])
  rw [hlength] at hoctets
  have huntimed : ¬(transport.past count).timing.isSome := by simp [past, htiming]
  have hread := read_undecoded hframing hoctets hdecode
  rw [if_neg huntimed] at hread
  refine ⟨hread, ?_⟩
  simp only [past, Line.past, harriving, List.drop_append_of_le_length hcount]

/-! ## The next request -/

/-- A request arrives whole and in time.  If its function code does not tell where it ends, it is
one burst with silence behind it. -/
structure Requested (transport : Transport) (frame : Frame) (arrivals later : List (Nat × UInt8)) :
    Prop where
  arriving : transport.line.arriving = arrivals ++ later
  brings : arrivals.map Prod.snd = Headless.encode true frame
  short : frame.pdu.length ≤ Limits.pdu
  timely : transport.line.Prompt arrivals.length (some (transport.deadline .request))
  ends : frame.Shaped .request ∨
    (∃ code data, frame.pdu = code :: data ∧ Function.ofCode? code = none) ∧
      Line.Gapless transport.quiet arrivals ∧ transport.line.endsAt = none ∧
      (transport.line.past arrivals.length).Silent transport.quiet

/-- Octets up to a silence are taken as one frame. -/
theorem untilQuiet_silent {frame : List UInt8} {limit : Nat} {arrivals later : List (Nat × UInt8)}
    (harriving : transport.line.arriving = arrivals ++ later)
    (hunbroken : Line.Unbroken transport.quiet transport.line.now arrivals)
    (hintime : ∀ arrival ∈ arrivals, ∀ time ∈ some limit, arrival.1 < time)
    (hroom : frame.length + arrivals.length ≤ Limits.serialFrame)
    (hopen : transport.line.endsAt = none)
    (hsilent : (transport.line.past arrivals.length).Silent transport.quiet) :
    ∃ last : Transport,
      untilQuiet frame limit transport = (.ok (frame ++ arrivals.map Prod.snd), last) ∧
        last.line.arriving = later := by
  obtain ⟨more, hmore⟩ := Nat.exists_eq_add_of_le hroom
  have hmost : Limits.serialFrame + 1 - frame.length = arrivals.length + (more + 1) := by omega
  have hstretch := Line.stretch_unbroken (more + 1) harriving hunbroken hintime
  rw [Line.stretch_silent more hsilent hopen, List.append_nil, ← hmost] at hstretch
  have hread := untilQuiet_apply frame limit transport
  rw [hstretch] at hread
  refine ⟨_, hread, ?_⟩
  simp only [Line.sleepUntil, Line.past, harriving, List.drop_left]

/-- A burst with an unknown function code is taken as one frame: first the octets up to the code,
then everything up to the silence. -/
theorem headlessOctets_silent {unit code : UInt8} {payload : List UInt8}
    {arrivals later : List (Nat × UInt8)} (harriving : transport.line.arriving = arrivals ++ later)
    (hbrings : arrivals.map Prod.snd = unit :: code :: payload)
    (hunknown : Shape.request? code = none) (hroom : arrivals.length ≤ Limits.serialFrame)
    (hburst : transport.OneBurst arrivals) (hopen : transport.line.endsAt = none)
    (hsilent : (transport.line.past arrivals.length).Silent transport.quiet) :
    ∃ last : Transport,
      headlessOctets .request true transport = (.ok (arrivals.map Prod.snd), last) ∧
        last.line.arriving = later := by
  obtain ⟨hgapless, htimely⟩ := hburst
  have hlength : arrivals.length = payload.length + 2 := by
    rw [← List.length_map Prod.snd, hbrings, List.length_cons, List.length_cons]
  have htwo : 2 ≤ arrivals.length := by omega
  have hawaiting : transport.awaiting =
      unit :: code :: (payload ++ later.map Prod.snd) := by
    rw [awaiting, harriving, List.map_append, hbrings]
    rfl
  have hothers : (arrivals.drop 2).map Prod.snd = payload := by
    rw [List.map_drop, hbrings]
    rfl
  obtain ⟨hleft, hunbroken⟩ := hgapless.unbroken_past harriving (by decide : 1 ≤ 2) htwo
  change (transport.past 2).line.arriving = _ at hleft
  have hintime : ∀ arrival ∈ arrivals.drop 2,
      ∀ time ∈ some (transport.deadline .request), arrival.1 < time := by
    intro arrival harrival
    refine htimely arrival ?_
    rw [harriving, List.take_left]
    exact List.mem_of_mem_drop harrival
  have hmore : [unit, code].length + (arrivals.drop 2).length ≤ Limits.serialFrame := by
    rw [List.length_drop]
    exact (Nat.add_sub_cancel' htwo).le.trans hroom
  have hbehind :
      ((transport.past 2).line.past (arrivals.drop 2).length).Silent transport.quiet := by
    show ((transport.line.past 2).past _).Silent _
    rwa [Line.past_past, List.length_drop, Nat.add_sub_cancel' htwo]
  obtain ⟨last, hread, hlater⟩ := untilQuiet_silent hleft hunbroken hintime hmore hopen hbehind
  rw [hothers] at hread
  rw [headlessOctets_unknown hawaiting (htimely.mono htwo) hunknown, hread, hbrings]
  exact ⟨last, rfl, hlater⟩

theorem Requested.read_eq {frame : Frame} {arrivals later : List (Nat × UInt8)}
    (hrequested : transport.Requested frame arrivals later)
    (hframing : transport.framing = .headless true) :
    ∃ last : Transport,
      read .request transport = (.ok ⟨⟨0, 0, frame.header.unitId⟩, frame.pdu⟩, last) ∧
        last.line.arriving = later := by
  obtain ⟨harriving, hbrings, hshort, htimely, hends⟩ := hrequested
  rcases hends with hshaped | ⟨⟨code, data, hpdu, hunknown⟩, hgapless, hopen, hsilent⟩
  · have hdelimits : transport.framing.Delimits .request frame := by
      rw [hframing]
      exact ⟨hshort, hshaped⟩
    have hencode : arrivals.map Prod.snd = transport.framing.encode frame := by
      rw [hframing]
      exact hbrings
    obtain ⟨hread, hlater⟩ := read_arrivals hdelimits harriving hencode htimely
    rw [hframing] at hread
    exact ⟨_, hread, hlater⟩
  · have hnone : Shape.request? code = none := by rw [Shape.request?, hunknown, Option.map_none]
    have hroom : arrivals.length ≤ Limits.serialFrame := by
      rw [← List.length_map Prod.snd, hbrings, Headless.length_encode]
      simp only [Limits.pdu] at hshort
      simp only [if_true, Limits.serialFrame]
      omega
    obtain ⟨last, hoctets, hlater⟩ := headlessOctets_silent harriving
      (hbrings.trans (Frame.encode_eq rfl hpdu)) hnone hroom ⟨hgapless, htimely⟩ hopen hsilent
    have hdecode := Headless.decode_encode true (by rw [hpdu]; simp) hshort
    rw [← hbrings] at hdecode
    have hread : readHeadless .request true transport =
        (.ok ⟨⟨0, 0, frame.header.unitId⟩, frame.pdu⟩, last) := by
      unfold readHeadless
      rw [stateful_bind_ok hoctets]
      simp only [hdecode]
      rfl
    refine ⟨last.active, ?_, hlater⟩
    rw [read_apply, hframing, reading, hread]

/-- Reading changes nothing but the line and the time of the last activity. -/
theorem unchanged_of_read {direction : Direction} {checksum : Bool} {outcome : Except Halt Frame}
    (hframing : transport.framing = .headless checksum)
    (hread : read direction transport = (outcome, after)) :
    after.framing = transport.framing ∧ after.timing = transport.timing ∧
      after.closed = transport.closed ∧ after.sent = transport.sent := by
  obtain ⟨line, hline, -⟩ := Listens.readHeadless direction checksum transport
  have hreading : reading transport.framing direction = readHeadless direction checksum := by
    rw [hframing, reading]
  rw [read_apply, hreading, hline] at hread
  obtain ⟨-, rfl⟩ := Prod.mk.inj hread
  exact ⟨rfl, rfl, rfl, rfl⟩

end Transport

namespace Slave

/-- After a damaged request that leaves nothing behind, a slave on a connection reads the next
request as it is and answers it once, if that is sent only when the damaged one has been
refused. -/
theorem serveWithin_damaged {transport between : Transport} {damaged rest : List (Nat × UInt8)}
    {fault : ProtocolFault} (hframing : transport.framing = .headless true)
    (htiming : transport.timing = none) (hopen : transport.closed = false)
    (harriving : transport.line.arriving = damaged ++ rest)
    (hdamage : Transport.read .request transport = (.error (.failed (.protocol fault)), between))
    (hcoming : ∀ next ∈ rest.head?, between.line.now < next.1)
    (hnothing : transport.LeavesNothing damaged fault) :
    between.line.arriving = rest ∧
      ∀ (frame : Frame) (arrivals later : List (Nat × UInt8)),
        between.Requested frame arrivals later →
        ∃ request last, request = ⟨⟨0, 0, frame.header.unitId⟩, frame.pdu⟩ ∧
          Transport.read .request between = (.ok request, last) ∧
          last.line.arriving = later ∧ last.sent = transport.sent ∧
          ∀ station : Station, ∃ reply after, station.handle true request = (some reply, after) ∧
            ∀ rounds, serveWithin .connection (rounds + 2) transport station =
              serveWithin .connection rounds
                (last.answered (Headless.encode true reply)) after := by
  refine ⟨Transport.arriving_of_damaged hframing htiming harriving hdamage hcoming hnothing, ?_⟩
  intro frame arrivals later hrequested
  obtain ⟨hheadless, huntimed, hstill, hsent⟩ := Transport.unchanged_of_read hframing hdamage
  rw [hframing] at hheadless
  obtain ⟨last, hread, hlater⟩ := hrequested.read_eq hheadless
  obtain ⟨hsame, hnone, hlast, hnothingSent⟩ := Transport.unchanged_of_read hheadless hread
  refine ⟨_, last, rfl, hread, hlater, hnothingSent.trans hsent, fun station => ?_⟩
  obtain ⟨reply, after, hhandle⟩ := station.handle_own ⟨⟨0, 0, frame.header.unitId⟩, frame.pdu⟩
  refine ⟨reply, after, hhandle, fun rounds => ?_⟩
  have hown : station.handle LineUse.connection.own ⟨⟨0, 0, frame.header.unitId⟩, frame.pdu⟩ =
      (some reply, after) := hhandle
  have hsurvives :
      LineUse.connection.survives between.framing.isHeadless (.protocol fault) = true := by
    rw [hheadless]
    rfl
  have hsilent : last.timing.any Timing.echo = false := by
    rw [hnone, huntimed, htiming]
    rfl
  have hencode : last.framing.encode reply = Headless.encode true reply := by
    rw [hsame, hheadless]
    rfl
  rw [serveWithin_survived hdamage hsurvives,
    serveWithin_answered hread hown (hlast.trans (hstill.trans hopen)) hsilent, hencode]

/-- A request with a wrong checksum is refused, and the one that follows it answered. -/
theorem serveWithin_damaged_checksum :
    let frame : Frame := ⟨⟨0, 0, 1⟩, [3, 0, 0, 0, 1]⟩
    let line := Line.ofChunks 1000000
      [(0, [1, 3, 0, 0, 0, 1, 0, 0]), (100000000, Headless.encode true frame)] false
    let transport := Transport.opened line (.headless true) "master" none Transport.defaultTimeout
    let station := Station.serving (.ofImages [Image.cleared 1 4])
    ∃ last : Transport, last.sent = [] ∧
      serveWithin .connection 2 transport station =
        (last.answered (Headless.encode true ⟨⟨0, 0, 1⟩, [3, 2, 0, 0]⟩),
          (station.handle true frame).2) := by
  intro frame line transport station
  have hrefused : (Transport.read .request transport).1 =
      .error (.failed (.protocol (.checksum 0x0a84 0))) := by decide +kernel
  have hdamage : Transport.read .request transport =
      (.error (.failed (.protocol (.checksum 0x0a84 0))), (Transport.read .request transport).2) :=
    hrefused ▸ Prod.mk.eta.symm
  have hsplit : transport.line.arriving = line.arriving.take 8 ++ line.arriving.drop 8 :=
    (List.take_append_drop 8 _).symm
  have hspan : Headless.requestSpan ((line.arriving.take 8).map Prod.snd) = some 8 := by
    decide +kernel
  have hnothing : transport.LeavesNothing (line.arriving.take 8) (.checksum 0x0a84 0) := by
    simp only [Transport.LeavesNothing, hspan]
    rw [if_neg ProtocolFault.noConfusion, List.length_take]
    exact Nat.min_le_left 8 _
  obtain ⟨-, hanswers⟩ :=
    serveWithin_damaged rfl rfl rfl hsplit hdamage (by decide +kernel) hnothing
  have hrequested : (Transport.read .request transport).2.Requested frame
      (line.arriving.drop 8) [] :=
    ⟨by decide +kernel, by decide +kernel, by decide, by decide +kernel,
      Or.inl ⟨3, [0, 0, 0, 1], .fixed 4, rfl, rfl, rfl⟩⟩
  obtain ⟨_, last, rfl, -, -, hsent, hanswered⟩ := hanswers frame _ [] hrequested
  obtain ⟨reply, after, hhandle, hserve⟩ := hanswered station
  have hreply : (station.handle true frame).1 = some ⟨⟨0, 0, 1⟩, [3, 2, 0, 0]⟩ := by decide +kernel
  change station.handle true frame = _ at hhandle
  rw [hhandle] at hreply ⊢
  obtain rfl := Option.some.inj hreply
  exact ⟨last, hsent, hserve 0⟩

/-- Behind a request to write three registers whose damaged octet count tells of one, four octets
are left.  The next request is taken for their continuation and never answered, although it
comes after a long silence. -/
theorem serve_swallows_request :
    let frame : Frame := ⟨⟨0, 0, 1⟩, [3, 0, 0, 0, 1]⟩
    let damaged : List UInt8 := [1, 16, 0, 0, 0, 3, 2, 0, 5, 0, 6, 1, 3, 139, 16]
    let line := Line.ofChunks 1000000
      [(0, damaged), (100000000, Headless.encode true frame)] false
    let transport := Transport.opened line (.headless true) "master" none Transport.defaultTimeout
    let refused := Transport.read .request transport
    let station := Station.serving (.ofImages [Image.cleared 1 4])
    transport.quiet < 100000000 ∧
      refused.1 = .error (.failed (.protocol (.checksum 0xeb67 0x0600))) ∧
      refused.2.awaiting = [1, 3, 139, 16] ++ Headless.encode true frame ∧
      (Transport.read .request refused.2).1 ≠ .ok frame ∧
      (serve .connection transport station).1.sent = [] := by
  decide +kernel

end Slave

end Modbus
