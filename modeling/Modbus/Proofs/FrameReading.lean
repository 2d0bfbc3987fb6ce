import Mathlib.Tactic
import Modbus.Proofs.Reading
import Modbus.Transport

/-!
# Reading a frame from a line

A frame is read in several steps: the octets of each step tell how many the
next one has to wait for.  What a step does is described by the octets that it
takes.  If they arrive in time, the step succeeds, and what follows them is left
on the line; if the line ends inside them, the step fails.  Steps one after
another take the octets of all of them, so the steps of a frame take exactly
the octets of the frame.
-/

namespace Modbus

/-! ## Lines -/

namespace Line

/-- The line when the next `count` octets have been taken from it. -/
def past (count : Nat) (line : Line) : Line :=
  { line with
    now := (line.arriving.take count).foldl (fun now arrival => max now arrival.1) line.now
    arriving := line.arriving.drop count }

/-- The next `count` octets come before the deadline, if there is one. -/
def Prompt (line : Line) (count : Nat) (deadline : Option Nat) : Prop :=
  ∀ arrival ∈ line.arriving.take count, ∀ time ∈ deadline, arrival.1 < time

instance (line : Line) (count : Nat) (deadline : Option Nat) :
    Decidable (line.Prompt count deadline) :=
  inferInstanceAs (Decidable (∀ arrival ∈ line.arriving.take count, ∀ time ∈ deadline,
    arrival.1 < time))

/-- The line ends before the deadline, if there is one. -/
def EndsBy (line : Line) (deadline : Option Nat) : Prop :=
  ∃ time ∈ line.endsAt, ∀ limit ∈ deadline, time < limit

instance (line : Line) (deadline : Option Nat) : Decidable (line.EndsBy deadline) :=
  inferInstanceAs (Decidable (∃ time ∈ line.endsAt, ∀ limit ∈ deadline, time < limit))

@[simp] theorem past_zero (line : Line) : line.past 0 = line := rfl

theorem past_past (line : Line) (first second : Nat) :
    (line.past first).past second = line.past (first + second) := by
  simp only [past, List.take_add, List.foldl_append, List.drop_drop]

theorem prompt_none (line : Line) (count : Nat) : line.Prompt count none := by
  intro arrival harrival time htime
  contradiction

theorem Prompt.mono {line : Line} {deadline : Option Nat} {count fewer : Nat}
    (hprompt : line.Prompt count deadline) (hfewer : fewer ≤ count) :
    line.Prompt fewer deadline := by
  intro arrival harrival
  rw [← Nat.min_eq_left hfewer, ← List.take_take] at harrival
  exact hprompt arrival (List.mem_of_mem_take harrival)

theorem Prompt.past {line : Line} {deadline : Option Nat} {first second : Nat}
    (hprompt : line.Prompt (first + second) deadline) :
    (line.past first).Prompt second deadline := by
  intro arrival harrival
  refine hprompt arrival (List.mem_of_mem_drop (i := first) ?_)
  rw [List.drop_take, Nat.add_sub_cancel_left]
  exact harrival

theorem Prompt.add {line : Line} {deadline : Option Nat} {first second : Nat}
    (hfirst : line.Prompt first deadline) (hsecond : (line.past first).Prompt second deadline) :
    line.Prompt (first + second) deadline := by
  intro arrival harrival
  rw [List.take_add, List.mem_append] at harrival
  exact harrival.elim (hfirst arrival) (hsecond arrival)

theorem EndsBy.past {line : Line} {deadline : Option Nat} (hends : line.EndsBy deadline)
    (count : Nat) : (line.past count).EndsBy deadline := hends

theorem le_foldl_max (arrivals : List (Nat × UInt8)) (now : Nat) :
    now ≤ arrivals.foldl (fun now arrival => max now arrival.1) now := by
  induction arrivals generalizing now with
  | nil => exact le_refl now
  | cons arrival arrivals ih =>
      exact (Nat.le_max_left now arrival.1).trans (ih (max now arrival.1))

theorem mem_le_foldl_max {arrivals : List (Nat × UInt8)} {arrival : Nat × UInt8}
    (harrival : arrival ∈ arrivals) (now : Nat) :
    arrival.1 ≤ arrivals.foldl (fun now arrival => max now arrival.1) now := by
  induction arrivals generalizing now with
  | nil => contradiction
  | cons first arrivals ih =>
      rcases List.mem_cons.mp harrival with rfl | hother
      · exact (Nat.le_max_right now arrival.1).trans (le_foldl_max arrivals _)
      · exact ih hother (max now first.1)

theorem foldl_max_le {arrivals : List (Nat × UInt8)} {now bound : Nat} (hnow : now ≤ bound)
    (harrivals : ∀ arrival ∈ arrivals, arrival.1 ≤ bound) :
    arrivals.foldl (fun now arrival => max now arrival.1) now ≤ bound := by
  induction arrivals generalizing now with
  | nil => exact hnow
  | cons arrival arrivals ih =>
      have hfirst := harrivals arrival List.mem_cons_self
      exact ih (Nat.max_le.mpr ⟨hnow, hfirst⟩)
        fun other hother => harrivals other (List.mem_cons_of_mem arrival hother)

theorem past_now_le {line : Line} {bound : Nat} (hnow : line.now ≤ bound)
    (harrivals : ∀ arrival ∈ line.arriving, arrival.1 ≤ bound) (count : Nat) :
    (line.past count).now ≤ bound :=
  foldl_max_le hnow fun arrival harrival => harrivals arrival (List.mem_of_mem_take harrival)

/-- Whoever has taken the first octet has waited for it. -/
theorem first_le_past {line : Line} {first : Nat × UInt8} {rest : List (Nat × UInt8)}
    (harriving : line.arriving = first :: rest) (count : Nat) :
    first.1 ≤ (line.past (count + 1)).now := by
  simp only [past, harriving, List.take_succ_cons]
  exact mem_le_foldl_max List.mem_cons_self line.now

theorem le_expiry {line : Line} {time : Nat} (htime : line.now < time) :
    time ≤ line.expiry time := by
  have hunit : 0 < max line.resolution 1 := by omega
  unfold expiry
  rw [if_neg (by omega)]
  have hdiv := Nat.div_add_mod (time + max line.resolution 1 - 1) (max line.resolution 1)
  have hmod := Nat.mod_lt (time + max line.resolution 1 - 1) hunit
  rw [Nat.mul_comm] at hdiv
  omega

theorem expiry_le (line : Line) (time : Nat) :
    line.expiry time ≤ max line.now (time + max line.resolution 1) := by
  unfold expiry
  dsimp only
  split
  next => exact Nat.le_max_left _ _
  next =>
    have hdiv := Nat.div_mul_le_self (time + max line.resolution 1 - 1) (max line.resolution 1)
    omega

theorem now_le_expiry (line : Line) (time : Nat) : line.now ≤ line.expiry time := by
  by_cases htime : time ≤ line.now
  · simp [expiry, htime]
  · have hle := le_expiry (Nat.not_le.mp htime)
    omega

theorem inTime_of_lt (line : Line) {deadline : Option Nat} {time : Nat}
    (htime : ∀ limit, deadline = some limit → time < limit) :
    time ≤ line.now ∨ line.inTime deadline time = true := by
  by_cases hthere : time ≤ line.now
  · exact Or.inl hthere
  · right
    cases deadline with
    | none => rfl
    | some limit =>
        have hbefore := htime limit rfl
        have hexpiry : limit ≤ line.expiry limit := le_expiry (by omega)
        simp only [inTime, decide_eq_true_eq]
        omega

/-- An octet that comes before the deadline is taken. -/
theorem next_eq {line : Line} {deadline : Option Nat} {first : Nat × UInt8}
    {rest : List (Nat × UInt8)} (harriving : line.arriving = first :: rest)
    (hprompt : line.Prompt 1 deadline) :
    line.next deadline = (.octet first.2, line.past 1) := by
  have hintime := inTime_of_lt line (hprompt first (by simp [harriving]))
  unfold next
  rw [harriving]
  simp only
  rw [if_pos hintime]
  simp [past, harriving]

/-- Behind the last octet there is the end. -/
theorem next_ended {line : Line} {deadline : Option Nat} (harriving : line.arriving = [])
    (hends : line.EndsBy deadline) : ∃ after, line.next deadline = (.ended, after) := by
  obtain ⟨time, hend, hbefore⟩ := hends
  have hintime := inTime_of_lt line hbefore
  unfold next
  rw [harriving, hend]
  simp only
  rw [if_pos hintime]
  exact ⟨_, rfl⟩

/-- All octets that one waits for come if they come before the deadline. -/
theorem exactly_eq {deadline : Option Nat} {count : Nat} {line : Line}
    (hcount : count ≤ line.arriving.length) (hprompt : line.Prompt count deadline) :
    line.exactly deadline count =
      (.ok ((line.arriving.take count).map Prod.snd), line.past count) := by
  induction count generalizing line with
  | zero => rfl
  | succ count ih =>
      cases harriving : line.arriving with
      | nil => simp [harriving] at hcount
      | cons first rest =>
          have hrest : (line.past 1).arriving = rest := by simp [past, harriving]
          have hmore : count ≤ (line.past 1).arriving.length := by
            rw [harriving, List.length_cons] at hcount
            rw [hrest]
            omega
          rw [exactly, next_eq harriving (hprompt.mono (by omega))]
          dsimp only
          rw [Nat.add_comm] at hprompt
          rw [ih hmore hprompt.past, hrest, past_past, Nat.add_comm 1 count]
          rfl

/-- If the line ends too early, whoever waits learns of its end. -/
theorem exactly_ended {deadline : Option Nat} {count : Nat} {line : Line}
    (hcount : line.arriving.length < count)
    (hprompt : line.Prompt line.arriving.length deadline) (hends : line.EndsBy deadline) :
    ∃ after, line.exactly deadline count = (.error .ended, after) := by
  induction count generalizing line with
  | zero => omega
  | succ count ih =>
      cases harriving : line.arriving with
      | nil =>
          obtain ⟨after, hnext⟩ := next_ended harriving hends
          exact ⟨after, by rw [exactly, hnext]⟩
      | cons first rest =>
          rw [harriving, List.length_cons] at hcount hprompt
          have hrest : (line.past 1).arriving = rest := by simp [past, harriving]
          rw [Nat.add_comm] at hprompt
          have hless : (line.past 1).arriving.length < count := by
            rw [hrest]
            omega
          have hlater : (line.past 1).Prompt (line.past 1).arriving.length deadline := by
            rw [hrest]
            exact hprompt.past
          obtain ⟨after, hexactly⟩ := ih hless hlater (hends.past 1)
          refine ⟨after, ?_⟩
          rw [exactly, next_eq harriving (hprompt.mono (by omega))]
          dsimp only
          rw [hexactly]

end Line

/-! ## Transports -/

namespace Transport

/-- The transport when the next `count` octets have been taken from its line. -/
def past (count : Nat) (transport : Transport) : Transport :=
  { transport with line := transport.line.past count }

/-- The octets that are on their way. -/
def awaiting (transport : Transport) : List UInt8 := transport.line.arriving.map Prod.snd

@[simp] theorem past_zero (transport : Transport) : transport.past 0 = transport := rfl

theorem past_past (transport : Transport) (first second : Nat) :
    (transport.past first).past second = transport.past (first + second) := by
  simp only [past, Line.past_past]

theorem awaiting_past (transport : Transport) (count : Nat) :
    (transport.past count).awaiting = transport.awaiting.drop count := by
  simp only [past, Line.past, awaiting, List.map_drop]

theorem awaiting_past_append {transport : Transport} {front back : List UInt8}
    (hawaiting : transport.awaiting = front ++ back) :
    (transport.past front.length).awaiting = back := by
  rw [awaiting_past, hawaiting, List.drop_left]

theorem length_arriving (transport : Transport) :
    transport.line.arriving.length = transport.awaiting.length := by
  rw [awaiting, List.length_map]

theorem octets_eq {transport : Transport} {deadline : Option Nat} {count : Nat}
    (hcount : count ≤ transport.awaiting.length)
    (hprompt : transport.line.Prompt count deadline) :
    octets deadline count transport =
      (.ok (transport.awaiting.take count), transport.past count) := by
  have hread := Line.exactly_eq (by simpa [awaiting] using hcount) hprompt
  unfold octets
  rw [stateful_get_bind, hread]
  simp only [awaiting, List.map_take]
  rfl

/-- How reading ends where the line ends inside a frame. -/
def cutShort {α : Type} : Except Halt α := .error (.failed (.endOfStream .insideFrame))

theorem octets_cutShort {transport : Transport} {deadline : Option Nat} {count : Nat}
    (hcount : transport.awaiting.length < count)
    (hprompt : transport.line.Prompt transport.awaiting.length deadline)
    (hends : transport.line.EndsBy deadline) :
    ∃ after, octets deadline count transport = (cutShort, after) := by
  rw [← length_arriving] at hcount hprompt
  obtain ⟨line, hexactly⟩ := Line.exactly_ended hcount hprompt hends
  refine ⟨{ transport with line := line }, ?_⟩
  unfold octets
  rw [stateful_get_bind, hexactly]
  rfl

/-! ## Steps of reading -/

/-- What lacks some octets ends inside its first part, or behind it. -/
theorem ends_inside_or_behind {octets missing front back : List UInt8}
    (hoctets : octets ++ missing = front ++ back) :
    (∃ more, more ≠ [] ∧ octets ++ more = front) ∨
      ∃ rest, octets = front ++ rest ∧ rest ++ missing = back := by
  rcases List.append_eq_append_iff.mp hoctets with ⟨more, hfront, hmissing⟩ | ⟨rest, hrest, hback⟩
  · rcases eq_or_ne more [] with rfl | hmore
    · rw [List.append_nil] at hfront
      exact Or.inr ⟨[], by rw [hfront, List.append_nil], hmissing⟩
    · exact Or.inl ⟨more, hmore, hfront.symm⟩
  · exact Or.inr ⟨rest, hrest, hback.symm⟩

/-- A step takes exactly the given octets.  If they come before the deadline, which
may depend on when the step begins, it succeeds and leaves what follows them; if
the line ends inside them, it is cut short. -/
structure Takes {α : Type} (deadline : Transport → Nat) (work : Exchange α)
    (octets : List UInt8) (result : α) : Prop where
  whole : ∀ transport rest, transport.awaiting = octets ++ rest →
    transport.line.Prompt octets.length (some (deadline transport)) →
    work transport = (.ok result, transport.past octets.length)
  part : ∀ transport missing, missing ≠ [] → transport.awaiting ++ missing = octets →
    transport.line.Prompt transport.awaiting.length (some (deadline transport)) →
    transport.line.EndsBy (some (deadline transport)) →
    ∃ after, work transport = (cutShort, after)

namespace Takes

variable {α β : Type} {deadline : Transport → Nat} {work : Exchange α}
  {next : α → Exchange β} {front back : List UInt8} {value : α} {result : β}

theorem pure (value : α) : Takes deadline (Pure.pure value) [] value where
  whole _ _ _ _ := rfl
  part transport missing hmissing hnone := by
    obtain ⟨-, rfl⟩ := List.append_eq_nil_iff.mp hnone
    contradiction

/-- One step after another takes the octets of both. -/
theorem bind (hwork : Takes deadline work front value)
    (hnext : ∀ transport, Takes (fun _ => deadline transport) (next value) back result) :
    Takes deadline (work >>= next) (front ++ back) result where
  whole transport rest hawaiting hprompt := by
    rw [List.append_assoc] at hawaiting
    rw [List.length_append] at hprompt ⊢
    rw [stateful_bind_ok (hwork.whole transport _ hawaiting (hprompt.mono (by omega))),
      (hnext transport).whole _ rest (awaiting_past_append hawaiting) hprompt.past, past_past]
  part transport missing hmissing hoctets hprompt hends := by
    rcases ends_inside_or_behind hoctets with ⟨more, hmore, hfront⟩ | ⟨rest, hawaiting, hback⟩
    · obtain ⟨after, herror⟩ := hwork.part transport more hmore hfront hprompt hends
      exact ⟨after, stateful_bind_error herror⟩
    · have hlength : transport.awaiting.length = front.length + rest.length := by
        rw [hawaiting, List.length_append]
      rw [hlength] at hprompt
      have hrest := awaiting_past_append hawaiting
      rw [stateful_bind_ok (hwork.whole transport rest hawaiting (hprompt.mono (by omega)))]
      exact (hnext transport).part _ missing hmissing (by rw [hrest, hback])
        (by rw [hrest]; exact hprompt.past) (hends.past _)

end Takes

/-- Waiting for more octets of a frame takes as many as are asked for. -/
theorem takes_more (frame : List UInt8) {octets : List UInt8} {count : Nat} (deadline : Nat)
    (hcount : octets.length = count) (hroom : frame.length + count ≤ bufferSize) :
    Takes (fun _ => deadline) (more frame deadline count) octets (frame ++ octets) := by
  subst hcount
  unfold more
  rw [if_neg (by omega)]
  refine ⟨?_, ?_⟩
  · intro transport rest hawaiting hprompt
    have hread := octets_eq (by rw [hawaiting, List.length_append]; omega) hprompt
    rw [hawaiting, List.take_left] at hread
    exact stateful_bind_ok hread
  · intro transport missing hmissing hoctets hprompt hends
    have hpositive := List.length_pos_of_ne_nil hmissing
    have hshort : transport.awaiting.length < octets.length := by
      rw [← hoctets, List.length_append]
      omega
    obtain ⟨after, herror⟩ := octets_cutShort hshort hprompt hends
    exact ⟨after, stateful_bind_error herror⟩

/-- When a frame has to be complete: a slave counts from its first octet on. -/
def deadline (transport : Transport) : Direction → Nat
  | .request => (transport.past 1).line.now + transport.timeout
  | .response => transport.line.now + transport.timeout

/-- The deadline for an answer is set before its first octet is waited for. -/
theorem first_response_eq (transport : Transport) :
    first .response transport =
      (octets (some (transport.deadline .response)) 1 >>= fun octet =>
        pure (octet, transport.deadline .response)) transport :=
  stateful_get_bind

theorem first_eq {transport : Transport} {direction : Direction} {octet : UInt8}
    {rest : List UInt8} (hawaiting : transport.awaiting = octet :: rest)
    (hprompt : transport.line.Prompt 1 (some (transport.deadline direction))) :
    first direction transport =
      (.ok ([octet], transport.deadline direction), transport.past 1) := by
  have hsome : 1 ≤ transport.awaiting.length := by
    rw [hawaiting, List.length_cons]
    omega
  have htake : transport.awaiting.take 1 = [octet] := by
    rw [hawaiting]
    rfl
  cases direction with
  | request =>
      have hoctets := octets_eq hsome (transport.line.prompt_none 1)
      rw [htake] at hoctets
      exact stateful_bind_ok hoctets
  | response =>
      have hoctets := octets_eq hsome hprompt
      rw [htake] at hoctets
      exact (first_response_eq transport).trans (stateful_bind_ok hoctets)

theorem first_cutShort {transport : Transport} {direction : Direction}
    (hawaiting : transport.awaiting = [])
    (hends : transport.line.EndsBy (some (transport.deadline direction))) :
    ∃ after, first direction transport = (cutShort, after) := by
  have hlength : transport.awaiting.length < 1 := by simp [hawaiting]
  have hprompt (limit : Option Nat) :
      transport.line.Prompt transport.awaiting.length limit := by
    rw [hawaiting]
    intro arrival harrival
    simp at harrival
  cases direction with
  | request =>
      obtain ⟨time, hend, -⟩ := hends
      have hnone : transport.line.EndsBy none := ⟨time, hend, fun limit hlimit => by contradiction⟩
      obtain ⟨after, herror⟩ := octets_cutShort hlength (hprompt none) hnone
      exact ⟨after, stateful_bind_error herror⟩
  | response =>
      obtain ⟨after, herror⟩ := octets_cutShort hlength (hprompt _) hends
      exact ⟨after, (first_response_eq transport).trans (stateful_bind_error herror)⟩

/-- The first octet of a frame sets the deadline for those that follow it. -/
theorem takes_first {α : Type} {direction : Direction} {next : List UInt8 × Nat → Exchange α}
    {octet : UInt8} {octets : List UInt8} {result : α}
    (hnext : ∀ limit, Takes (fun _ => limit) (next ([octet], limit)) octets result) :
    Takes (fun transport => transport.deadline direction) (first direction >>= next)
      (octet :: octets) result where
  whole transport rest hawaiting hprompt := by
    have hlength : (octet :: octets).length = 1 + octets.length := Nat.add_comm _ 1
    rw [hlength] at hprompt ⊢
    have hrest : (transport.past 1).awaiting = octets ++ rest := by
      rw [awaiting_past, hawaiting]
      rfl
    rw [stateful_bind_ok (first_eq hawaiting (hprompt.mono (by omega))),
      (hnext _).whole _ rest hrest hprompt.past, past_past]
  part transport missing hmissing hoctets hprompt hends := by
    cases hawaiting : transport.awaiting with
    | nil =>
        obtain ⟨after, herror⟩ := first_cutShort hawaiting hends
        exact ⟨after, stateful_bind_error herror⟩
    | cons other rest =>
        rw [hawaiting] at hoctets
        obtain ⟨rfl, hrest⟩ := List.cons.inj hoctets
        have hlength : transport.awaiting.length = 1 + rest.length := by
          rw [hawaiting, List.length_cons, Nat.add_comm]
        rw [hlength] at hprompt
        have hleft : (transport.past 1).awaiting = rest := by
          rw [awaiting_past, hawaiting]
          rfl
        rw [stateful_bind_ok (first_eq hawaiting (hprompt.mono (by omega)))]
        exact (hnext _).part _ missing hmissing (by rw [hleft]; exact hrest)
          (by rw [hleft]; exact hprompt.past) (hends.past 1)

end Transport

/-! ## Frames -/

/-- The function code of a frame tells how long the frame is. -/
def Frame.Shaped (direction : Direction) (frame : Frame) : Prop :=
  ∃ code payload shape, frame.pdu = code :: payload ∧
    Transport.shape? direction code = some shape ∧ shape.length payload = payload.length

/-- A frame that can be read from every line: its payload is not too long, and its
function code tells how long it is. -/
structure Frame.Regular (direction : Direction) (frame : Frame) : Prop where
  protocol : frame.header.protocolId = 0
  short : frame.pdu.length ≤ Limits.pdu
  shaped : frame.Shaped direction

/-- A frame whose end a reader can tell from its first octets. -/
def Framing.Delimits (framing : Framing) (direction : Direction) (frame : Frame) : Prop :=
  match framing with
  | mbap => frame.header.protocolId = 0 ∧ 1 ≤ frame.pdu.length ∧ frame.pdu.length ≤ Limits.pdu
  | headless _ => frame.pdu.length ≤ Limits.pdu ∧ frame.Shaped direction

theorem Frame.Shaped.length_pos {direction : Direction} {frame : Frame}
    (hshaped : frame.Shaped direction) : 1 ≤ frame.pdu.length := by
  obtain ⟨code, payload, -, hpdu, -⟩ := hshaped
  simp [hpdu]

theorem Frame.Regular.delimited {direction : Direction} {frame : Frame}
    (hframe : frame.Regular direction) (framing : Framing) :
    framing.Delimits direction frame := by
  cases framing with
  | mbap => exact ⟨hframe.protocol, hframe.shaped.length_pos, hframe.short⟩
  | headless checksum => exact ⟨hframe.short, hframe.shaped⟩

/-- A frame as the other end sees it: without a network header only the unit is known. -/
def Framing.received (framing : Framing) (frame : Frame) : Frame :=
  match framing with
  | mbap => frame
  | headless _ => ⟨⟨0, 0, frame.header.unitId⟩, frame.pdu⟩

theorem Mbap.length_encode (frame : Frame) :
    (Mbap.encode frame).length = 7 + frame.pdu.length := by
  simp only [Mbap.encode, List.length_append, Words.length_toOctets, List.length_cons,
    List.length_nil]
  omega

theorem Mbap.drop_encode (frame : Frame) : (Mbap.encode frame).drop 7 = frame.pdu := by
  simp [Mbap.encode, Words.toOctets, Word.toOctets]

/-- The length field of a frame that is not too long does not wrap. -/
theorem Frame.lengthField_of_le {frame : Frame} (hshort : frame.pdu.length ≤ Limits.pdu) :
    frame.lengthField.toNat = frame.pdu.length + 1 := by
  simp only [Limits.pdu] at hshort
  rw [Frame.lengthField, UInt16.toNat_ofNat']
  exact Nat.mod_eq_of_lt (by omega)

/-- The header tells how many octets follow it. -/
theorem Mbap.decodeHeader_encode {frame : Frame} (hprotocol : frame.header.protocolId = 0)
    (hsome : 1 ≤ frame.pdu.length) (hshort : frame.pdu.length ≤ Limits.pdu) :
    Mbap.decodeHeader ((Mbap.encode frame).take 7) = .ok (frame.header, frame.pdu.length) := by
  have hlength := Frame.lengthField_of_le hshort
  obtain ⟨⟨transactionId, protocolId, unitId⟩, pdu⟩ := frame
  simp only at hprotocol hsome hshort hlength
  subst hprotocol
  simp only [Limits.pdu] at hshort
  simp only [Mbap.encode, Words.toOctets_cons, Words.toOctets_nil, Word.toOctets,
    List.cons_append, List.nil_append, List.take_succ_cons, Mbap.decodeHeader,
    Word.ofOctets_toOctets, Limits.networkLength]
  rw [hlength, if_neg (by simp), if_neg (by omega), Nat.add_sub_cancel]

theorem Headless.length_encode (checksum : Bool) (frame : Frame) :
    (Headless.encode checksum frame).length =
      1 + frame.pdu.length + if checksum then 2 else 0 := by
  cases checksum <;> simp [Headless.encode, Headless.trailer, Word.toOctets]
  · exact Nat.add_comm _ _
  · omega

theorem Headless.verify_trailer (octets : List UInt8) :
    Headless.verify (octets ++ Headless.trailer octets) = .ok octets := by
  have hlength : (octets ++ Headless.trailer octets).length - 2 = octets.length := by
    simp [Headless.trailer, Word.toOctets]
  unfold Headless.verify
  rw [hlength, List.take_left, List.drop_left]
  simp only [Headless.trailer, Word.toOctets, List.reverse_cons, List.reverse_nil,
    List.nil_append, List.cons_append, Word.ofOctets_toOctets, if_true]

/-- The unit and the payload are what stands between the ends of a frame. -/
theorem Headless.decode_encode (checksum : Bool) {frame : Frame} (hsome : 1 ≤ frame.pdu.length)
    (hshort : frame.pdu.length ≤ Limits.pdu) :
    Headless.decode checksum (Headless.encode checksum frame) =
      .ok ⟨⟨0, 0, frame.header.unitId⟩, frame.pdu⟩ := by
  have hlength := Headless.length_encode checksum frame
  have hsize : ¬((Headless.encode checksum frame).length < (if checksum then 4 else 2) ∨
      Limits.serialFrame < (Headless.encode checksum frame).length) := by
    simp only [Limits.pdu, Limits.serialFrame] at hshort ⊢
    cases checksum <;> simp only [if_true, Bool.false_eq_true, if_false] at hlength ⊢ <;> omega
  unfold Headless.decode
  rw [if_neg hsize]
  cases checksum with
  | false => rfl
  | true =>
      simp only [Headless.encode, if_true, Headless.verify_trailer]
      rfl

namespace Transport

/-- A frame with a network header is read as it is. -/
theorem takes_readMbap {direction : Direction} {frame : Frame}
    (hprotocol : frame.header.protocolId = 0) (hsome : 1 ≤ frame.pdu.length)
    (hshort : frame.pdu.length ≤ Limits.pdu) :
    Takes (fun transport => transport.deadline direction) (readMbap direction)
      (Mbap.encode frame) frame := by
  have hheader := Mbap.decodeHeader_encode hprotocol hsome hshort
  have hsplit := List.take_append_drop 7 (Mbap.encode frame)
  have hlength : ((Mbap.encode frame).take 7).length = 7 := by
    rw [List.length_take, Mbap.length_encode]
    omega
  simp only [Limits.pdu] at hshort
  rw [Mbap.drop_encode] at hsplit
  rw [← hsplit]
  generalize (Mbap.encode frame).take 7 = start at hheader hlength
  cases start with
  | nil => contradiction
  | cons octet front =>
      have hfront : front.length = 6 := by simpa using hlength
      have hroom : ([octet] ++ front).length + frame.pdu.length ≤ bufferSize := by
        simp only [bufferSize, Limits.serialFrame, Limits.networkPrefix, List.length_append,
          List.length_singleton, hfront]
        omega
      refine takes_first fun limit => ?_
      refine (takes_more _ limit hfront (by show 1 + 6 ≤ bufferSize; decide)).bind fun _ => ?_
      change Mbap.decodeHeader ([octet] ++ front) = _ at hheader
      simp only [hheader]
      have hstart : (([octet] ++ front) ++ frame.pdu).drop (Limits.networkPrefix + 1) =
          frame.pdu :=
        List.drop_left' (by rw [List.length_append, hfront]; rfl)
      have hrest : Takes (fun _ => limit)
          (more ([octet] ++ front) limit frame.pdu.length >>= fun octets =>
            pure ⟨frame.header, octets.drop (Limits.networkPrefix + 1)⟩)
          (frame.pdu ++ []) frame := by
        refine (takes_more _ limit rfl hroom).bind fun _ => ?_
        rw [hstart]
        exact Takes.pure _
      rwa [List.append_nil] at hrest

/-- A shape that tells the length of a payload leads to its end. -/
theorem takes_shaped (unit code : UInt8) {shape : Shape} {payload : List UInt8} (limit : Nat)
    (hshape : shape.length payload = payload.length)
    (hroom : 2 + payload.length ≤ bufferSize) :
    Takes (fun _ => limit) (shaped [unit, code] limit shape) payload
      (unit :: code :: payload) := by
  cases shape with
  | fixed length =>
      simp only [Shape.length] at hshape
      exact takes_more _ limit hshape.symm (by rw [hshape]; exact hroom)
  | counted offset width =>
      simp only [Shape.length] at hshape
      have hfront : (payload.take (offset + width)).length = offset + width := by
        rw [List.length_take]
        omega
      have hannounced :
          ((([unit, code] ++ payload.take (offset + width)).drop (2 + offset)).take width) =
            (payload.drop offset).take width := by
        rw [Nat.add_comm 2 offset]
        show ((payload.take (offset + width)).drop offset).take width = _
        rw [List.drop_take, List.take_take]
        congr 1
        omega
      have hback : (payload.drop (offset + width)).length =
          Shape.count ((payload.drop offset).take width) := by
        rw [List.length_drop]
        omega
      have hroomy : ([unit, code] ++ payload.take (offset + width)).length +
          Shape.count ((payload.drop offset).take width) ≤ bufferSize := by
        rw [List.length_append, hfront]
        simp only [List.length_cons, List.length_nil]
        omega
      have hcounted : Takes (fun _ => limit) (shaped [unit, code] limit (.counted offset width))
          (payload.take (offset + width) ++ payload.drop (offset + width))
          (([unit, code] ++ payload.take (offset + width)) ++ payload.drop (offset + width)) := by
        refine (takes_more [unit, code] limit hfront
          (by simp only [List.length_cons, List.length_nil]; omega)).bind fun _ => ?_
        rw [hannounced]
        exact takes_more _ limit hback hroomy
      rw [List.append_assoc, List.take_append_drop] at hcounted
      exact hcounted

/-- Where the function code tells how many octets follow it, these are taken and those of
the checksum, if there is one. -/
theorem takes_octets_of_shape {direction : Direction} {checksum : Bool} {shape : Shape}
    (unit : UInt8) {code : UInt8} {payload trailing : List UInt8}
    (hknown : shape? direction code = some shape) (hshape : shape.length payload = payload.length)
    (htrailing : trailing.length = if checksum then 2 else 0)
    (hroom : 2 + payload.length + trailing.length ≤ bufferSize) :
    Takes (fun transport => transport.deadline direction) (headlessOctets direction checksum)
      (unit :: code :: (payload ++ trailing)) (unit :: code :: (payload ++ trailing)) := by
  have hpayload (limit : Nat) := takes_shaped unit code limit hshape (by omega)
  refine takes_first fun limit => ?_
  have hcode : [code].length = 1 := rfl
  refine (takes_more _ limit hcode (by show 1 + 1 ≤ bufferSize; decide)).bind fun _ => ?_
  change shape? direction (([unit] ++ [code]).getD 1 0) = _ at hknown
  simp only [hknown]
  refine (hpayload limit).bind fun _ => ?_
  cases checksum with
  | false =>
      obtain rfl := List.length_eq_zero_iff.mp htrailing
      rw [List.append_nil]
      exact Takes.pure _
  | true =>
      rw [if_pos rfl] at htrailing
      exact takes_more _ limit htrailing (by simp only [List.length_cons]; omega)

/-- A frame without a network header is read up to the end of its checksum. -/
theorem takes_headlessOctets {direction : Direction} {checksum : Bool} {frame : Frame}
    (hshort : frame.pdu.length ≤ Limits.pdu) (hshaped : frame.Shaped direction) :
    Takes (fun transport => transport.deadline direction) (headlessOctets direction checksum)
      (Headless.encode checksum frame) (Headless.encode checksum frame) := by
  obtain ⟨code, payload, shape, hpdu, hknown, hshape⟩ := hshaped
  -- Behind the payload there is the checksum, or nothing.
  obtain ⟨trailing, hsplit, htrailing⟩ : ∃ trailing,
      Headless.encode checksum frame =
        frame.header.unitId :: code :: (payload ++ trailing) ∧
      trailing.length = if checksum then 2 else 0 := by
    rw [Headless.encode, hpdu]
    cases checksum with
    | false => exact ⟨[], by simp, rfl⟩
    | true => exact ⟨Headless.trailer (frame.header.unitId :: code :: payload), rfl, rfl⟩
  have hroom : 2 + payload.length + trailing.length ≤ bufferSize := by
    rw [hpdu, List.length_cons] at hshort
    simp only [Limits.pdu] at hshort
    simp only [htrailing, bufferSize, Limits.serialFrame, Limits.networkPrefix]
    split <;> omega
  rw [hsplit]
  exact takes_octets_of_shape frame.header.unitId hknown hshape htrailing hroom

theorem takes_readHeadless {direction : Direction} {checksum : Bool} {frame : Frame}
    (hshort : frame.pdu.length ≤ Limits.pdu) (hshaped : frame.Shaped direction) :
    Takes (fun transport => transport.deadline direction) (readHeadless direction checksum)
      (Headless.encode checksum frame) ⟨⟨0, 0, frame.header.unitId⟩, frame.pdu⟩ := by
  have hdecode := Headless.decode_encode checksum hshaped.length_pos hshort
  rw [← List.append_nil (Headless.encode checksum frame)]
  refine (takes_headlessOctets hshort hshaped).bind fun _ => ?_
  simp only [hdecode]
  exact Takes.pure _

/-- What reading does before it notes the time. -/
def reading (framing : Framing) (direction : Direction) : Exchange Frame :=
  match framing with
  | .mbap => readMbap direction
  | .headless checksum => readHeadless direction checksum

theorem read_apply (direction : Direction) (transport : Transport) :
    read direction transport =
      ((reading transport.framing direction transport).1,
        (reading transport.framing direction transport).2.active) := by
  unfold read reading
  cases transport.framing <;> rfl

/-- Reading takes the octets of one frame. -/
theorem takes_reading {framing : Framing} {direction : Direction} {frame : Frame}
    (hframe : framing.Delimits direction frame) :
    Takes (fun transport => transport.deadline direction) (reading framing direction)
      (framing.encode frame) (framing.received frame) := by
  cases framing with
  | mbap =>
      obtain ⟨hprotocol, hsome, hshort⟩ := hframe
      exact takes_readMbap hprotocol hsome hshort
  | headless checksum =>
      obtain ⟨hshort, hshaped⟩ := hframe
      exact takes_readHeadless hshort hshaped

/-- A frame is read when the line brings it in time, and what follows it is left. -/
theorem read_eq {transport : Transport} {direction : Direction} {frame : Frame}
    {rest : List UInt8} (hframe : transport.framing.Delimits direction frame)
    (hawaiting : transport.awaiting = transport.framing.encode frame ++ rest)
    (hprompt : transport.line.Prompt (transport.framing.encode frame).length
      (some (transport.deadline direction))) :
    read direction transport =
      (.ok (transport.framing.received frame),
        (transport.past (transport.framing.encode frame).length).active) := by
  rw [read_apply, (takes_reading hframe).whole transport rest hawaiting hprompt]

/-- If the line ends inside a frame, the frame is not read. -/
theorem read_cutShort {transport : Transport} {direction : Direction} {frame : Frame}
    {missing : List UInt8} (hframe : transport.framing.Delimits direction frame)
    (hmissing : missing ≠ [])
    (hawaiting : transport.awaiting ++ missing = transport.framing.encode frame)
    (hprompt : transport.line.Prompt transport.awaiting.length
      (some (transport.deadline direction)))
    (hends : transport.line.EndsBy (some (transport.deadline direction))) :
    (read direction transport).1 = cutShort := by
  obtain ⟨after, herror⟩ :=
    (takes_reading hframe).part transport missing hmissing hawaiting hprompt hends
  rw [read_apply, herror]

/-- The transport when everything on its way has been read. -/
def emptied (transport : Transport) : Transport :=
  (transport.past transport.awaiting.length).active

theorem arriving_emptied (transport : Transport) : transport.emptied.line.arriving = [] := by
  simp [emptied, active, past, Line.past, awaiting]

/-- Of a line that brings a single frame nothing is left. -/
theorem read_eq_emptied {transport : Transport} {direction : Direction} {frame : Frame}
    (hframe : frame.Regular direction)
    (hawaiting : transport.awaiting = transport.framing.encode frame)
    (hprompt : transport.line.Prompt transport.awaiting.length
      (some (transport.deadline direction))) :
    read direction transport = (.ok (transport.framing.received frame), transport.emptied) := by
  rw [emptied, hawaiting]
  rw [hawaiting] at hprompt
  exact read_eq (hframe.delimited _) (by rw [hawaiting, List.append_nil]) hprompt

/-- If no first octet comes, there is no frame. -/
theorem read_request_error {transport after : Transport} {halt : Halt}
    (hnone : octets none 1 transport = (.error halt, after)) :
    read .request transport = (.error halt, after.active) := by
  have hfirst : first .request transport = (.error halt, after) := stateful_bind_error hnone
  rw [read_apply]
  cases transport.framing with
  | mbap =>
      have hread : readMbap .request transport = (.error halt, after) :=
        stateful_bind_error hfirst
      rw [reading, hread]
  | headless checksum =>
      have hoctets : headlessOctets .request checksum transport = (.error halt, after) :=
        stateful_bind_error hfirst
      have hread : readHeadless .request checksum transport = (.error halt, after) :=
        stateful_bind_error hoctets
      rw [reading, hread]

/-- On a line that brings nothing more a slave waits for ever. -/
theorem read_request_idle {transport : Transport} (hidle : transport.line.arriving = [])
    (hopen : transport.line.endsAt = none) :
    read .request transport = (.error .waiting, transport.active) := by
  refine read_request_error ?_
  have hnever : transport.line.exactly none 1 = (.error .never, transport.line) := by
    simp [Line.exactly, Line.next, Line.waitInVain, hidle, hopen]
  unfold octets
  rw [stateful_get_bind, hnever]
  rfl

/-- On a line that has brought everything a slave waits for its end. -/
theorem read_request_ended {transport : Transport} {time : Nat}
    (hidle : transport.line.arriving = []) (hends : transport.line.endsAt = some time) :
    read .request transport = (.error (.failed (.endOfStream .insideFrame)),
      ({ transport with
          line := { transport.line with now := max transport.line.now time } } :
        Transport).active) := by
  refine read_request_error ?_
  have hended : transport.line.exactly none 1 =
      (.error .ended, { transport.line with now := max transport.line.now time }) := by
    simp [Line.exactly, Line.next, Line.inTime, hidle, hends]
  unfold octets
  rw [stateful_get_bind, hended]
  rfl

/-! ## Writing -/

/-- When the next octets leave: as soon as there was silence for long enough. -/
def departure (transport : Transport) : Nat := transport.waitGap.line.now

/-- Waiting for silence moves the clock and nothing else. -/
theorem waitGap_eq (transport : Transport) :
    transport.waitGap =
      { transport with line := { transport.line with now := transport.departure } } := by
  unfold departure waitGap
  split <;> rfl

theorem now_le_departure (transport : Transport) :
    transport.line.now ≤ transport.departure := by
  unfold departure waitGap
  split
  next => exact Line.now_le_expiry _ _
  next => exact le_refl _

/-- The transport when octets have been sent. -/
def sending (octets : List UInt8) (transport : Transport) : Transport :=
  { transport with
    line := { transport.line with now := transport.departure }
    sent := transport.sent ++ [⟨transport.departure, octets⟩] }

theorem transmit_eq {transport : Transport} (frame : Frame) (hopen : transport.closed = false) :
    transmit frame transport =
      (.ok (transport.framing.encode frame),
        transport.sending (transport.framing.encode frame)) := by
  have hsend : send (transport.framing.encode frame) transport.waitGap =
      (.ok (), transport.sending (transport.framing.encode frame)) := by
    rw [waitGap_eq]
    unfold send
    rw [stateful_get_bind, if_neg (by simp [hopen])]
    rfl
  exact stateful_get_bind.trans (stateful_modify_bind.trans (stateful_bind_ok hsend))

theorem confirm_eq {transport : Transport} (sent : List UInt8)
    (hsilent : transport.timing.any Timing.echo = false) :
    confirm sent transport = (.ok (), transport.active) := by
  unfold confirm
  rw [stateful_get_bind, hsilent]
  rfl

theorem write_eq {transport : Transport} (frame : Frame) (hopen : transport.closed = false)
    (hsilent : transport.timing.any Timing.echo = false) :
    write frame transport =
      (.ok (), (transport.sending (transport.framing.encode frame)).active) := by
  exact (stateful_bind_ok (transmit_eq frame hopen)).trans (confirm_eq _ hsilent)

end Transport

end Modbus
