import Mathlib.Tactic
import Modbus.Proofs.FrameForms
import Modbus.Proofs.FrameStreams
import Modbus.Proofs.ServingRounds
import Modbus.Proofs.Silences
import Modbus.Proofs.StationReplies

/-!
# Serving a connection

A stream with network headers splits into frames in one way only: every header
tells how long its frame is, and where no frame begins, none is ever found again.
So what a slave sends back on a connection follows from the octets that it gets,
however they are cut into chunks: the answers to the frames in front, and
nothing for what comes behind them.
-/

namespace Modbus

/-! ## Frames in front of a stream -/

namespace Mbap

/-- Two streams that begin with a frame and are the same begin with the same frame. -/
theorem encode_append_inj {frame other : Frame} {rest more : List UInt8}
    (hframe : Framing.mbap.Delimits .request frame) (hother : Framing.mbap.Delimits .request other)
    (hsame : encode frame ++ rest = encode other ++ more) : frame = other ∧ rest = more := by
  obtain ⟨hprotocol, hsome, hshort⟩ := hframe
  obtain ⟨hprotocol', hsome', hshort'⟩ := hother
  have hheader := congrArg (fun octets => decodeHeader (octets.take 7)) hsame
  have htake (frame : Frame) (rest : List UInt8) :
      (encode frame ++ rest).take 7 = (encode frame).take 7 :=
    List.take_append_of_le_length (by rw [length_encode]; omega)
  simp only [htake, decodeHeader_encode hprotocol hsome hshort,
    decodeHeader_encode hprotocol' hsome' hshort'] at hheader
  obtain ⟨hheaders, hlengths⟩ := Prod.mk.inj (Except.ok.inj hheader)
  have hlength : (encode frame).length = (encode other).length := by
    rw [length_encode, length_encode, hlengths]
  obtain ⟨hencoded, hrest⟩ := List.append_inj hsame hlength
  have hpdu : frame.pdu = other.pdu := by
    rw [← drop_encode frame, ← drop_encode other, hencoded]
  obtain ⟨header, pdu⟩ := frame
  obtain ⟨header', pdu'⟩ := other
  simp only at hheaders hpdu
  rw [hheaders, hpdu]
  exact ⟨rfl, hrest⟩

/-- A stream consists of frames and of a rest in which no frame begins. -/
structure Splits (octets : List UInt8) (frames : List Frame) (rest : List UInt8) : Prop where
  whole : octets = frames.flatMap encode ++ rest
  framed : ∀ frame ∈ frames, Framing.mbap.Delimits .request frame
  ends : ∀ frame more, Framing.mbap.Delimits .request frame → rest ≠ encode frame ++ more

/-- Frames in front of a stream are those that it splits into, or the first of them. -/
theorem Splits.longest {octets rest more : List UInt8} {frames others : List Frame}
    (hsplits : Splits octets frames rest)
    (hothers : ∀ frame ∈ others, Framing.mbap.Delimits .request frame)
    (hwhole : octets = others.flatMap encode ++ more) : others <+: frames := by
  obtain ⟨rfl, hframes, hends⟩ := hsplits
  induction others generalizing frames with
  | nil => exact List.nil_prefix
  | cons other others ih =>
      obtain ⟨hother, hrest⟩ := List.forall_mem_cons.mp hothers
      rw [List.flatMap_cons, List.append_assoc] at hwhole
      cases frames with
      | nil => exact absurd hwhole (hends other _ hother)
      | cons frame frames =>
          obtain ⟨hframe, hlater⟩ := List.forall_mem_cons.mp hframes
          rw [List.flatMap_cons, List.append_assoc] at hwhole
          obtain ⟨rfl, hsame⟩ := encode_append_inj hframe hother hwhole
          exact (List.prefix_cons_inj frame).mpr (ih hrest hlater hsame)

/-- A stream splits in one way only. -/
theorem Splits.frames_unique {octets rest more : List UInt8} {frames others : List Frame}
    (hsplits : Splits octets frames rest) (hothers : Splits octets others more) :
    frames = others :=
  (hothers.longest hsplits.framed hsplits.whole).eq_of_length_le
    (hsplits.longest hothers.framed hothers.whole).length_le

/-- Every frame takes some octets. -/
theorem Splits.length_le {octets rest : List UInt8} {frames : List Frame}
    (hsplits : Splits octets frames rest) : frames.length ≤ octets.length := by
  obtain ⟨rfl, -, -⟩ := hsplits
  induction frames with
  | nil => exact Nat.zero_le _
  | cons frame frames ih =>
      rw [List.flatMap_cons, List.append_assoc, List.length_append, length_encode,
        List.length_cons]
      omega

/-- Where a header is refused, no frame begins. -/
theorem ends_of_refused {rest : List UInt8} {fault : ProtocolFault}
    (hrefused : decodeHeader (rest.take 7) = .error fault) (frame : Frame) (more : List UInt8)
    (hframe : Framing.mbap.Delimits .request frame) : rest ≠ encode frame ++ more := by
  rintro rfl
  obtain ⟨hprotocol, hsome, hshort⟩ := hframe
  rw [List.take_append_of_le_length (by rw [length_encode]; omega),
    decodeHeader_encode hprotocol hsome hshort] at hrefused
  contradiction

/-- Every stream splits. -/
theorem exists_splits (octets : List UInt8) : ∃ frames rest, Splits octets frames rest := by
  induction hlength : octets.length using Nat.strongRecOn generalizing octets with
  | _ length ih =>
    by_cases hframe : ∃ frame more, Framing.mbap.Delimits .request frame ∧
        octets = encode frame ++ more
    · -- A frame is not empty, so what is behind it is shorter.
      obtain ⟨frame, more, hframed, rfl⟩ := hframe
      have hless : more.length < length := by
        rw [← hlength, List.length_append, length_encode]
        omega
      obtain ⟨frames, rest, hwhole, hframes, hends⟩ := ih more.length hless more rfl
      refine ⟨frame :: frames, rest, ?_, List.forall_mem_cons.mpr ⟨hframed, hframes⟩, hends⟩
      rw [List.flatMap_cons, List.append_assoc, ← hwhole]
    · refine ⟨[], octets, rfl, fun frame hmem => by contradiction, ?_⟩
      intro frame more hframed hsame
      exact hframe ⟨frame, more, hframed, hsame⟩

end Mbap

/-! ## What was read came from the line -/

namespace Line

theorem arriving_of_next {deadline : Option Nat} {line after : Line} {octet : UInt8}
    (hnext : line.next deadline = (.octet octet, after)) :
    ∃ time, line.arriving = (time, octet) :: after.arriving := by
  have hvain : (line.waitInVain deadline).1 ≠ .octet octet := by
    unfold waitInVain
    cases deadline <;> simp
  unfold next at hnext
  split at hnext
  next time first rest harriving =>
    split at hnext
    next =>
      obtain ⟨hoctet, rfl⟩ := Prod.mk.inj hnext
      rw [harriving, Arrival.octet.inj hoctet]
      exact ⟨time, rfl⟩
    next => exact absurd (congrArg Prod.fst hnext) hvain
  next =>
    split at hnext
    next =>
      split at hnext
      next => simp at hnext
      next => exact absurd (congrArg Prod.fst hnext) hvain
    next => exact absurd (congrArg Prod.fst hnext) hvain

theorem arriving_of_exactly {deadline : Option Nat} {count : Nat} {line after : Line}
    {octets : List UInt8} (hexactly : line.exactly deadline count = (.ok octets, after)) :
    line.arriving.map Prod.snd = octets ++ after.arriving.map Prod.snd ∧
      octets.length = count := by
  induction count generalizing line octets with
  | zero =>
      obtain ⟨hoctets, rfl⟩ := Prod.mk.inj hexactly
      rw [← Except.ok.inj hoctets]
      exact ⟨rfl, rfl⟩
  | succ count ih =>
      unfold exactly at hexactly
      split at hexactly
      next octet between hnext =>
        obtain ⟨time, harriving⟩ := arriving_of_next hnext
        split at hexactly
        next others last hothers =>
          obtain ⟨hoctets, rfl⟩ := Prod.mk.inj hexactly
          obtain ⟨hrest, hcount⟩ := ih hothers
          rw [← Except.ok.inj hoctets, harriving, List.map_cons, hrest, List.length_cons, hcount]
          exact ⟨rfl, rfl⟩
        next => simp at hexactly
      next => simp at hexactly

end Line

namespace Transport

variable {transport after : Transport}

/-- Why a transport gives up when the octets it waits for do not come. -/
def halt (transport : Transport) : Arrival → Halt
  | .ended => .failed (.endOfStream .insideFrame)
  | .never => .waiting
  | _ => .failed (.timeout (.frame transport.peer transport.timeout))

theorem octets_apply (deadline : Option Nat) (count : Nat) (transport : Transport) :
    octets deadline count transport =
      ((transport.line.exactly deadline count).1.mapError transport.halt,
        { transport with line := (transport.line.exactly deadline count).2 }) := by
  unfold octets
  rw [stateful_get_bind]
  obtain ⟨outcome, line⟩ := transport.line.exactly deadline count
  cases outcome with
  | ok octets => rfl
  | error arrival => cases arrival <;> rfl

theorem awaiting_of_octets {deadline : Option Nat} {count : Nat} {taken : List UInt8}
    (hread : octets deadline count transport = (.ok taken, after)) :
    transport.awaiting = taken ++ after.awaiting ∧ taken.length = count := by
  rw [octets_apply] at hread
  obtain ⟨htaken, rfl⟩ := Prod.mk.inj hread
  obtain ⟨⟨outcome, line⟩, hline⟩ :
    ∃ result, transport.line.exactly deadline count = result := ⟨_, rfl⟩
  rw [hline] at htaken ⊢
  cases outcome with
  | ok octets =>
      rw [← Except.ok.inj htaken]
      exact Line.arriving_of_exactly hline
  | error arrival => contradiction

/-- The deadline for a frame when the first octet of it has been taken. -/
def due (direction : Direction) (before after : Transport) : Nat :=
  match direction with
  | .request => after.line.now + after.timeout
  | .response => before.line.now + before.timeout

/-- The first octet of a frame is waited for like any other, and then there is a deadline. -/
theorem octets_of_first {direction : Direction} {outcome : Except Halt (List UInt8 × Nat)}
    (hread : first direction transport = (outcome, after)) :
    ∃ limit front, octets limit 1 transport = (front, after) ∧
      outcome = front.map fun taken => (taken, due direction transport after) := by
  cases direction with
  | request =>
      rcases hoctet : octets none 1 transport with ⟨halt | taken, between⟩
      · obtain ⟨rfl, rfl⟩ := Prod.mk.inj ((stateful_bind_error hoctet).symm.trans hread)
        exact ⟨none, _, hoctet, rfl⟩
      · obtain ⟨rfl, rfl⟩ := Prod.mk.inj ((stateful_bind_ok hoctet).symm.trans hread)
        exact ⟨none, _, hoctet, rfl⟩
  | response =>
      let limit := some (transport.line.now + transport.timeout)
      replace hread := stateful_get_bind.symm.trans hread
      rcases hoctet : octets limit 1 transport with ⟨halt | taken, between⟩
      · obtain ⟨rfl, rfl⟩ := Prod.mk.inj ((stateful_bind_error hoctet).symm.trans hread)
        exact ⟨limit, _, hoctet, rfl⟩
      · obtain ⟨rfl, rfl⟩ := Prod.mk.inj ((stateful_bind_ok hoctet).symm.trans hread)
        exact ⟨limit, _, hoctet, rfl⟩

theorem awaiting_of_first {direction : Direction} {taken : List UInt8} {deadline : Nat}
    (hread : first direction transport = (.ok (taken, deadline), after)) :
    transport.awaiting = taken ++ after.awaiting ∧ taken.length = 1 := by
  obtain ⟨limit, front, hoctet, houtcome⟩ := octets_of_first hread
  cases front with
  | error halt => contradiction
  | ok octet =>
      obtain ⟨rfl, -⟩ := Prod.mk.inj (Except.ok.inj houtcome)
      exact awaiting_of_octets hoctet

theorem octets_of_more {frame taken : List UInt8} {deadline count : Nat}
    (hread : more frame deadline count transport = (.ok taken, after)) :
    ∃ rest, octets (some deadline) count transport = (.ok rest, after) ∧ taken = frame ++ rest := by
  unfold more at hread
  split at hread
  next =>
    obtain ⟨-, drained, -, hfailed⟩ := stateful_bind_eq_ok_iff.mp hread
    obtain ⟨found, between, -, hlast⟩ := stateful_bind_eq_ok_iff.mp hfailed
    obtain ⟨_, last, hfail, -⟩ := stateful_bind_eq_ok_iff.mp hlast
    have hnone := (Prod.mk.inj hfail).1
    contradiction
  next =>
    obtain ⟨rest, between, hrest, hdone⟩ := stateful_bind_eq_ok_iff.mp hread
    obtain ⟨htaken, rfl⟩ := Prod.mk.inj hdone
    exact ⟨rest, hrest, (Except.ok.inj htaken).symm⟩

theorem awaiting_of_more {frame taken : List UInt8} {deadline count : Nat}
    (hread : more frame deadline count transport = (.ok taken, after)) :
    ∃ rest, taken = frame ++ rest ∧ rest.length = count ∧
      transport.awaiting = rest ++ after.awaiting := by
  obtain ⟨rest, hrest, htaken⟩ := octets_of_more hread
  obtain ⟨hawaiting, hcount⟩ := awaiting_of_octets hrest
  exact ⟨rest, htaken, hcount, hawaiting⟩

/-- A frame that is read stood in front of the line. -/
theorem awaiting_of_readMbap {direction : Direction} {frame : Frame}
    (hread : readMbap direction transport = (.ok frame, after)) :
    Framing.mbap.Delimits .request frame ∧
      transport.awaiting = Mbap.encode frame ++ after.awaiting := by
  obtain ⟨⟨start, deadline⟩, between, hfirst, hrest⟩ := stateful_bind_eq_ok_iff.mp hread
  obtain ⟨octets, last, hmore, hdone⟩ := stateful_bind_eq_ok_iff.mp hrest
  obtain ⟨hstart, hone⟩ := awaiting_of_first hfirst
  obtain ⟨front, rfl, hsix, hfront⟩ := awaiting_of_more hmore
  have hseven : (start ++ front).length = 7 := by
    rw [List.length_append, hone, hsix]
    rfl
  cases hheader : Mbap.decodeHeader (start ++ front) with
  | error fault =>
      rw [hheader] at hdone
      obtain ⟨found, middle, -, hlast⟩ := stateful_bind_eq_ok_iff.mp hdone
      have hnone := (Prod.mk.inj hlast).1
      contradiction
  | ok announced =>
      obtain ⟨header, length⟩ := announced
      rw [hheader] at hdone
      obtain ⟨octets, middle, hbody, hlast⟩ := stateful_bind_eq_ok_iff.mp hdone
      obtain ⟨pdu, rfl, hpdu, hbehind⟩ := awaiting_of_more hbody
      obtain ⟨hframe, rfl⟩ := Prod.mk.inj hlast
      have hdrop : ((start ++ front) ++ pdu).drop (Limits.networkPrefix + 1) = pdu :=
        List.drop_left' hseven
      rw [hdrop] at hframe
      obtain ⟨hframed, hencode⟩ := Mbap.encode_of_decodeHeader hheader hseven hpdu
      obtain rfl := Except.ok.inj hframe
      rw [hencode, hstart, hfront, hbehind]
      exact ⟨hframed, by simp only [List.append_assoc]⟩

/-! ## Work that leaves everything but the line alone -/

/-- Work that takes what has arrived from the front of the line and does nothing else. -/
def Listens {α : Type} (work : Exchange α) : Prop :=
  ∀ transport, ∃ line, (work transport).2 = { transport with line := line } ∧
    transport.line.Later line

namespace Listens

variable {α β : Type} {work : Exchange α} {next : α → Exchange β}

theorem pure (value : α) : Listens (Pure.pure value) :=
  fun transport => ⟨transport.line, rfl, .refl _⟩

theorem fail (error : Error) : Listens (Transport.fail error : Exchange α) :=
  fun transport => ⟨transport.line, rfl, .refl _⟩

theorem get : Listens (MonadState.get : Exchange Transport) :=
  fun transport => ⟨transport.line, rfl, .refl _⟩

theorem bind (hwork : Listens work) (hnext : ∀ value, Listens (next value)) :
    Listens (work >>= next) := by
  intro transport
  obtain ⟨line, hline, hlater⟩ := hwork transport
  rcases hresult : work transport with ⟨halt | value, between⟩
  all_goals
    rw [hresult] at hline
    obtain rfl : between = { transport with line := line } := hline
  · rw [stateful_bind_error hresult]
    exact ⟨line, rfl, hlater⟩
  · rw [stateful_bind_ok hresult]
    obtain ⟨last, hlast, hmore⟩ := hnext value { transport with line := line }
    exact ⟨last, hlast, hlater.trans hmore⟩

theorem octets (deadline : Option Nat) (count : Nat) :
    Listens (Transport.octets deadline count) :=
  fun transport => ⟨_, by rw [octets_apply], .exactly deadline count transport.line⟩

theorem drain : Listens Transport.drain :=
  fun transport => ⟨_, rfl, .drain transport.quiet transport.line⟩

theorem more (frame : List UInt8) (deadline count : Nat) :
    Listens (Transport.more frame deadline count) := by
  unfold Transport.more
  split
  · exact drain.bind fun _ => get.bind fun _ => (fail _).bind fun _ =>
      (octets _ _).bind fun _ => pure _
  · exact (octets _ _).bind fun _ => pure _

theorem first (direction : Direction) : Listens (Transport.first direction) := by
  cases direction with
  | request => exact (octets _ _).bind fun _ => get.bind fun _ => pure _
  | response => exact get.bind fun _ => (octets _ _).bind fun _ => pure _

theorem readMbap (direction : Direction) : Listens (Transport.readMbap direction) := by
  refine (first direction).bind fun _ => (more _ _ _).bind fun front => ?_
  cases Mbap.decodeHeader front with
  | ok _ => exact (more _ _ _).bind fun _ => pure _
  | error _ => exact get.bind fun _ => fail _

end Listens

/-- A connection brings octets, and pieces of them in time. -/
structure Brings (transport : Transport) (octets : List UInt8) (pieces : List (List UInt8)) :
    Prop where
  framing : transport.framing = .mbap
  timing : transport.timing = none
  stillOpen : transport.closed = false
  awaiting : transport.awaiting = octets
  inTime : InTime .request pieces transport

namespace Brings

variable {transport : Transport} {octets rest : List UInt8} {pieces : List (List UInt8)}

theorem read_frame {frame : Frame}
    (hbrings : transport.Brings (Mbap.encode frame ++ rest) (Mbap.encode frame :: pieces))
    (hframe : Framing.mbap.Delimits .request frame) :
    ∃ between, read .request transport = (.ok frame, between) ∧
      between.sent = transport.sent ∧ between.Brings rest pieces := by
  obtain ⟨hframing, htiming, hopen, hawaiting, hprompt, hlater⟩ := hbrings
  have hread := read_eq (by rw [hframing]; exact hframe) (by rw [hframing]; exact hawaiting)
    (by rw [hframing]; exact hprompt)
  rw [hframing] at hread
  exact ⟨_, hread, rfl, hframing, htiming, hopen, awaiting_past_append hawaiting,
    hlater.congr (by rfl) (by rfl)⟩

/-- Where no frame begins none is read, and nothing is sent either. -/
theorem read_rest (hbrings : transport.Brings octets pieces)
    (hrest : ∀ frame more, Framing.mbap.Delimits .request frame →
      octets ≠ Mbap.encode frame ++ more) :
    ∃ halt after, read .request transport = (.error halt, after) ∧
      after.framing = .mbap ∧ after.sent = transport.sent := by
  obtain ⟨line, hlistens, -⟩ := Listens.readMbap .request transport
  rw [read_apply, hbrings.framing, reading, hlistens]
  cases hread : (readMbap .request transport).1 with
  | ok frame =>
      obtain ⟨hframed, hawaiting⟩ := awaiting_of_readMbap (Prod.ext hread rfl)
      exact absurd (hbrings.awaiting.symm.trans hawaiting) (hrest frame _ hframed)
  | error halt => exact ⟨halt, _, rfl, hbrings.framing, rfl⟩

/-- An answer that is sent changes nothing about what is still to come. -/
theorem answered (hbrings : transport.Brings octets pieces) (reply : List UInt8) :
    (transport.answered reply).Brings octets pieces := by
  obtain ⟨hframing, htiming, hopen, hawaiting, hintime⟩ := hbrings
  have hline := line_answered_untimed htiming reply
  refine ⟨hframing, htiming, hopen, ?_, hintime.congr hline.symm rfl⟩
  rw [Transport.awaiting, hline]
  exact hawaiting

end Brings

end Transport

/-! ## Serving -/

namespace Line

/-- Pieces of a stream come in time if all octets of a piece come less than `timeout` after
the first one. -/
def Timely (timeout : Nat) : List (List UInt8) → List (Nat × UInt8) → Prop
  | [], _ => True
  | piece :: pieces, arriving =>
    (∀ first ∈ arriving.head?, ∀ arrival ∈ arriving.take piece.length,
        arrival.1 < first.1 + timeout) ∧
      Timely timeout pieces (arriving.drop piece.length)

instance decidableTimely (timeout : Nat) :
    (pieces : List (List UInt8)) → (arriving : List (Nat × UInt8)) →
      Decidable (Timely timeout pieces arriving)
  | [], _ => .isTrue trivial
  | piece :: pieces, arriving =>
    have := decidableTimely timeout pieces (arriving.drop piece.length)
    inferInstanceAs (Decidable (_ ∧ Timely timeout pieces (arriving.drop piece.length)))

end Line

/-- A slave waits for the first octet of a frame as long as it takes. -/
theorem Transport.inTime_of_timely {transport : Transport} {pieces : List (List UInt8)}
    (htimely : Line.Timely transport.timeout pieces transport.line.arriving) :
    InTime .request pieces transport := by
  induction pieces generalizing transport with
  | nil => trivial
  | cons piece pieces ih =>
      obtain ⟨hpiece, hpieces⟩ := htimely
      refine ⟨?_, ih hpieces⟩
      intro arrival harrival limit hlimit
      obtain rfl := Option.mem_some_iff.mp hlimit
      obtain ⟨first, rest, harriving⟩ : ∃ first rest, transport.line.arriving = first :: rest :=
        List.exists_cons_of_ne_nil (by rintro hnil; simp [hnil] at harrival)
      have hbefore := hpiece first (by simp [harriving]) arrival harrival
      have hfirst : first.1 ≤ (transport.past 1).line.now := Line.first_le_past harriving 0
      show arrival.1 < (transport.past 1).line.now + transport.timeout
      omega

namespace Slave

/-- On a connection nothing that goes wrong is survived. -/
theorem survives_connection (error : Error) : LineUse.connection.survives false error = false := by
  cases error <;> rfl

/-- Every frame in front of a stream is answered, one after another; then the connection
is given up or rests. -/
theorem serveWithin_frames {rounds : Nat} {transport : Transport} {station : Station}
    {frames : List Frame} {octets rest : List UInt8}
    (hbrings : transport.Brings octets (frames.map Mbap.encode))
    (hsplits : Mbap.Splits octets frames rest) (hrounds : frames.length < rounds) :
    (serveWithin .connection rounds transport station).1.sent.map Transmission.octets =
        transport.sent.map Transmission.octets ++
          (station.handleAll true frames).1.map Mbap.encode ∧
      (serveWithin .connection rounds transport station).2 =
        (station.handleAll true frames).2 := by
  induction frames generalizing rounds transport station octets with
  | nil =>
      obtain ⟨rounds, rfl⟩ := Nat.exists_eq_add_one_of_ne_zero (Nat.ne_zero_of_lt hrounds)
      obtain rfl : octets = rest := hsplits.whole
      obtain ⟨halt, between, hread, hheaders, hsent⟩ := hbrings.read_rest hsplits.ends
      have hgivesUp (error : Error) (_ : halt = .failed error) :
          LineUse.connection.survives between.framing.isHeadless error = false := by
        rw [hheaders]
        exact survives_connection error
      obtain ⟨last, hlast, hserved⟩ := serveWithin_ended hread hgivesUp
      rw [hserved]
      simp only [hlast, hsent, Station.handleAll, List.map_nil, List.append_nil, and_self]
  | cons frame frames ih =>
      obtain ⟨rounds, rfl⟩ := Nat.exists_eq_add_one_of_ne_zero (Nat.ne_zero_of_lt hrounds)
      obtain ⟨rfl, hframed, hends⟩ := hsplits
      obtain ⟨hfirst, hothers⟩ := List.forall_mem_cons.mp hframed
      rw [List.flatMap_cons, List.append_assoc] at hbrings
      obtain ⟨between, hread, hsame, hbetween⟩ := hbrings.read_frame hfirst
      obtain ⟨reply, after, hhandle⟩ : ∃ reply after,
          station.handle LineUse.connection.own frame = (some reply, after) :=
        station.handle_own frame
      have hall : station.handleAll true (frame :: frames) =
          (reply :: (after.handleAll true frames).1, (after.handleAll true frames).2) :=
        Station.handleAll_answered hhandle frames
      have hsilent : between.timing.any Timing.echo = false := by rw [hbetween.timing]; rfl
      obtain ⟨hsent, hstation⟩ := ih (hbetween.answered (Mbap.encode reply))
        ⟨rfl, hothers, hends⟩ (Nat.lt_of_succ_lt_succ hrounds)
      rw [Transport.octets_answered, hsame] at hsent
      rw [serveWithin_answered hread hhandle hbetween.stillOpen hsilent, hbetween.framing, hall]
      refine ⟨hsent.trans ?_, hstation⟩
      rw [List.append_assoc, List.singleton_append, List.map_cons]

/-- What a slave sends on a connection follows from the octets that it gets there, whatever
the chunks are in which they arrive: the answers to the frames in front, in order.  Behind
the frames nothing is answered and nothing changes any more, and every answer is counted. -/
theorem serve_connection (octets : List UInt8) :
    ∃ frames rest, Mbap.Splits octets frames rest ∧
      (∀ others more, (∀ frame ∈ others, Framing.mbap.Delimits .request frame) →
        octets = others.flatMap Mbap.encode ++ more → others <+: frames) ∧
      ∀ (station : Station) (line : Line) (peer : String) (timeout since : Nat)
        (chunks : List (Nat × List UInt8)),
        line.arriving = Line.arrivals since chunks → chunks.flatMap Prod.snd = octets →
        Line.Timely timeout (frames.map Mbap.encode) line.arriving →
        let served := serve .connection (.opened line .mbap peer none timeout) station
        let answered := station.handleAll true frames
        served.1.sent.flatMap Transmission.octets = answered.1.flatMap Mbap.encode ∧
          served.2 = answered.2 ∧
          answered.1.length = frames.length ∧
          served.2.stats = { station.stats with
            requests := station.stats.requests + answered.1.length
            exceptions := station.stats.exceptions + answered.1.countP Station.refuses } := by
  obtain ⟨frames, rest, hsplits⟩ := Mbap.exists_splits octets
  refine ⟨frames, rest, hsplits, fun others more => hsplits.longest, ?_⟩
  intro station line peer timeout since chunks hchunks hoctets htimely served answered
  have hawaiting : (Transport.opened line .mbap peer none timeout).awaiting = octets := by
    rw [← hoctets, ← Line.octets_arrivals since, ← hchunks]
    rfl
  have hrounds : frames.length < line.arriving.length + 1 := by
    have hcount : line.arriving.length = octets.length := by
      rw [← hawaiting, ← Transport.length_arriving]
      rfl
    have hframes := hsplits.length_le
    omega
  have hbrings : (Transport.opened line .mbap peer none timeout).Brings octets
      (frames.map Mbap.encode) :=
    ⟨rfl, rfl, rfl, hawaiting, Transport.inTime_of_timely htimely⟩
  obtain ⟨hsent, hstation⟩ := serveWithin_frames hbrings hsplits hrounds
  have hstats := station.stats_handleAll true frames
  refine ⟨?_, hstation, station.length_handleAll_own frames, ?_⟩
  · have hflat := congrArg List.flatten hsent
    rwa [← List.flatMap_def] at hflat
  · rw [← hstats]
    exact congrArg Station.stats hstation

/-- Two frames in three chunks, then one for another protocol: it is not answered, and
neither is what follows it. -/
theorem serve_connection_bad_header :
    let image := Image.cleared 1 4
    let reads : Frame := ⟨⟨1, 0, 1⟩, [3, 0, 1, 0, 2]⟩
    let unknown : Frame := ⟨⟨2, 0, 1⟩, [43, 14]⟩
    let rest := [0, 3, 0, 9, 0, 3, 1, 43, 14] ++ Mbap.encode reads
    let octets := [reads, unknown].flatMap Mbap.encode ++ rest
    let line := Line.ofChunks 1
      [(5, octets.take 4), (900, (octets.drop 4).take 11), (7, octets.drop 15)] true
    let served :=
      serve .connection (.opened line .mbap "master" none 1000) (.serving (.ofImages [image]))
    served.1.sent.flatMap Transmission.octets =
        [0, 1, 0, 0, 0, 7, 1, 3, 4, 0, 0, 0, 0] ++ [0, 2, 0, 0, 0, 3, 1, 171, 1] ∧
      served.2.stats = ⟨0, 2, 1⟩ := by
  intro image reads unknown rest octets line
  have hframed : ∀ frame ∈ [reads, unknown], Framing.mbap.Delimits .request frame := by
    intro frame hframe
    rcases List.mem_pair.mp hframe with rfl | rfl <;> exact ⟨rfl, by decide, by decide⟩
  have hmine : Mbap.Splits octets [reads, unknown] rest := by
    have hrefused : Mbap.decodeHeader (rest.take 7) = .error (.protocolId 9) := by decide
    exact ⟨rfl, hframed, Mbap.ends_of_refused hrefused⟩
  obtain ⟨frames, _, hsplits, -, hserve⟩ := serve_connection octets
  obtain rfl := hsplits.frames_unique hmine
  obtain ⟨hsent, -, -, hstats⟩ := hserve (.serving (.ofImages [image])) line "master" 1000 0 _ rfl
    (by decide) (by decide)
  refine ⟨hsent.trans ?_, hstats.trans ?_⟩ <;> decide +kernel

end Slave

end Modbus
