import Mathlib.Tactic
import Modbus.Proofs.Shapes

/-!
# Streams of frames

Frames that follow each other on a line are read one after another.  However
their octets are cut into chunks, every read takes the octets of its own frame
and leaves the next frame as it is.  If the line ends inside a frame, the frames
before it are read all the same.
-/

namespace Modbus

/-! ## Frames that a framing carries -/

/-- A frame that a reader finds the end of: any payload of a possible size behind a
network header; without one, the octets of a valid request or those of an answer. -/
def Framing.Carries (framing : Framing) (direction : Direction) (frame : Frame) : Prop :=
  match framing, direction with
  | mbap, _ =>
    frame.header.protocolId = 0 ∧ 1 ≤ frame.pdu.length ∧ frame.pdu.length ≤ Limits.pdu
  | headless _, .request =>
    ∃ request : Request, request.validate = .ok () ∧ request.function?.isSome ∧
      frame.pdu = request.encode
  | headless _, .response =>
    frame.pdu.length ≤ Limits.pdu ∧ ∃ response, Response.decode frame.pdu = .ok response

theorem Framing.Carries.delimits {framing : Framing} {direction : Direction} {frame : Frame}
    (hframe : framing.Carries direction frame) : framing.Delimits direction frame := by
  obtain ⟨header, pdu⟩ := frame
  cases framing with
  | mbap => exact hframe
  | headless checksum =>
      cases direction with
      | request =>
          obtain ⟨request, hvalidate, hfunction, rfl⟩ := hframe
          have hvalid := (Request.validate_eq_ok_iff request ()).mp hvalidate
          exact ⟨Request.length_encode_le hvalid hfunction,
            Request.shaped_requestFrame header hvalid hfunction⟩
      | response =>
          obtain ⟨hshort, response, hdecode⟩ := hframe
          obtain ⟨-, hreadable, rfl⟩ := (Response.decode_eq_ok_iff pdu response).mp hdecode
          exact ⟨hshort, Response.shaped_responseFrame header hreadable.1⟩

/-- Chunks bring their octets in order. -/
theorem Line.octets_arrivals (since : Nat) (chunks : List (Nat × List UInt8)) :
    (Line.arrivals since chunks).map Prod.snd = chunks.flatMap Prod.snd := by
  induction chunks generalizing since with
  | nil => rfl
  | cons chunk chunks ih =>
      obtain ⟨delay, octets⟩ := chunk
      simp only [Line.arrivals, List.map_append, List.map_map, List.flatMap_cons, ih]
      congr 1
      exact List.map_id octets

namespace Transport

variable {direction : Direction}

/-! ## Reading one frame after another -/

/-- Reads a number of frames, whatever comes of it. -/
def readFrames (direction : Direction) : Nat → Transport → List (Except Halt Frame) × Transport
  | 0, transport => ([], transport)
  | count + 1, transport =>
    let (result, transport) := read direction transport
    let (results, transport) := readFrames direction count transport
    (result :: results, transport)

/-- The pieces of a stream come in time if one read after another takes them: the octets
of each piece come before the deadline of its read. -/
def InTime (direction : Direction) : List (List UInt8) → Transport → Prop
  | [], _ => True
  | piece :: pieces, transport =>
    transport.line.Prompt piece.length (some (transport.deadline direction)) ∧
      InTime direction pieces (transport.past piece.length)

instance decidableInTime :
    (pieces : List (List UInt8)) → (transport : Transport) →
      Decidable (InTime direction pieces transport)
  | [], _ => .isTrue trivial
  | piece :: pieces, transport =>
    have := decidableInTime pieces (transport.past piece.length)
    inferInstanceAs (Decidable (_ ∧ InTime direction pieces (transport.past piece.length)))

/-- The transport when some frames have been read. -/
def afterFrames (frames : List Frame) (transport : Transport) : Transport :=
  frames.foldl (fun transport frame =>
    (transport.past (transport.framing.encode frame).length).active) transport

theorem InTime.congr {pieces : List (List UInt8)} {transport other : Transport}
    (hline : transport.line = other.line) (htimeout : transport.timeout = other.timeout)
    (hintime : InTime direction pieces transport) : InTime direction pieces other := by
  induction pieces generalizing transport other with
  | nil => trivial
  | cons piece pieces ih =>
      obtain ⟨hfirst, hrest⟩ := hintime
      have hdeadline : transport.deadline direction = other.deadline direction := by
        cases direction <;> simp only [deadline, past, hline, htimeout]
      have hpast : (transport.past piece.length).line = (other.past piece.length).line := by
        simp only [past, hline]
      exact ⟨by rwa [← hline, ← hdeadline], ih hpast htimeout hrest⟩

theorem inTime_append {front back : List (List UInt8)} {transport : Transport} :
    InTime direction (front ++ back) transport ↔
      InTime direction front transport ∧
        InTime direction back (transport.past front.flatten.length) := by
  induction front generalizing transport with
  | nil => simp [InTime]
  | cons piece pieces ih =>
      simp only [List.cons_append, InTime, ih, List.flatten_cons, List.length_append, past_past,
        and_assoc]

theorem afterFrames_cons (frame : Frame) (frames : List Frame) (transport : Transport) :
    transport.afterFrames (frame :: frames) =
      (transport.past (transport.framing.encode frame).length).active.afterFrames frames := rfl

/-- Reading frames moves the line past their octets and notes the time. -/
theorem line_afterFrames (frames : List Frame) (transport : Transport) :
    (transport.afterFrames frames).line =
      (transport.past (frames.flatMap transport.framing.encode).length).line := by
  induction frames generalizing transport with
  | nil => rfl
  | cons frame frames ih =>
      rw [afterFrames_cons, ih, List.flatMap_cons, List.length_append, ← past_past]
      rfl

theorem framing_afterFrames (frames : List Frame) (transport : Transport) :
    (transport.afterFrames frames).framing = transport.framing := by
  induction frames generalizing transport with
  | nil => rfl
  | cons frame frames ih => rw [afterFrames_cons, ih]; rfl

theorem timeout_afterFrames (frames : List Frame) (transport : Transport) :
    (transport.afterFrames frames).timeout = transport.timeout := by
  induction frames generalizing transport with
  | nil => rfl
  | cons frame frames ih => rw [afterFrames_cons, ih]; rfl

theorem awaiting_afterFrames {frames : List Frame} {transport : Transport} {rest : List UInt8}
    (hawaiting : transport.awaiting = frames.flatMap transport.framing.encode ++ rest) :
    (transport.afterFrames frames).awaiting = rest := by
  rw [awaiting, line_afterFrames]
  exact awaiting_past_append hawaiting

/-- Frames that come in time are read, and reading goes on behind them. -/
theorem readFrames_append (transport : Transport) {frames : List Frame} {rest : List UInt8}
    (more : Nat) (hframes : ∀ frame ∈ frames, transport.framing.Delimits direction frame)
    (hawaiting : transport.awaiting = frames.flatMap transport.framing.encode ++ rest)
    (hintime : InTime direction (frames.map transport.framing.encode) transport) :
    readFrames direction (frames.length + more) transport =
      (frames.map (fun frame => .ok (transport.framing.received frame)) ++
          (readFrames direction more (transport.afterFrames frames)).1,
        (readFrames direction more (transport.afterFrames frames)).2) := by
  induction frames generalizing transport with
  | nil => rw [List.length_nil, Nat.zero_add]; rfl
  | cons frame frames ih =>
      obtain ⟨hfirst, hothers⟩ := List.forall_mem_cons.mp hframes
      obtain ⟨hprompt, hrest⟩ := hintime
      rw [List.flatMap_cons, List.append_assoc] at hawaiting
      have hread := read_eq hfirst hawaiting hprompt
      have hlater : InTime direction (frames.map transport.framing.encode)
          (transport.past (transport.framing.encode frame).length).active :=
        hrest.congr (by rfl) (by rfl)
      have hnext := ih (transport.past (transport.framing.encode frame).length).active hothers
        (awaiting_past_append hawaiting) hlater
      rw [List.length_cons, Nat.add_right_comm, readFrames, hread]
      simp only [hnext]
      rfl

/-- Of frames that come in time any number can be read; the others are left. -/
theorem readFrames_take {transport : Transport} {frames : List Frame} {rest : List UInt8}
    {count : Nat} (hcount : count ≤ frames.length)
    (hframes : ∀ frame ∈ frames, transport.framing.Delimits direction frame)
    (hawaiting : transport.awaiting = frames.flatMap transport.framing.encode ++ rest)
    (hintime : InTime direction (frames.map transport.framing.encode) transport) :
    (readFrames direction count transport).1 =
        (frames.take count).map (fun frame => .ok (transport.framing.received frame)) ∧
      (readFrames direction count transport).2.awaiting =
        (frames.drop count).flatMap transport.framing.encode ++ rest := by
  -- The frames that are not read yet are nothing but octets that follow.
  have hsplit : transport.awaiting =
      (frames.take count).flatMap transport.framing.encode ++
        ((frames.drop count).flatMap transport.framing.encode ++ rest) := by
    rw [hawaiting, ← List.append_assoc, ← List.flatMap_append, List.take_append_drop]
  have hpieces : frames.map transport.framing.encode =
      (frames.take count).map transport.framing.encode ++
        (frames.drop count).map transport.framing.encode := by
    rw [← List.map_append, List.take_append_drop]
  rw [hpieces, inTime_append] at hintime
  have hread := readFrames_append transport 0
    (fun frame hframe => hframes frame (List.mem_of_mem_take hframe)) hsplit hintime.1
  rw [List.length_take, Nat.min_eq_left hcount, Nat.add_zero] at hread
  rw [hread]
  exact ⟨List.append_nil _, awaiting_afterFrames hsplit⟩

/-- If the line ends inside the frame that comes next, the read of that frame is cut short. -/
theorem readFrames_cutShort {transport : Transport} {frames : List Frame} {frame : Frame}
    {cut missing : List UInt8}
    (hframes : ∀ frame ∈ frames, transport.framing.Delimits direction frame)
    (hawaiting : transport.awaiting = frames.flatMap transport.framing.encode ++ cut)
    (hintime : InTime direction (frames.map transport.framing.encode ++ [cut]) transport)
    (hframe : transport.framing.Delimits direction frame) (hmissing : missing ≠ [])
    (hcut : cut ++ missing = transport.framing.encode frame)
    (hends : transport.line.EndsBy (some ((transport.past
      (frames.flatMap transport.framing.encode).length).deadline direction))) :
    (readFrames direction (frames.length + 1) transport).1 =
      frames.map (fun frame => .ok (transport.framing.received frame)) ++ [cutShort] := by
  rw [inTime_append, ← List.flatMap_def] at hintime
  have hread := readFrames_append transport 1 hframes hawaiting hintime.1
  have hframing := framing_afterFrames frames transport
  have hleft := awaiting_afterFrames hawaiting
  have hline := line_afterFrames frames transport
  have hlast : InTime direction [cut] (transport.afterFrames frames) :=
    hintime.2.congr hline.symm (timeout_afterFrames frames transport).symm
  have hdeadline : (transport.afterFrames frames).deadline direction =
      (transport.past (frames.flatMap transport.framing.encode).length).deadline direction := by
    cases direction <;> simp only [deadline, past, hline, timeout_afterFrames]
  have hshort : (read direction (transport.afterFrames frames)).1 = cutShort := by
    refine read_cutShort (by rw [hframing]; exact hframe) hmissing
      (by rw [hleft, hframing, hcut]) ?_ ?_
    · rw [hleft]
      exact hlast.1
    · rw [hdeadline, hline]
      exact hends
  have hone : (readFrames direction 1 (transport.afterFrames frames)).1 =
      [(read direction (transport.afterFrames frames)).1] := rfl
  rw [hread, hone, hshort]

/-- Frames back to back, cut into any chunks that come in time, are read in order, and
each read takes the octets of its own frame.  Where the line ends inside a frame, the
frames before it are read, and the next read reports the end. -/
theorem readFrames_carried {transport : Transport} {frames : List Frame} {cut : List UInt8}
    {since : Nat} {chunks : List (Nat × List UInt8)}
    (hchunks : transport.line.arriving = Line.arrivals since chunks)
    (hoctets : chunks.flatMap Prod.snd = frames.flatMap transport.framing.encode ++ cut)
    (hframes : ∀ frame ∈ frames, transport.framing.Carries direction frame)
    (hintime : InTime direction (frames.map transport.framing.encode) transport) :
    (∀ count ≤ frames.length,
      (readFrames direction count transport).1 =
          (frames.take count).map (fun frame => .ok (transport.framing.received frame)) ∧
        (readFrames direction count transport).2.awaiting =
          (frames.drop count).flatMap transport.framing.encode ++ cut) ∧
    ∀ frame missing, transport.framing.Carries direction frame → missing ≠ [] →
      cut ++ missing = transport.framing.encode frame →
      InTime direction (frames.map transport.framing.encode ++ [cut]) transport →
      transport.line.EndsBy (some ((transport.past
        (frames.flatMap transport.framing.encode).length).deadline direction)) →
      (readFrames direction (frames.length + 1) transport).1 =
        frames.map (fun frame => .ok (transport.framing.received frame)) ++
          [.error (.failed (.endOfStream .insideFrame))] := by
  have hawaiting : transport.awaiting = frames.flatMap transport.framing.encode ++ cut := by
    rw [awaiting, hchunks, Line.octets_arrivals, hoctets]
  have hdelimited : ∀ frame ∈ frames, transport.framing.Delimits direction frame :=
    fun frame hframe => (hframes frame hframe).delimits
  refine ⟨fun count hcount => readFrames_take hcount hdelimited hawaiting hintime, ?_⟩
  intro frame missing hframe hmissing hcut hpieces hends
  exact readFrames_cutShort hdelimited hawaiting hpieces hframe.delimits hmissing hcut hends

/-- Two requests arrive in three chunks, and the line ends inside a third request. -/
theorem readFrames_two_requests :
    let first : Frame := ⟨⟨0, 0, 1⟩, (Request.readCoils 0 8).encode⟩
    let second : Frame := ⟨⟨7, 0, 2⟩, (Request.writeSingleRegister 3 500).encode⟩
    let octets := [first, second, first].flatMap (Headless.encode true)
    let chunks := [(5, octets.take 3), (4, (octets.drop 3).take 10), (2, (octets.drop 13).take 6)]
    let transport := opened (.ofChunks 1 chunks true) (.headless true) "peer" none 1000
    (readFrames .request 3 transport).1 =
        [.ok first, .ok ⟨⟨0, 0, 2⟩, (Request.writeSingleRegister 3 500).encode⟩,
          .error (.failed (.endOfStream .insideFrame))] ∧
      (readFrames .request 1 transport).2.awaiting =
        Headless.encode true second ++ (Headless.encode true first).take 3 := by
  intro first second octets chunks transport
  have hframes : ∀ frame ∈ [first, second], transport.framing.Carries .request frame := by
    intro frame hframe
    rcases List.mem_pair.mp hframe with rfl | rfl
    · exact ⟨.readCoils 0 8, by decide, by decide, rfl⟩
    · exact ⟨.writeSingleRegister 3 500, by decide, by decide, rfl⟩
  have hchunks : transport.line.arriving = Line.arrivals 0 chunks := rfl
  have hoctets : chunks.flatMap Prod.snd =
      [first, second].flatMap transport.framing.encode ++ (Headless.encode true first).take 3 := by
    decide +kernel
  have hread := readFrames_carried hchunks hoctets hframes (by decide +kernel)
  refine ⟨?_, (hread.1 1 (by decide)).2⟩
  exact hread.2 first ((Headless.encode true first).drop 3)
    (hframes first List.mem_cons_self) (by decide +kernel) (List.take_append_drop 3 _)
    (by decide +kernel) (by decide +kernel)

end Transport

end Modbus
