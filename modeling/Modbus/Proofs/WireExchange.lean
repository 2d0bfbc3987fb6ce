import Mathlib.Tactic
import Modbus.Connection.Wire
import Modbus.Proofs.Shapes

/-!
# One exchange over a wire

If every octet comes in time, an exchange brings the request to the station and
its answer back to the master, and leaves the wire as idle as it was.
-/

namespace Modbus

/-! ## A station that reads one request -/

theorem Framing.encode_ne_nil (framing : Framing) (frame : Frame) :
    framing.encode frame ≠ [] := by
  cases framing with
  | mbap => simp [Framing.encode, Mbap.encode]
  | headless checksum => cases checksum <;> simp [Framing.encode, Headless.encode]

theorem Framing.length_encode_le (framing : Framing) {frame : Frame}
    (hshort : frame.pdu.length ≤ Limits.pdu) :
    (framing.encode frame).length ≤ Limits.networkFrame := by
  simp only [Limits.pdu, Limits.networkFrame] at hshort ⊢
  cases framing with
  | mbap =>
      rw [Framing.encode, Mbap.length_encode]
      omega
  | headless checksum =>
      rw [Framing.encode, Headless.length_encode]
      split <;> omega

/-- A slave answers the request that arrives, and then waits for the next one. -/
theorem Slave.serve_eq {lineUse : LineUse} {far : Transport} {station after : Station}
    {frame reply : Frame} (hframe : frame.Regular .request)
    (hawaiting : far.awaiting = far.framing.encode frame)
    (hprompt : far.line.Prompt far.awaiting.length (some (far.deadline .request)))
    (hopen : far.closed = false)
    (hendless : far.line.endsAt = none) (hsilent : far.timing.any Timing.echo = false)
    (hhandle : station.handle lineUse.own (far.framing.received frame) = (some reply, after)) :
    serve lineUse far station =
      ((far.emptied.sending (far.framing.encode reply)).active, after) := by
  have hread : (Transport.read .request).run far =
      (.ok (far.framing.received frame), far.emptied) :=
    Transport.read_eq_emptied hframe hawaiting hprompt
  have hwrite : (Transport.write reply).run far.emptied =
      (.ok (), (far.emptied.sending (far.framing.encode reply)).active) :=
    Transport.write_eq reply hopen hsilent
  -- The second round finds the line empty, and that is where serving ends.
  have hidle : (Transport.read .request).run
      (far.emptied.sending (far.framing.encode reply)).active =
        (.error .waiting, (far.emptied.sending (far.framing.encode reply)).active) :=
    Transport.read_request_idle (Transport.arriving_emptied far) hendless
  have hsome : far.awaiting ≠ [] := by
    rw [hawaiting]
    exact Framing.encode_ne_nil far.framing frame
  unfold serve
  cases harriving : far.line.arriving with
  | nil => simp [Transport.awaiting, harriving] at hsome
  | cons first rest =>
      rw [List.length_cons]
      simp only [serveWithin, hread, hhandle, hwrite, hidle]

namespace Wire

/-! ## Octets on their way -/

theorem octets_arrivals (departure : Nat) (delay : Nat → Nat) (octets : List UInt8) :
    (arrivals departure delay octets).map Prod.snd = octets := by
  apply List.ext_getElem
  · simp [arrivals]
  · intro place hplace hplace'
    simp [arrivals]

theorem exists_place {departure : Nat} {delay : Nat → Nat} {octets : List UInt8}
    {arrival : Nat × UInt8} (harrival : arrival ∈ arrivals departure delay octets) :
    ∃ place, place < octets.length ∧ arrival.1 = departure + delay place := by
  obtain ⟨place, hplace, rfl⟩ := List.mem_mapIdx.mp harrival
  exact ⟨place, hplace, rfl⟩

theorem arrivals_cons (departure : Nat) (delay : Nat → Nat) (octet : UInt8)
    (octets : List UInt8) :
    ∃ rest, arrivals departure delay (octet :: octets) =
      (departure + delay 0, octet) :: rest :=
  ⟨_, List.mapIdx_cons⟩

end Wire

namespace Wire

/-! ## A wire between two exchanges -/

/-- An end of a wire on which nothing is on its way. -/
structure Resting (wire : Wire) (timeout : Nat) (transport : Transport) : Prop where
  framing : transport.framing = wire.framing
  timing : transport.timing = wire.timing
  resolution : transport.line.resolution = wire.resolution
  timeout : transport.timeout = timeout
  arriving : transport.line.arriving = []
  endless : transport.line.endsAt = none
  usable : transport.closed = false

/-- If a wire is open, both ends rest, and the master's clock is not behind. -/
def Idle (wire : Wire) (state : State) : Prop :=
  ∀ near far, state.ends = some (near, far) →
    wire.Resting wire.answerTimeout near ∧ wire.Resting wire.requestTimeout far ∧
      far.line.now ≤ near.line.now

theorem resting_opened (wire : Wire) (peer : String) (timeout : Nat) :
    wire.Resting timeout (wire.opened peer timeout) :=
  ⟨rfl, rfl, rfl, rfl, rfl, rfl, rfl⟩

namespace Resting

variable {wire : Wire} {timeout : Nat} {transport : Transport}

theorem active (hresting : wire.Resting timeout transport) :
    wire.Resting timeout transport.active :=
  ⟨hresting.framing, hresting.timing, hresting.resolution, hresting.timeout, hresting.arriving,
    hresting.endless, hresting.usable⟩

theorem sending (hresting : wire.Resting timeout transport) (octets : List UInt8) :
    wire.Resting timeout (transport.sending octets) :=
  ⟨hresting.framing, hresting.timing, hresting.resolution, hresting.timeout, hresting.arriving,
    hresting.endless, hresting.usable⟩

/-- When everything that was brought has been read, the end rests again. -/
theorem emptied_bring (hresting : wire.Resting timeout transport)
    (arriving : List (Nat × UInt8)) :
    wire.Resting timeout (bring transport arriving).emptied :=
  ⟨hresting.framing, hresting.timing, hresting.resolution, hresting.timeout,
    Transport.arriving_emptied _, hresting.endless, hresting.usable⟩

theorem arriving_bring (hresting : wire.Resting timeout transport)
    (arriving : List (Nat × UInt8)) : (bring transport arriving).line.arriving = arriving := by
  simp [bring, hresting.arriving]

/-- Nobody has taken the first octet before it arrived. -/
theorem first_le_past (hresting : wire.Resting timeout transport) {octets : List UInt8}
    (hsome : octets ≠ []) (departure : Nat) (delay : Nat → Nat) (count : Nat) :
    departure + delay 0 ≤
      ((bring transport (arrivals departure delay octets)).past (count + 1)).line.now := by
  obtain ⟨octet, others, rfl⟩ := List.exists_cons_of_ne_nil hsome
  obtain ⟨rest, hrest⟩ := arrivals_cons departure delay octet others
  exact Line.first_le_past ((hresting.arriving_bring _).trans hrest) count

/-- Right after a frame the silence that is kept is no longer than the turnaround. -/
theorem departure_le (hresting : wire.Resting timeout transport) :
    transport.active.departure ≤ transport.line.now + wire.turnaround := by
  unfold Transport.departure Transport.waitGap turnaround
  have htiming : transport.active.timing = wire.timing := hresting.timing
  rw [htiming]
  cases wire.timing with
  | none => exact Nat.le_add_right _ _
  | some timing =>
      have hexpiry := transport.line.expiry_le (transport.line.now + timing.messageGap)
      rw [hresting.resolution] at hexpiry
      show transport.line.expiry (transport.line.now + timing.messageGap) ≤ _
      dsimp only
      omega

end Resting

/-! ## One exchange -/

section Exchange

variable {wire : Wire} {near far : Transport}

/-- A request that reaches a resting end in time is read and answered. -/
theorem serve_reached (exchange departure : Nat) {station after : Station}
    {frame reply : Frame} (hintime : wire.InTime)
    (hresting : wire.Resting wire.requestTimeout far) (hframe : frame.Regular .request)
    (hhandle : station.handle wire.lineUse.own (wire.framing.received frame) =
      (some reply, after)) :
    let reached := bring far
      (arrivals departure (wire.outward exchange) (wire.framing.encode frame))
    Slave.serve wire.lineUse reached station =
      ((reached.emptied.sending (wire.framing.encode reply)).active, after) := by
  intro reached
  have hframing : reached.framing = wire.framing := hresting.framing
  have harriving : reached.line.arriving =
      arrivals departure (wire.outward exchange) (wire.framing.encode frame) :=
    hresting.arriving_bring _
  have hawaiting : reached.awaiting = reached.framing.encode frame := by
    rw [Transport.awaiting, harriving, octets_arrivals, hframing]
  have hprompt : reached.line.Prompt reached.awaiting.length
      (some (reached.deadline .request)) := by
    intro arrival harrival time htime
    obtain rfl := Option.some.inj htime
    rw [harriving] at harrival
    obtain ⟨place, hplace, htime⟩ := exists_place (List.mem_of_mem_take harrival)
    have hshort := wire.framing.length_encode_le hframe.short
    have hrest := hintime.request exchange place (by omega)
    have hfirst : departure + wire.outward exchange 0 ≤ (reached.past 1).line.now :=
      hresting.first_le_past (wire.framing.encode_ne_nil frame) departure _ 0
    have hdeadline : reached.deadline .request =
        (reached.past 1).line.now + wire.requestTimeout := by
      rw [Transport.deadline, ← hresting.timeout]
      rfl
    omega
  have hsilent : reached.timing.any Timing.echo = false := by
    rw [← hintime.silent, ← hresting.timing]
    rfl
  have hreceived : station.handle wire.lineUse.own (reached.framing.received frame) =
      (some reply, after) := by
    rw [hframing]
    exact hhandle
  have hserve := Slave.serve_eq hframe hawaiting hprompt hresting.usable hresting.endless hsilent
    hreceived
  rwa [hframing] at hserve

/-- The answer leaves early enough for all of its octets to come in time. -/
theorem departure_emptied_lt (exchange departure place : Nat) {frame : Frame}
    (hintime : wire.InTime) (hresting : wire.Resting wire.requestTimeout far)
    (hshort : frame.pdu.length ≤ Limits.pdu) (hclock : far.line.now ≤ departure)
    (hplace : place < Limits.networkFrame) :
    let reached := bring far
      (arrivals departure (wire.outward exchange) (wire.framing.encode frame))
    reached.emptied.departure + wire.homeward exchange place <
      departure + wire.answerTimeout := by
  intro reached
  have harriving : reached.line.arriving =
      arrivals departure (wire.outward exchange) (wire.framing.encode frame) :=
    hresting.arriving_bring _
  have hemptied : wire.Resting wire.requestTimeout reached.emptied :=
    hresting.emptied_bring _
  have hdeparture : reached.emptied.departure ≤
      reached.emptied.line.now + wire.turnaround :=
    hemptied.departure_le
  have hzero := hintime.answer exchange 0 place (by decide) hplace
  have hnow : reached.emptied.line.now ≤
      departure + wire.answerTimeout - 1 - wire.turnaround - wire.homeward exchange place := by
    refine Line.past_now_le ?_ ?_ reached.awaiting.length
    · show far.line.now ≤ _
      omega
    · intro arrival harrival
      rw [harriving] at harrival
      obtain ⟨sent, hsent, htime⟩ := exists_place harrival
      have hlength := wire.framing.length_encode_le hshort
      have hanswer := hintime.answer exchange sent place (by omega) hplace
      omega
  omega

/-- An answer that comes in time is the one that the master reads. -/
theorem await_eq {arriving : List (Nat × UInt8)} {reply : Frame} {response : Message Response}
    (sent : List UInt8) (hintime : wire.InTime)
    (hresting : wire.Resting wire.answerTimeout near) (hreply : reply.Regular .response)
    (hoctets : arriving.map Prod.snd = wire.framing.encode reply)
    (hprompt : ∀ arrival ∈ arriving, arrival.1 < near.line.now + wire.answerTimeout)
    (hresponse : Message.responseOf (wire.framing.received reply) = .ok response) :
    await sent (bring near arriving) = (.ok response, (bring near arriving).active.emptied) := by
  have harriving := hresting.arriving_bring arriving
  have hframing : (bring near arriving).active.framing = wire.framing := hresting.framing
  have hsilent : (bring near arriving).timing.any Timing.echo = false := by
    rw [← hintime.silent, ← hresting.timing]
    rfl
  have hawaiting : (bring near arriving).active.awaiting =
      (bring near arriving).active.framing.encode reply := by
    rw [hframing, ← hoctets]
    exact congrArg (List.map Prod.snd) harriving
  have hdeadline : (bring near arriving).active.deadline .response =
      near.line.now + wire.answerTimeout := by
    rw [Transport.deadline, ← hresting.timeout]
    rfl
  have hread := Transport.read_eq_emptied hreply hawaiting (by
    rw [hdeadline]
    intro arrival harrival time htime
    obtain rfl := Option.some.inj htime
    exact hprompt arrival (harriving ▸ List.mem_of_mem_take harrival))
  rw [hframing] at hread
  refine (stateful_bind_ok (Transport.confirm_eq sent hsilent)).trans
    ((stateful_bind_ok hread).trans ?_)
  rw [hresponse]
  rfl

end Exchange

/-- An exchange brings the answer that the station gives to the request, and
leaves the wire idle. -/
theorem exchange_eq {wire : Wire} {state : State} {near far : Transport}
    {request : Message Request} {reply : Frame} {after : Station} {response : Message Response}
    (hintime : wire.InTime) (hidle : wire.Idle state) (hends : state.ends = some (near, far))
    (hrequest : request.requestFrame.Regular .request) (hreply : reply.Regular .response)
    (hhandle : state.station.handle wire.lineUse.own
      (wire.framing.received request.requestFrame) = (some reply, after))
    (hresponse : Message.responseOf (wire.framing.received reply) = .ok response) :
    ∃ ends, wire.exchange request state = (.ok response, ⟨after, some ends, state.exchanges + 1⟩) ∧
      wire.Idle ⟨after, some ends, state.exchanges + 1⟩ := by
  obtain ⟨hnear, hfar, hclocks⟩ := hidle near far hends
  have htransmit := Transport.transmit_eq request.requestFrame hnear.usable
  rw [hnear.framing] at htransmit
  -- The clocks are compared here: what leaves now reaches no one who is ahead of it.
  have hleft : far.line.now ≤ near.departure := hclocks.trans near.now_le_departure
  set octets := wire.framing.encode request.requestFrame
  set reached := bring far (arrivals near.departure (wire.outward state.exchanges) octets)
  set served := (reached.emptied.sending (wire.framing.encode reply)).active
  set returned := arrivals reached.emptied.departure (wire.homeward state.exchanges)
    (wire.framing.encode reply)
  have hserve : Slave.serve wire.lineUse reached state.station = (served, after) :=
    serve_reached state.exchanges near.departure hintime hfar hrequest hhandle
  have hserved : wire.Resting wire.requestTimeout served :=
    ((hfar.emptied_bring _).sending _).active
  have hreturning : wire.returning state.exchanges far.sent served.sent = returned := by
    have hsent : served.sent =
        far.sent ++ [⟨reached.emptied.departure, wire.framing.encode reply⟩] := rfl
    rw [returning, hsent, List.drop_left]
    exact List.append_nil _
  have hprompt : ∀ arrival ∈ returned,
      arrival.1 < (near.sending octets).line.now + wire.answerTimeout := by
    intro arrival harrival
    obtain ⟨place, hplace, htime⟩ := exists_place harrival
    have hlength := wire.framing.length_encode_le hreply.short
    rw [htime]
    exact departure_emptied_lt state.exchanges near.departure place hintime hfar hrequest.short
      hleft (by omega)
  have hawait : await octets (bring (near.sending octets) returned) =
      (.ok response, (bring (near.sending octets) returned).active.emptied) :=
    await_eq octets hintime (hnear.sending octets) hreply (octets_arrivals _ _ _) hprompt
      hresponse
  refine ⟨((bring (near.sending octets) returned).active.emptied, served), ?_, ?_⟩
  · have hreach : bring far
        (arrivals (near.sending octets).line.now (wire.outward state.exchanges) octets) =
          reached := rfl
    simp only [exchange, hends, htransmit, hreach, hserve, hreturning, hserved.usable,
      Bool.false_eq_true, if_false, hawait]
    rfl
  · intro near' far' hends'
    obtain ⟨rfl, rfl⟩ := Prod.mk.inj (Option.some.inj hends')
    refine ⟨(hnear.sending octets).emptied_bring returned, hserved, ?_⟩
    have hsome := wire.framing.encode_ne_nil reply
    have hlength : (bring (near.sending octets) returned).awaiting.length =
        (wire.framing.encode reply).length - 1 + 1 := by
      rw [Transport.awaiting, (hnear.sending octets).arriving_bring, octets_arrivals]
      have hpositive := List.length_pos_of_ne_nil hsome
      omega
    have hfirst := (hnear.sending octets).first_le_past hsome reached.emptied.departure
      (wire.homeward state.exchanges) ((wire.framing.encode reply).length - 1)
    show reached.emptied.departure ≤ ((bring (near.sending octets) returned).line.past
      (bring (near.sending octets) returned).awaiting.length).now
    rw [hlength]
    exact (Nat.le_add_right _ _).trans hfirst

end Wire

end Modbus
