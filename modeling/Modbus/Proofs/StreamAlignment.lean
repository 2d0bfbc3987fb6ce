import Mathlib.Tactic
import Modbus.Connection.Feed
import Modbus.Proofs.ConnectionService
import Modbus.Proofs.TransactionOutcome

/-!
# Where a master stands in a stream

A master that reads frames with network headers from a stream may fail at any octet:
the next one comes too late, the stream ends, or a header makes no sense.  Each of
these errors makes it close the connection.  The errors that leave the connection
open come up behind a whole frame.  So whatever the peer sends, an open connection is
always left at the end of a frame, and every answer is looked for where a frame may
begin.
-/

namespace Modbus

/-! ## What transactions keep -/

namespace Transaction

variable {σ : Type} {connection : Connection σ} {Kept : σ → Prop}

/-- What attempts keep and closing keeps is kept by transactions. -/
theorem execute_keeps
    (hsettle : ∀ request state, Kept state → Kept (settle connection request state))
    (hclose : ∀ state, Kept state → Kept (connection.close state)) (policy : Policy)
    (request : Message Request) (counter : Counter) {state : σ} (hstate : Kept state) :
    Kept (execute policy connection request counter state).2.2 := by
  obtain ⟨last, hconcludes⟩ := exists_concludes policy connection (stamp request counter.next)
    (policy.attempts - 1) 0 state
  have hiterate (made : Nat) :
      Kept ((settle connection (stamp request counter.next))^[made] state) := by
    induction made with
    | zero => exact hstate
    | succ made ih =>
        rw [Function.iterate_succ_apply']
        exact hsettle _ _ ih
  simp only [execute_eq, hconcludes.after]
  split
  next => exact hclose _ (hiterate _)
  next => exact hiterate _

end Transaction

/-! ## Errors inside a frame -/

namespace Transport

/-- Work that fails only with errors for which a connection has to be opened anew. -/
def Breaks {α : Type} (work : Exchange α) : Prop :=
  ∀ transport halt after, work transport = (.error halt, after) →
    ∀ other, (Halt.error other halt).needsReconnect = true

namespace Breaks

variable {α β : Type} {work : Exchange α} {next : α → Exchange β}

theorem pure (value : α) : Breaks (Pure.pure value : Exchange α) := by
  intro transport halt after hfailed
  have hnone := (Prod.mk.inj hfailed).1
  contradiction

theorem fail {error : Error} (hreconnect : error.needsReconnect = true) :
    Breaks (Transport.fail error : Exchange α) := by
  intro transport halt after hfailed other
  obtain rfl := Except.error.inj (Prod.mk.inj hfailed).1
  exact hreconnect

theorem bind (hwork : Breaks work)
    (hnext : ∀ transport value after, work transport = (.ok value, after) → Breaks (next value)) :
    Breaks (work >>= next) := by
  intro transport halt after hfailed
  obtain ⟨⟨outcome, between⟩, hresult⟩ : ∃ result, work transport = result := ⟨_, rfl⟩
  cases outcome with
  | error other =>
      rw [stateful_bind_error hresult] at hfailed
      obtain rfl := Except.error.inj (Prod.mk.inj hfailed).1
      exact hwork transport other between hresult
  | ok value =>
      rw [stateful_bind_ok hresult] at hfailed
      exact hnext transport value between hresult between halt after hfailed

theorem get : Breaks (MonadState.get : Exchange Transport) := by
  intro transport halt after hfailed
  have hnone := (Prod.mk.inj hfailed).1
  contradiction

theorem octets (deadline : Option Nat) (count : Nat) :
    Breaks (Transport.octets deadline count) := by
  intro transport halt after hfailed other
  rw [octets_apply] at hfailed
  obtain ⟨hresult, -⟩ := Prod.mk.inj hfailed
  cases hexactly : (transport.line.exactly deadline count).1 with
  | ok taken =>
      rw [hexactly] at hresult
      contradiction
  | error arrival =>
      rw [hexactly] at hresult
      obtain rfl := Except.error.inj hresult
      cases arrival <;> rfl

theorem more {frame : List UInt8} {count : Nat} (deadline : Nat)
    (hroom : frame.length + count ≤ bufferSize) :
    Breaks (Transport.more frame deadline count) := by
  unfold Transport.more
  rw [if_neg (by omega)]
  exact (octets _ _).bind fun _ _ _ _ => pure _

theorem first (direction : Direction) : Breaks (Transport.first direction) := by
  cases direction with
  | request => exact (octets _ _).bind fun _ _ _ _ => get.bind fun _ _ _ _ => pure _
  | response => exact get.bind fun _ _ _ _ => (octets _ _).bind fun _ _ _ _ => pure _

end Breaks

/-- What goes wrong inside a frame with a network header makes the stream useless. -/
theorem breaks_readMbap (direction : Direction) : Breaks (readMbap direction) := by
  refine (Breaks.first direction).bind fun transport value between hfirst => ?_
  obtain ⟨start, deadline⟩ := value
  obtain ⟨-, hone⟩ := awaiting_of_first hfirst
  have hroom : start.length + Limits.networkPrefix ≤ bufferSize := by
    rw [hone]
    decide
  refine (Breaks.more deadline hroom).bind fun transport octets between hmore => ?_
  obtain ⟨front, rfl, hsix, -⟩ := awaiting_of_more hmore
  cases hheader : Mbap.decodeHeader (start ++ front) with
  | error fault => exact Breaks.get.bind fun _ _ _ _ => Breaks.fail rfl
  | ok announced =>
      obtain ⟨header, length⟩ := announced
      have hfits : (start ++ front).length + length ≤ bufferSize := by
        have hlength := Mbap.length_of_decodeHeader hheader
        simp only [Limits.pdu] at hlength
        rw [List.length_append, hone, hsix]
        simp only [bufferSize, Limits.serialFrame, Limits.networkPrefix]
        omega
      exact (Breaks.more deadline hfits).bind fun _ _ _ _ => Breaks.pure _

/-- An answer that is read, understood or not, stood in front of the line as a frame; any
other error of reading is one for which the connection has to be opened anew. -/
theorem readResponse_mbap {transport : Transport} (hframing : transport.framing = .mbap) :
    (∃ frame line, (readResponse transport).2 = { transport with line := line }.active ∧
        Framing.mbap.Delimits .response frame ∧
        transport.awaiting = Mbap.encode frame ++ line.arriving.map Prod.snd) ∨
      ∃ halt, (readResponse transport).1 = .error halt ∧
        ∀ other, (Halt.error other halt).needsReconnect = true := by
  obtain ⟨line, hlistens, -⟩ := Listens.readMbap .response transport
  have hreading : reading transport.framing .response = readMbap .response := by
    rw [hframing, reading]
  have hread : read .response transport =
      ((readMbap .response transport).1, { transport with line := line }.active) := by
    rw [read_apply, hreading, hlistens]
  cases hresult : (readMbap .response transport).1 with
  | error halt =>
      rw [hresult] at hread
      refine Or.inr ⟨halt, ?_, breaks_readMbap .response transport halt _ (Prod.ext hresult rfl)⟩
      unfold readResponse
      rw [stateful_bind_error hread]
  | ok frame =>
      rw [hresult] at hread
      obtain ⟨hframe, hawaiting⟩ := awaiting_of_readMbap (Prod.ext hresult hlistens)
      refine Or.inl ⟨frame, line, ?_, hframe, hawaiting⟩
      unfold readResponse
      rw [stateful_bind_ok hread]
      cases Message.responseOf frame <;> rfl

end Transport

/-! ## Whole frames -/

namespace Mbap

/-- Octets that are frames, one behind another. -/
def Framed (octets : List UInt8) : Prop :=
  ∃ frames : List Frame, (∀ frame ∈ frames, Framing.mbap.Delimits .response frame) ∧
    octets = frames.flatMap encode

theorem framed_nil : Framed [] := ⟨[], fun _ hframe => by contradiction, rfl⟩

theorem Framed.append_frame {octets : List UInt8} {frame : Frame} (hframed : Framed octets)
    (hframe : Framing.mbap.Delimits .response frame) : Framed (octets ++ encode frame) := by
  obtain ⟨frames, hframes, rfl⟩ := hframed
  refine ⟨frames ++ [frame], ?_, by simp⟩
  intro other hother
  rcases List.mem_append.mp hother with hearlier | hlast
  · exact hframes other hearlier
  · rw [List.mem_singleton.mp hlast]
    exact hframe

end Mbap

/-! ## A master at a feed -/

namespace Feed

open Transaction

/-- A connection that stands behind whole frames. -/
structure Resting (brought : List UInt8) (transport : Transport) : Prop where
  framing : transport.framing = .mbap
  timing : transport.timing = none
  stillOpen : transport.closed = false
  behind : ∃ taken, Mbap.Framed taken ∧ brought = taken ++ transport.awaiting

/-- An open connection stands behind whole frames, and so it did whenever an answer was
waited for. -/
structure Aligned (state : State) : Prop where
  resting : ∀ transport ∈ state.transport, Resting state.brought transport
  starts : ∀ taken ∈ state.starts, Mbap.Framed taken

variable (feed : Feed) {state : State} {transport : Transport}

theorem aligned_idle : Aligned .idle :=
  ⟨fun _ hopen => by contradiction, fun _ htaken => by contradiction⟩

theorem aligned_close (haligned : Aligned state) : Aligned (close state) :=
  ⟨fun _ hopen => by contradiction, haligned.starts⟩

theorem aligned_connect (haligned : Aligned state) : Aligned (feed.connect state).2 := by
  unfold connect
  split
  next => exact haligned
  next hclosed =>
    dsimp only
    split
    next =>
      refine ⟨fun transport hopen => ?_, haligned.starts⟩
      rw [hclosed] at hopen
      contradiction
    next line hline =>
      refine ⟨fun transport hopen => ?_, haligned.starts⟩
      obtain rfl := Option.some.inj hopen
      exact ⟨rfl, rfl, rfl, [], Mbap.framed_nil, rfl⟩

theorem Resting.taken_framed (hresting : Resting state.brought transport) :
    Mbap.Framed (state.taken transport) := by
  obtain ⟨taken, hframed, hbrought⟩ := hresting.behind
  have htaken : state.taken transport = taken := by
    have hlength : state.brought.length - transport.line.arriving.length = taken.length := by
      rw [hbrought, List.length_append, Transport.length_arriving, Nat.add_sub_cancel]
    rw [State.taken, hlength, hbrought, List.take_left]
  rwa [htaken]

/-- Sending a request leaves a connection where it stands. -/
theorem Resting.requested {brought : List UInt8} (hresting : Resting brought transport)
    (request : Message Request) (state : State) :
    ∃ sent, Transport.write request.requestFrame (feed.prepared state transport) = (.ok (), sent) ∧
      Resting brought sent := by
  obtain ⟨hframing, htiming, hopen, hbehind⟩ := hresting
  have hsilent : (feed.prepared state transport).timing.any Timing.echo = false := by
    show transport.timing.any Timing.echo = false
    rw [htiming]
    rfl
  exact ⟨_, Transport.write_eq request.requestFrame hopen hsilent, hframing, htiming, hopen,
    hbehind⟩

/-- After an answer was waited for, a connection stands behind whole frames, or has to be
opened anew. -/
theorem Resting.answered {brought : List UInt8} (hresting : Resting brought transport) :
    Resting brought (Transport.readResponse transport).2 ∨
      ∃ halt, (Transport.readResponse transport).1 = .error halt ∧
        ∀ other, (Halt.error other halt).needsReconnect = true := by
  obtain ⟨hframing, htiming, hopen, taken, hframed, hbrought⟩ := hresting
  refine (Transport.readResponse_mbap hframing).imp_left ?_
  rintro ⟨frame, line, hafter, hframe, hawaiting⟩
  rw [hafter]
  refine ⟨hframing, htiming, hopen, taken ++ Mbap.encode frame, hframed.append_frame hframe, ?_⟩
  rw [hbrought, hawaiting, List.append_assoc]
  rfl

/-- An exchange that leaves a connection inside a frame fails with an error for which it is
opened anew. -/
theorem exchange_spec (haligned : Aligned state) (request : Message Request) :
    (∀ taken ∈ (feed.exchange request state).2.starts, Mbap.Framed taken) ∧
      (Aligned (feed.exchange request state).2 ∨
        ∃ error, (feed.exchange request state).1 = .error error ∧
          error.needsReconnect = true) := by
  cases hopen : state.transport with
  | none =>
      have hexchange : feed.exchange request state = (.error .notConnected, state) := by
        simp only [exchange, hopen]
      rw [hexchange]
      exact ⟨haligned.starts, Or.inl haligned⟩
  | some transport =>
      have hresting := haligned.resting transport hopen
      cases hfault : feed.faults state.exchanges with
      | some fault =>
          simp only [exchange, hopen, hfault]
          exact ⟨haligned.starts, Or.inr ⟨_, rfl, rfl⟩⟩
      | none =>
          obtain ⟨sent, hwrite, hsent⟩ := hresting.requested feed request state
          have hstart : Mbap.Framed (state.taken sent) := hsent.taken_framed
          have hstarts : ∀ taken ∈ state.starts ++ [state.taken sent], Mbap.Framed taken := by
            intro taken htaken
            rcases List.mem_append.mp htaken with hearlier | hnow
            · exact haligned.starts taken hearlier
            · rw [List.mem_singleton.mp hnow]
              exact hstart
          simp only [exchange, hopen, hfault, ExceptT.run, hwrite]
          refine ⟨hstarts, hsent.answered.imp ?_ ?_⟩
          · intro hafter
            refine ⟨fun other hother => ?_, hstarts⟩
            rw [← Option.some.inj hother]
            exact hafter
          · rintro ⟨halt, hfailed, hreconnect⟩
            refine ⟨Halt.error (Transport.readResponse sent).2 halt, ?_, hreconnect _⟩
            show (Transport.readResponse sent).1.mapError _ = _
            rw [hfailed]
            rfl

/-- An attempt leaves a connection behind whole frames, or has it closed. -/
theorem aligned_settle (haligned : Aligned state) (request : Message Request) :
    Aligned (settle feed.connection request state) := by
  have hattempt : (∀ taken ∈ (attempt feed.connection request state).2.starts,
        Mbap.Framed taken) ∧
      (Aligned (attempt feed.connection request state).2 ∨
        ∃ error, (attempt feed.connection request state).1 = .error error ∧
          error.needsReconnect = true) := by
    have hconnect := aligned_connect feed haligned
    unfold attempt
    split
    next => exact exchange_spec feed haligned request
    next =>
      change Aligned (feed.connection.connect state).2 at hconnect
      split
      next after hopened =>
        rw [hopened] at hconnect
        exact exchange_spec feed hconnect request
      next error after hfailed =>
        rw [hfailed] at hconnect
        exact ⟨hconnect.starts, Or.inl hconnect⟩
  unfold settle
  generalize attempt feed.connection request state = tried at hattempt
  obtain ⟨outcome, after⟩ := tried
  obtain ⟨hstarts, hafter⟩ := hattempt
  have hclosed : Aligned (close after) := ⟨fun _ hopen => by contradiction, hstarts⟩
  cases outcome with
  | ok response =>
      rcases hafter with hafter | ⟨error, herror, -⟩
      · exact hafter
      · contradiction
  | error error =>
      rcases hafter with hafter | ⟨other, herror, hreconnect⟩
      · simp only [recover]
        split
        next => exact hclosed
        next => exact hafter
      · obtain rfl := Except.error.inj herror
        simp only [recover, hreconnect, if_true]
        exact hclosed

theorem aligned_execute (haligned : Aligned state) (call : Call) :
    Aligned
      (execute call.policy feed.connection call.request call.counter state).2.2 := by
  have hclose (state : State) (hkept : Aligned state) : Aligned (feed.connection.close state) :=
    aligned_close hkept
  exact execute_keeps (fun request _ hkept => aligned_settle feed hkept request) hclose call.policy
    call.request call.counter haligned

/-- Whatever a peer sends, however it is cut and whenever it comes, after every call of a master
the connection is closed or whole frames have been taken from it; and so it was whenever
the master began to wait for an answer. -/
theorem aligned_after (calls : List Call) :
    let state := feed.after calls
    (∀ transport ∈ state.transport, ∃ frames : List Frame,
      (∀ frame ∈ frames, Framing.mbap.Delimits .response frame) ∧
        state.brought = frames.flatMap Mbap.encode ++ transport.awaiting) ∧
    ∀ taken ∈ state.starts, ∃ frames : List Frame,
      (∀ frame ∈ frames, Framing.mbap.Delimits .response frame) ∧
        taken = frames.flatMap Mbap.encode := by
  have hcalls (state : State) (haligned : Aligned state) :
      Aligned (calls.foldl (fun state call =>
        (execute call.policy feed.connection call.request call.counter state).2.2) state) := by
    induction calls generalizing state with
    | nil => exact haligned
    | cons call calls ih => exact ih _ (aligned_execute feed haligned call)
  intro state
  have haligned : Aligned state := hcalls .idle aligned_idle
  refine ⟨fun transport hopen => ?_, haligned.starts⟩
  obtain ⟨taken, ⟨frames, hframes, rfl⟩, hbrought⟩ := (haligned.resting transport hopen).behind
  exact ⟨frames, hframes, hbrought⟩

/-- A late answer and the right one are taken as the frames that they are.  The next call finds
a frame of another protocol, and the connection is closed inside it. -/
example :
    let late := Mbap.encode ⟨⟨9, 0, 1⟩, [3, 2, 0, 5]⟩
    let right := Mbap.encode ⟨⟨0, 0, 1⟩, [3, 2, 0, 7]⟩
    let foreign := Mbap.encode ⟨⟨0, 4, 1⟩, [3, 2, 0, 7]⟩
    let line := Line.ofChunks 1 [(0, late ++ right.take 4), (5, right.drop 4 ++ foreign)] false
    let feed : Feed := ⟨fun _ => .ok line, "peer", fun _ => 100, fun _ => 0, fun _ => none⟩
    let call : Call := ⟨⟨2, 0, true, false⟩, ⟨⟨0, 0, 1⟩, .readHoldingRegisters 0 1⟩, ⟨0⟩⟩
    (feed.after [call]).transport.isSome ∧
      (feed.after [call]).starts = [[], late] ∧
      (feed.after [call, { call with policy := ⟨1, 0, true, false⟩ }]).transport = none ∧
      (feed.after [call, { call with policy := ⟨1, 0, true, false⟩ }]).starts =
        [[], late, late ++ right] := by
  decide +kernel

end Feed

end Modbus
