import Mathlib.Tactic
import Modbus.Proofs.FrameReading
import Modbus.Proofs.StationReplies
import Modbus.Slave.Stream

/-!
# Rounds of serving

A slave reads a frame, answers it or not, and goes on.  One round ends in one of
four ways: the frame is answered, it is left to another station, what was read
is no frame and that is survived, or the line is given up or brings nothing
more.  In the last case nothing is sent any more.
-/

namespace Modbus

namespace Transport

/-- The transport when octets have been sent in answer to what was read. -/
def answered (reply : List UInt8) (transport : Transport) : Transport :=
  (transport.sending reply).active

theorem octets_answered (reply : List UInt8) (transport : Transport) :
    (transport.answered reply).sent.map Transmission.octets =
      transport.sent.map Transmission.octets ++ [reply] := by
  simp only [answered, active, sending, List.map_append, List.map_cons, List.map_nil]

/-- Without a timing nothing is waited for before an answer leaves. -/
theorem line_answered_untimed {transport : Transport} (htiming : transport.timing = none)
    (reply : List UInt8) : (transport.answered reply).line = transport.line := by
  have hdeparture : transport.departure = transport.line.now := by
    simp only [departure, waitGap, htiming]
  simp only [answered, active, sending, hdeparture]

end Transport

namespace Slave

variable {lineUse : LineUse} {rounds : Nat} {transport between : Transport}
  {station after : Station} {frame reply : Frame}

theorem serveWithin_answered
    (hread : Transport.read .request transport = (.ok frame, between))
    (hhandle : station.handle lineUse.own frame = (some reply, after))
    (hopen : between.closed = false) (hsilent : between.timing.any Timing.echo = false) :
    serveWithin lineUse (rounds + 1) transport station =
      serveWithin lineUse rounds (between.answered (between.framing.encode reply)) after := by
  have hwrite : Transport.write reply between =
      (.ok (), between.answered (between.framing.encode reply)) :=
    Transport.write_eq reply hopen hsilent
  simp only [serveWithin, ExceptT.run, hread, hhandle, hwrite]

/-- A frame that no answer is due to is passed over. -/
theorem serveWithin_ignored
    (hread : Transport.read .request transport = (.ok frame, between))
    (hhandle : station.handle lineUse.own frame = (none, after)) :
    serveWithin lineUse (rounds + 1) transport station =
      serveWithin lineUse rounds between after := by
  simp only [serveWithin, ExceptT.run, hread, hhandle]

theorem serveWithin_survived {error : Error}
    (hread : Transport.read .request transport = (.error (.failed error), between))
    (hsurvives : lineUse.survives between.framing.isHeadless error = true) :
    serveWithin lineUse (rounds + 1) transport station =
      serveWithin lineUse rounds between station := by
  simp only [serveWithin, ExceptT.run, hread, hsurvives, if_true]

/-- Where nothing that goes wrong is survived, the first thing that does is the last. -/
theorem serveWithin_ended {halt : Halt}
    (hread : Transport.read .request transport = (.error halt, between))
    (hgivesUp : ∀ error, halt = .failed error →
      lineUse.survives between.framing.isHeadless error = false) :
    ∃ last : Transport, last.sent = between.sent ∧
      serveWithin lineUse (rounds + 1) transport station = (last, station) := by
  cases halt with
  | failed error =>
      refine ⟨between.close, rfl, ?_⟩
      simp only [serveWithin, ExceptT.run, hread, hgivesUp error rfl, Bool.false_eq_true, if_false]
  | waiting =>
      refine ⟨between, rfl, ?_⟩
      simp only [serveWithin, ExceptT.run, hread]

/-! ## What is handed to the station -/

/-- The frames that a slave hands to its station while it serves up to `rounds` frames, in
order. -/
def framesWithin (lineUse : LineUse) : Nat → Transport → Station → List Frame
  | 0, _, _ => []
  | rounds + 1, transport, station =>
    match (Transport.read .request).run transport with
    | (.ok frame, transport) =>
      frame ::
        match station.handle lineUse.own frame with
        | (none, station) => framesWithin lineUse rounds transport station
        | (some reply, station) =>
          match (Transport.write reply).run transport with
          | (.ok _, transport) => framesWithin lineUse rounds transport station
          | (.error _, _) => []
    | (.error (.failed error), transport) =>
      if lineUse.survives transport.framing.isHeadless error then
        framesWithin lineUse rounds transport station
      else
        []
    | (.error .waiting, _) => []

/-- The frames that a slave hands to its station while it serves a line. -/
def frames (lineUse : LineUse) (transport : Transport) (station : Station) : List Frame :=
  framesWithin lineUse (transport.line.arriving.length + 1) transport station

/-- Whatever a line brings, a station has in the end handled what was handed to it, and nothing
else. -/
theorem station_serveWithin (lineUse : LineUse) (rounds : Nat) (transport : Transport)
    (station : Station) :
    (serveWithin lineUse rounds transport station).2 =
      (station.handleAll lineUse.own (framesWithin lineUse rounds transport station)).2 := by
  induction rounds generalizing transport station with
  | zero => rfl
  | succ rounds ih =>
      unfold serveWithin framesWithin
      rcases (Transport.read .request).run transport with ⟨_ | frame, between⟩
      next halt =>
        cases halt with
        | failed error =>
            dsimp only
            split
            next => exact ih between station
            next => rfl
        | waiting => rfl
      next =>
        rcases hhandle : station.handle lineUse.own frame with ⟨_ | reply, after⟩
        next =>
          simp only [Station.handleAll, hhandle]
          exact ih between after
        next =>
          rcases hwrite : (Transport.write reply).run between with ⟨_ | _, last⟩
          next => simp only [Station.handleAll, hhandle, hwrite]
          next =>
            simp only [Station.handleAll, hhandle, hwrite]
            exact ih last after

theorem framesWithin_answered
    (hread : Transport.read .request transport = (.ok frame, between))
    (hhandle : station.handle lineUse.own frame = (some reply, after))
    (hopen : between.closed = false) (hsilent : between.timing.any Timing.echo = false) :
    framesWithin lineUse (rounds + 1) transport station =
      frame :: framesWithin lineUse rounds
        (between.answered (between.framing.encode reply)) after := by
  have hwrite : Transport.write reply between =
      (.ok (), between.answered (between.framing.encode reply)) :=
    Transport.write_eq reply hopen hsilent
  simp only [framesWithin, ExceptT.run, hread, hhandle, hwrite]

theorem framesWithin_ignored
    (hread : Transport.read .request transport = (.ok frame, between))
    (hhandle : station.handle lineUse.own frame = (none, after)) :
    framesWithin lineUse (rounds + 1) transport station =
      frame :: framesWithin lineUse rounds between after := by
  simp only [framesWithin, ExceptT.run, hread, hhandle]

theorem framesWithin_ended {halt : Halt}
    (hread : Transport.read .request transport = (.error halt, between))
    (hgivesUp : ∀ error, halt = .failed error →
      lineUse.survives between.framing.isHeadless error = false) :
    framesWithin lineUse (rounds + 1) transport station = [] := by
  cases halt with
  | failed error =>
      simp only [framesWithin, ExceptT.run, hread, hgivesUp error rfl, Bool.false_eq_true, if_false]
  | waiting => simp only [framesWithin, ExceptT.run, hread]

end Slave

end Modbus
