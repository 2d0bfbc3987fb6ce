import Mathlib.Tactic
import Modbus.Proofs.Refusals
import Modbus.Proofs.ReplySize
import Modbus.Station

/-!
# What a station answers

A frame is answered from the image that its unit resolves to.  Three things can
be wrong with it, and they are looked for in this order: its function is not
implemented, its fields are not those of a valid request, or it names something
that the image does not hold.  Each of them has an exception of its own; no other
exception is ever sent.
-/

namespace Modbus

/-! ## Answers and their function codes -/

namespace Response

/-- Why a request was refused, if it was. -/
def reason? : Response → Option ExceptionCode
  | exception _ reason => some reason
  | _ => none

theorem isExceptionCode_functionCode (response : Response) :
    isExceptionCode response.functionCode = response.isException := by
  cases response with
  | exception code reason => exact isExceptionCode_exceptionCode code
  | _ => exact isExceptionCode_code _

theorem isException_eq_isSome_reason? (response : Response) :
    response.isException = response.reason?.isSome := by
  cases response <;> rfl

theorem plainCode_refusal (code : UInt8) (reason : ExceptionCode) :
    plainCode (refusal code reason).functionCode = plainCode code :=
  plainCode_exceptionCode (plainCode_lt code)

end Response

/-- What was found or done is answered under the function code of the request. -/
theorem Request.functionCode_reply {request : Request} {answer : Answer}
    (hexpects : request.Expects answer) :
    (request.reply answer).functionCode = request.functionCode := by
  cases request <;> cases answer <;> simp only [Expects] at hexpects <;> rfl

/-- A valid request for an implemented function that is not refused is answered under its own
function code. -/
theorem Image.functionCode_of_apply_ok {image after : Image} {request : Request}
    {response : Response} (hvalid : request.Valid) (hfunction : request.function?.isSome)
    (happly : image.apply request = (.ok response, after)) :
    response.functionCode = request.functionCode := by
  have hyields := request.apply_yields hvalid hfunction image
  cases hperform : image.perform request with
  | none =>
      rw [hperform] at hyields
      obtain ⟨fault, hfault⟩ := hyields
      have hrefused := (Prod.mk.inj (hfault.symm.trans happly)).1
      contradiction
  | some outcome =>
      obtain ⟨answer, changed⟩ := outcome
      rw [hperform] at hyields
      have hdone : request.apply image = (.ok (request.reply answer), changed) := hyields
      obtain ⟨hreply, -⟩ := Prod.mk.inj (hdone.symm.trans happly)
      rw [← Except.ok.inj hreply]
      exact Request.functionCode_reply (perform_expects hperform)

/-- What a request that is not refused says is no exception. -/
theorem Image.reason?_of_apply_ok {image after : Image} {request : Request} {response : Response}
    (hvalid : request.Valid) (hfunction : request.function?.isSome)
    (happly : image.apply request = (.ok response, after)) : response.reason? = none := by
  obtain ⟨function, hsome⟩ := Option.isSome_iff_exists.mp hfunction
  have hplain : response.isException = false := by
    rw [← response.isExceptionCode_functionCode, functionCode_of_apply_ok hvalid hfunction happly,
      Request.code_of_function? hsome, isExceptionCode_code]
  rwa [response.isException_eq_isSome_reason?, Option.isSome_eq_false_iff,
    Option.isNone_iff_eq_none] at hplain

/-- What is read under the code of an implemented function is a valid request for it. -/
theorem Request.implemented_of_decode {code : UInt8} {payload : List UInt8} {function : Function}
    {request : Request} (hcode : Function.ofCode? code = some function)
    (hdecode : decode (code :: payload) = .ok request) :
    request.Valid ∧ request.function?.isSome ∧ request.functionCode = code := by
  obtain ⟨hproper, hvalidate, _, hsplit, -⟩ := (decode_eq_ok_iff _ request).mp hdecode
  have hsame : request.functionCode = code := (List.cons.inj hsplit).1.symm
  refine ⟨(validate_eq_ok_iff request ()).mp hvalidate, ?_, hsame⟩
  rw [← ofCode?_functionCode hproper, hsame, hcode]
  rfl

/-! ## Units -/

/-- A unit is served from its own image or, if the medium is not shared, from that of unit
zero if this is the only one. -/
theorem Units.resolve_eq_some_iff (units : Units) (unit : UInt8) (wild : Bool) (image : Image) :
    units.resolve unit wild = some image ↔
      units.ofUnit? unit = some image ∨
        wild = true ∧ units.ofUnit? unit = none ∧ units.entries = [(wildcard.toNat, image)] := by
  have honly : units.size = 1 ∧ units.ofUnit? wildcard = some image ↔
      units.entries = [(wildcard.toNat, image)] := by
    constructor
    · rintro ⟨hsize, hfound⟩
      obtain ⟨⟨number, held⟩, hentries⟩ := List.length_eq_one_iff.mp hsize
      simp only [ofUnit?, Directory.get?, hentries, Directory.find?] at hfound
      split at hfound
      next hnumber => rw [hentries, hnumber, Option.some.inj hfound]
      next => contradiction
    · intro hentries
      simp [Directory.size, ofUnit?, Directory.get?, hentries, Directory.find?]
  unfold resolve
  cases hunit : units.ofUnit? unit with
  | some found => simp
  | none => cases wild <;> simp [← honly]

/-! ## The answer to a frame -/

namespace Station

/-- How the answer from an image is decided.  What is refused leaves the image alone. -/
structure Decides (image : Image) (frame : Frame) (response : Response) (after : Image) :
    Prop where
  function : response.reason? = some .illegalFunction ↔
    Function.ofCode? frame.functionCode = none
  value : response.reason? = some .illegalDataValue ↔
    (Function.ofCode? frame.functionCode).isSome ∧
      ∃ error, Request.decode frame.pdu = .error error
  address : response.reason? = some .illegalDataAddress ↔
    (Function.ofCode? frame.functionCode).isSome ∧
      ∃ request, Request.decode frame.pdu = .ok request ∧
        ∃ error after, image.apply request = (.error error, after)
  done : response.reason? = none ↔
    ∃ request, Request.decode frame.pdu = .ok request ∧
      image.apply request = (.ok response, after)
  reasons : ∀ reason, response.reason? = some reason →
    reason ∈ [.illegalFunction, .illegalDataValue, .illegalDataAddress] ∧ after = image
  code : plainCode response.functionCode = plainCode frame.functionCode

theorem answer_decides (image : Image) {frame : Frame} (hpdu : frame.pdu ≠ []) :
    Decides image frame (answer image frame).1 (answer image frame).2 := by
  have hrefusal (reason : ExceptionCode) :
      (Response.refusal frame.functionCode reason).reason? = some reason := rfl
  obtain ⟨code, payload, hsplit⟩ := List.exists_cons_of_ne_nil hpdu
  have hhead : frame.functionCode = code := by simp [Frame.functionCode, hsplit]
  cases hcode : Function.ofCode? frame.functionCode with
  | none =>
      have hdecode : Request.decode frame.pdu = .ok (.unsupported frame.functionCode payload) := by
        rw [hhead] at hcode ⊢
        simp only [hsplit, Request.decode, hcode]
      have happly : image.apply (.unsupported frame.functionCode payload) =
          (.error (.ofException frame.functionCode .illegalFunction), image) := rfl
      have hanswer :
          answer image frame = (.refusal frame.functionCode .illegalFunction, image) := by
        simp only [answer, hdecode, Image.respond_unsupported]
      rw [hanswer]
      constructor <;> simp [hrefusal, hcode, hdecode, happly, Response.plainCode_refusal]
  | some function =>
      cases hdecode : Request.decode frame.pdu with
      | error error =>
          have hanswer : answer image frame =
              (.refusal frame.functionCode .illegalDataValue, image) := by
            simp only [answer, hdecode]
          rw [hanswer]
          constructor <;> simp [hrefusal, hcode, hdecode, Response.plainCode_refusal]
      | ok request =>
          obtain ⟨hvalid, hfunction, hsame⟩ :=
            Request.implemented_of_decode (hhead ▸ hcode) (hsplit ▸ hdecode)
          obtain ⟨⟨outcome, after⟩, happly⟩ : ∃ result, image.apply request = result := ⟨_, rfl⟩
          have hanswer : answer image frame = image.respond request := by
            simp only [answer, hdecode]
          -- Only now does the image count: an error is an address, and changes nothing.
          rw [hanswer, Image.respond, happly]
          rw [← hhead] at hsame
          cases outcome with
          | error error =>
              obtain ⟨rfl, fault, rfl⟩ := Image.refused_of_apply_error hfunction happly
              rw [hsame]
              constructor <;>
                simp [hrefusal, hcode, hdecode, happly, Error.exception?,
                  Response.plainCode_refusal]
          | ok response =>
              have hreply := Image.functionCode_of_apply_ok hvalid hfunction happly
              have hreason := Image.reason?_of_apply_ok hvalid hfunction happly
              constructor <;> simp [hreason, hcode, hdecode, happly, hreply, hsame]

theorem handle_resolved {station : Station} {own : Bool} {frame : Frame} {image : Image}
    (hresolve : station.units.resolve frame.header.unitId own = some image) :
    station.handle own frame =
      (some ⟨frame.header, (answer image frame).1.encode⟩,
        ⟨station.units.add (answer image frame).2,
          station.stats.countAnswer (answer image frame).1⟩) := by
  unfold handle
  simp only [hresolve]

/-- A frame for a unit that is not there is refused, or left to others who share the medium. -/
theorem handle_unresolved {station : Station} {own : Bool} {frame : Frame}
    (hresolve : station.units.resolve frame.header.unitId own = none) :
    station.handle own frame =
      if own then
        (some ⟨frame.header, (Response.refusal frame.functionCode .illegalDataAddress).encode⟩,
          ⟨station.units,
            station.stats.countAnswer (.refusal frame.functionCode .illegalDataAddress)⟩)
      else (none, station) := by
  unfold handle
  simp only [hresolve]

/-- What a station sends and counts for one frame. -/
theorem handle_counts (own : Bool) (station : Station) (frame : Frame) :
    station.handle own frame = (none, station) ∨
      ∃ response units, station.handle own frame =
        (some ⟨frame.header, Response.encode response⟩,
          ⟨units, station.stats.countAnswer response⟩) := by
  cases hresolve : station.units.resolve frame.header.unitId own with
  | some image => exact Or.inr ⟨_, _, handle_resolved hresolve⟩
  | none =>
      rw [handle_unresolved hresolve]
      cases own with
      | false => exact Or.inl rfl
      | true => exact Or.inr ⟨_, _, rfl⟩

/-- On a medium of its own a station leaves no frame without an answer. -/
theorem handle_own (station : Station) (frame : Frame) :
    ∃ reply after, station.handle true frame = (some reply, after) := by
  cases hresolve : station.units.resolve frame.header.unitId true with
  | some image => exact ⟨_, _, handle_resolved hresolve⟩
  | none => exact ⟨_, _, handle_unresolved hresolve⟩

theorem header_of_handle {own : Bool} {station after : Station} {frame reply : Frame}
    (hhandle : station.handle own frame = (some reply, after)) : reply.header = frame.header := by
  rcases station.handle_counts own frame with hnone | ⟨response, units, hsome⟩
  · rw [hnone] at hhandle
    cases hhandle
  · rw [hsome] at hhandle
    cases hhandle
    rfl

/-! ## Frames one after another -/

/-- Answers frames one after another; the result has the answers that are sent. -/
def handleAll (own : Bool) (station : Station) : List Frame → List Frame × Station
  | [] => ([], station)
  | frame :: frames =>
    let (reply, station) := station.handle own frame
    let (replies, station) := station.handleAll own frames
    (reply.toList ++ replies, station)

theorem handleAll_answered {own : Bool} {station after : Station} {frame reply : Frame}
    (hhandle : station.handle own frame = (some reply, after)) (frames : List Frame) :
    station.handleAll own (frame :: frames) =
      (reply :: (after.handleAll own frames).1, (after.handleAll own frames).2) := by
  rw [handleAll, hhandle]
  rfl

/-- Frames are answered after others as by the station that the others leave behind. -/
theorem handleAll_append (own : Bool) (station : Station) (first rest : List Frame) :
    let before := station.handleAll own first
    let behind := before.2.handleAll own rest
    station.handleAll own (first ++ rest) = (before.1 ++ behind.1, behind.2) := by
  induction first generalizing station with
  | nil => rfl
  | cons frame first ih =>
      simp only [List.cons_append, handleAll, ih, List.append_assoc]

/-- On a medium of its own a station answers each frame, under the header of the frame. -/
theorem headers_handleAll_own (station : Station) (frames : List Frame) :
    (station.handleAll true frames).1.map Frame.header = frames.map Frame.header := by
  induction frames generalizing station with
  | nil => rfl
  | cons frame frames ih =>
      obtain ⟨reply, after, hhandle⟩ := station.handle_own frame
      rw [handleAll_answered hhandle, List.map_cons, List.map_cons, ih, header_of_handle hhandle]

theorem length_handleAll_own (station : Station) (frames : List Frame) :
    (station.handleAll true frames).1.length = frames.length := by
  simpa only [List.length_map] using congrArg List.length (station.headers_handleAll_own frames)

/-- Whether an answer is an exception, as the master sees it. -/
def refuses (reply : Frame) : Bool := isExceptionCode reply.functionCode

/-- Every answer is counted, and every exception once more. -/
theorem stats_handleAll (own : Bool) (station : Station) (frames : List Frame) :
    let run := station.handleAll own frames
    run.2.stats = { station.stats with
      requests := station.stats.requests + run.1.length
      exceptions := station.stats.exceptions + run.1.countP refuses } := by
  induction frames generalizing station with
  | nil => rfl
  | cons frame frames ih =>
      rcases station.handle_counts own frame with hnone | ⟨response, units, hsome⟩
      · simp only [handleAll, hnone]
        exact ih station
      · simp only [handleAll, hsome]
        have hrefuses : refuses ⟨frame.header, response.encode⟩ = response.isException :=
          response.isExceptionCode_functionCode
        have hcount : (if response.isException = true then 1 else 0) =
            List.countP refuses [⟨frame.header, response.encode⟩] := by
          rw [List.countP_singleton, hrefuses]
        rw [ih, Option.toList_some, List.length_append, List.countP_append, ← hcount]
        simp only [Stats.countAnswer, List.length_singleton, Nat.add_assoc]

/-- What a station does with a frame, by the image that the unit resolves to. -/
structure Handles (own : Bool) (station : Station) (frame : Frame) : Prop where
  resolved : ∀ image, station.units.resolve frame.header.unitId own = some image →
    ∃ response after, Decides image frame response after ∧
      station.handle own frame =
        (some ⟨frame.header, response.encode⟩,
          ⟨station.units.add after, station.stats.countAnswer response⟩)
  refused : station.units.resolve frame.header.unitId own = none → own = true →
    station.handle own frame =
      (some ⟨frame.header, (Response.refusal frame.functionCode .illegalDataAddress).encode⟩,
        ⟨station.units,
          station.stats.countAnswer (.refusal frame.functionCode .illegalDataAddress)⟩)
  ignored : station.units.resolve frame.header.unitId own = none → own = false →
    station.handle own frame = (none, station)
  echoed : ∀ reply ∈ (station.handle own frame).1, reply.header = frame.header ∧
    plainCode reply.functionCode = plainCode frame.functionCode

theorem handles (own : Bool) (station : Station) {frame : Frame} (hpdu : frame.pdu ≠ []) :
    Handles own station frame := by
  refine ⟨fun image hresolve => ?_, fun hresolve hown => ?_, fun hresolve hown => ?_, ?_⟩
  · exact ⟨_, _, answer_decides image hpdu, handle_resolved hresolve⟩
  · rw [handle_unresolved hresolve, if_pos hown]
  · rw [handle_unresolved hresolve, if_neg (by simp [hown])]
  · intro reply hreply
    cases hresolve : station.units.resolve frame.header.unitId own with
    | some image =>
        rw [handle_resolved hresolve] at hreply
        obtain rfl := Option.some.inj hreply
        exact ⟨rfl, (answer_decides image hpdu).code⟩
    | none =>
        rw [handle_unresolved hresolve] at hreply
        split at hreply
        next =>
          obtain rfl := Option.some.inj hreply
          exact ⟨rfl, Response.plainCode_refusal frame.functionCode .illegalDataAddress⟩
        next => contradiction

/-- How a station answers.  Its units stand for themselves, and unit zero for all if it is
alone on a medium of its own.  The answer to a frame is decided by its function code, by
reading its fields and by what the image holds, in this order, and it repeats the header and
the function code.  All answers are counted. -/
theorem handle_classifies (own : Bool) (station : Station) :
    (∀ unit image, station.units.resolve unit own = some image ↔
      station.units.ofUnit? unit = some image ∨
        own = true ∧ station.units.ofUnit? unit = none ∧
          station.units.entries = [(Units.wildcard.toNat, image)]) ∧
      (∀ frame : Frame, frame.pdu ≠ [] → Handles own station frame) ∧
      ∀ frames : List Frame,
        (station.handleAll own frames).2.stats = { station.stats with
          requests := station.stats.requests + (station.handleAll own frames).1.length
          exceptions :=
            station.stats.exceptions + (station.handleAll own frames).1.countP refuses } :=
  ⟨fun unit image => station.units.resolve_eq_some_iff unit own image,
    fun _ hpdu => station.handles own hpdu, stats_handleAll own station⟩

/-- Unit zero is alone, so it answers for unit 17 if the medium is its own; it does not
implement function 43. -/
theorem handle_classifies_unit_zero :
    let image := Image.cleared 0 2
    let station := serving (.ofImages [image])
    let frame : Frame := ⟨⟨7, 0, 17⟩, [43, 14]⟩
    frame.pdu ≠ [] ∧
      (∃ response after, response.reason? = some .illegalFunction ∧
        station.handle true frame =
          (some ⟨⟨7, 0, 17⟩, response.encode⟩,
            ⟨station.units.add after, station.stats.countAnswer response⟩)) ∧
      station.handle false frame = (none, station) := by
  intro image station frame
  have hpdu : frame.pdu ≠ [] := by decide
  obtain ⟨hunits, hframes, -⟩ := handle_classifies true station
  have hresolve : station.units.resolve 17 true = some image :=
    (hunits 17 image).mpr (Or.inr ⟨rfl, rfl, rfl⟩)
  obtain ⟨response, after, hdecides, hhandle⟩ := (hframes frame hpdu).resolved image hresolve
  have hshared := ((handle_classifies false station).2.1 frame hpdu).ignored rfl rfl
  exact ⟨hpdu, ⟨response, after, hdecides.function.mpr rfl, hhandle⟩, hshared⟩

end Station

end Modbus
