import Mathlib.Tactic
import Modbus.Proofs.DirectAccess
import Modbus.Proofs.ResponseCodec

/-!
# Answers of a unit fit the wire

The limits on requests are chosen for the sake of the answers.  Whatever an
image holds, the answer to a request that was read is short enough for every
medium, no count wraps in its field, and the master reads what was meant.
-/

namespace Modbus

/-! ## What a request is answered with -/

namespace Request

/-- What a request finds has the size that was asked for. -/
def Expects : Request → Answer → Prop
  | readCoils _ count, .bits values | readDiscreteInputs _ count, .bits values =>
    values.length = count.toNat
  | readHoldingRegisters _ count, .registers values
  | readInputRegisters _ count, .registers values
  | readWriteMultipleRegisters _ count _ _, .registers values => values.length = count.toNat
  | writeSingleCoil _ value, .coil answer => answer = value
  | readFileRecord records, .records values =>
    List.Forall₂ (fun (span : RecordSpan) (registers : List UInt16) =>
      registers.length = span.length.toNat) records values
  | readFifoQueue _, .registers values => values.length ≤ Limits.fifo
  | writeSingleRegister .., .done | writeMultipleCoils .., .done | writeMultipleRegisters .., .done
  | writeFileRecord _, .done | maskWriteRegister .., .done => True
  | _, _ => False

end Request

namespace Image

theorem length_cells? {image : Image} {kind : TableKind} {reference : UInt16} {count : Nat}
    {cells : List Nat} (hcells : image.cells? kind reference count = some cells) :
    cells.length = count := by
  have hall := (mapM_eq_some_iff _ _ _).mp hcells
  rw [← hall.length_eq, List.length_range']

theorem length_recordCells? {image : Image} {file record : UInt16} {count : Nat}
    {cells : List Nat} (hcells : image.recordCells? file record count = some cells) :
    cells.length = count := by
  unfold recordCells? at hcells
  simp only [Option.bind_eq_bind, Option.bind_eq_some_iff] at hcells
  obtain ⟨found, -, registers, -, hregisters⟩ := hcells
  split at hregisters
  next hlength =>
    rw [← Option.some.inj hregisters, List.length_take]
    omega
  next => contradiction

theorem length_span? {image : Image} {span : RecordSpan} {registers : List UInt16}
    (hspan : image.span? span = some registers) : registers.length = span.length.toNat := by
  obtain ⟨cells, hcells, rfl⟩ := Option.map_eq_some_iff.mp hspan
  rw [List.length_map, length_recordCells? hcells]

theorem perform_expects {image after : Image} {request : Request} {answer : Answer}
    (hperform : image.perform request = some (answer, after)) : request.Expects answer := by
  cases request <;>
    simp only [perform, Option.bind_eq_bind, Option.bind_eq_some_iff, Option.pure_def,
      Option.some.injEq, Prod.mk.injEq, reduceCtorEq] at hperform
  case readCoils reference count =>
    obtain ⟨cells, hcells, rfl, -⟩ := hperform
    exact (List.length_map _).trans (length_cells? hcells)
  case readDiscreteInputs reference count =>
    obtain ⟨cells, hcells, rfl, -⟩ := hperform
    exact (List.length_map _).trans (length_cells? hcells)
  case readHoldingRegisters reference count =>
    obtain ⟨cells, hcells, rfl, -⟩ := hperform
    exact (List.length_map _).trans (length_cells? hcells)
  case readInputRegisters reference count =>
    obtain ⟨cells, hcells, rfl, -⟩ := hperform
    exact (List.length_map _).trans (length_cells? hcells)
  case readFileRecord records =>
    obtain ⟨values, hvalues, rfl, -⟩ := hperform
    exact ((mapM_eq_some_iff _ _ _).mp hvalues).imp fun _ _ hspan => length_span? hspan
  case readWriteMultipleRegisters readReference readCount writeReference values =>
    obtain ⟨targets, -, cells, hcells, rfl, -⟩ := hperform
    exact (List.length_map _).trans (length_cells? hcells)
  case readFifoQueue reference =>
    obtain ⟨fifo, -, rfl, -⟩ := hperform
    exact fifo.bounded
  all_goals
    obtain ⟨-, -, rfl, -⟩ := hperform
    trivial

end Image

/-! ## How large an answer gets -/

namespace Response

/-- Every count that an answer is written with is the true one. -/
def CountsKept : Response → Prop
  | readCoils values | readDiscreteInputs values =>
    (byteCount (Bits.pack values).length).toNat = (Bits.pack values).length
  | readHoldingRegisters values | readInputRegisters values
  | readWriteMultipleRegisters values =>
    (byteCount (values.length * 2)).toNat = values.length * 2
  | readFileRecord records =>
    (byteCount (FileAnswer.dataSize records)).toNat = FileAnswer.dataSize records ∧
      ∀ values ∈ records, (byteCount (1 + 2 * values.length)).toNat = 1 + 2 * values.length
  | writeFileRecord records =>
    (byteCount (RecordData.dataSize records)).toNat = RecordData.dataSize records ∧
      ∀ data ∈ records, (quantityWord data.values.length).toNat = data.values.length
  | readFifoQueue values =>
    (quantityWord (2 + 2 * values.length)).toNat = 2 + 2 * values.length ∧
      (quantityWord values.length).toNat = values.length
  | _ => True

theorem countsKept_of_fits {response : Response} (hfits : response.Fits) :
    response.CountsKept := by
  have hregisters {values : List UInt16} (hvalues : values.length ≤ 127) :
      (byteCount (values.length * 2)).toNat = values.length * 2 :=
    toNat_byteCount (by omega)
  cases response with
  | readCoils values => exact toNat_byteCount_pack hfits
  | readDiscreteInputs values => exact toNat_byteCount_pack hfits
  | readHoldingRegisters values => exact hregisters hfits
  | readInputRegisters values => exact hregisters hfits
  | readWriteMultipleRegisters values => exact hregisters hfits
  | readFileRecord records =>
      have hsize : FileAnswer.dataSize records ≤ 255 := hfits
      refine ⟨toNat_byteCount hsize, fun values hvalues => ?_⟩
      have hone := FileAnswer.size_le_dataSize hvalues
      exact toNat_byteCount (by omega)
  | writeFileRecord records =>
      have hsize : RecordData.dataSize records ≤ 255 := hfits
      refine ⟨toNat_byteCount hsize, fun data hdata => ?_⟩
      have hone := RecordData.size_le_dataSize hdata
      exact toNat_quantityWord (by omega)
  | readFifoQueue values =>
      have hvalues : values.length ≤ 31 := hfits
      exact ⟨toNat_quantityWord (by omega), toNat_quantityWord (by omega)⟩
  | _ => trivial

theorem two_le_length_encode (response : Response) : 2 ≤ response.encode.length := by
  rw [encode, List.length_cons, length_data]
  cases response <;> simp only <;> omega

end Response

/-- An answer repeats how much was written. -/
def Request.Echoed : Request → Response → Prop
  | .writeMultipleCoils _ values, .writeMultipleCoils _ count
  | .writeMultipleRegisters _ values, .writeMultipleRegisters _ count =>
    count.toNat = values.length
  | _, _ => True

/-- What makes an answer to a request safe to send. -/
structure Response.SafeFor (response : Response) (request : Request) : Prop where
  proper : response.Proper
  fits : response.Fits
  short : response.encode.length ≤ Limits.pdu
  echoed : request.Echoed response

namespace Request

theorem responseSize_eq {records : List RecordSpan} {values : List (List UInt16)}
    (hvalues : List.Forall₂ (fun (span : RecordSpan) (registers : List UInt16) =>
      registers.length = span.length.toNat) records values) :
    RecordSpan.responseSize records = 2 + FileAnswer.dataSize values := by
  induction hvalues with
  | nil => rfl
  | @cons span registers records values hlength _ ih =>
      have hsize : RecordSpan.responseSize (span :: records) =
          2 + 2 * span.length.toNat + RecordSpan.responseSize records := rfl
      rw [hsize, ih, FileAnswer.dataSize_cons, hlength]
      omega

/-- The limits on a request are enough for its answer. -/
theorem reply_safe {request : Request} {answer : Answer} (hvalid : request.Valid)
    (hexpects : request.Expects answer) : (request.reply answer).SafeFor request := by
  have hlength (response : Response) :
      response.encode.length = 1 + response.data.length := by
    rw [Response.encode, List.length_cons, Nat.add_comm]
  cases request <;> cases answer <;> simp only [Expects] at hexpects
  case readFileRecord.records records values =>
    obtain ⟨-, -, hsize⟩ := hvalid
    rw [responseSize_eq hexpects] at hsize
    simp only [Limits.pdu] at hsize
    refine ⟨trivial, ?_, ?_, trivial⟩
    · simp only [reply, Response.Fits]
      omega
    · rw [hlength, Response.length_data]
      simp only [reply, Limits.pdu]
      omega
  all_goals
    simp only [Valid, Limits.readBits, Limits.readRegisters, Limits.writeCoils,
      Limits.writeRegisters, Limits.pdu, Limits.fifo] at hvalid hexpects
    refine ⟨trivial, ?_, ?_, ?_⟩
    · simp only [reply, Response.Fits, Limits.fifo]
      try omega
    · rw [hlength, Response.length_data]
      simp only [reply, Limits.pdu]
      omega
    · simp only [reply, Echoed]
      try exact toNat_quantityWord (by omega)

theorem refusal_safe (request : Request) (reason : ExceptionCode)
    (hreason : ∃ octet, reason = ExceptionCode.ofOctet octet) :
    (Response.refusal request.functionCode reason).SafeFor request where
  proper := ⟨plainCode_lt request.functionCode, hreason⟩
  fits := trivial
  short := by
    show (2 : Nat) ≤ Limits.pdu
    decide
  echoed := by cases request <;> trivial

end Request

theorem Image.respond_unsupported (image : Image) (code : UInt8) (data : List UInt8) :
    image.respond (.unsupported code data) = (.refusal code .illegalFunction, image) := rfl

/-- Whatever an image holds, its answer to a valid request is safe to send. -/
theorem Image.respond_safe (image : Image) {request : Request} (hvalid : request.Valid) :
    (image.respond request).1.SafeFor request := by
  cases hfunction : request.function? with
  | none =>
      cases request with
      | unsupported code data =>
          rw [respond_unsupported]
          exact Request.refusal_safe (.unsupported code data) .illegalFunction ⟨1, rfl⟩
      | _ => contradiction
  | some function =>
      rw [respond_eq hvalid (by rw [hfunction]; rfl)]
      cases hperform : image.perform request with
      | none => exact request.refusal_safe .illegalDataAddress ⟨2, rfl⟩
      | some outcome => exact Request.reply_safe hvalid (perform_expects hperform)

/-- The answer of any image to octets that are read as a request fits every
frame, is written with true counts, and is read back as what it was, with bits
filled up to whole octets. -/
theorem Image.respond_fits_wire (image : Image) {octets : List UInt8} {request : Request}
    (hread : Request.decode octets = .ok request) :
    let response := (image.respond request).1
    (2 ≤ response.encode.length ∧ response.encode.length ≤ Limits.pdu) ∧
      response.CountsKept ∧ request.Echoed response ∧
      Response.decode response.encode = .ok response.padded := by
  intro response
  obtain ⟨-, hvalid, -⟩ := (Request.decode_eq_ok_iff octets request).mp hread
  have hsafe : response.SafeFor request :=
    image.respond_safe ((Request.validate_eq_ok_iff request ()).mp hvalid)
  exact ⟨⟨response.two_le_length_encode, hsafe.short⟩, Response.countsKept_of_fits hsafe.fits,
    hsafe.echoed, Response.decode_encode_of_fits hsafe.proper hsafe.fits⟩

/-- Ten coils travel in two octets, of which the last one is filled up. -/
theorem Image.respond_fits_wire_ten_coils :
    let image := (Image.empty 1).placeBits .coil (List.replicate 10 (some true))
    let response := (image.respond (.readCoils 0 10)).1
    Request.decode [1, 0, 0, 0, 10] = .ok (.readCoils 0 10) ∧
      response.encode = [1, 2, 255, 3] ∧
      Response.decode response.encode =
        .ok (.readCoils (List.replicate 10 true ++ List.replicate 6 false)) := by
  intro image response
  have hread : Request.decode [1, 0, 0, 0, 10] = .ok (.readCoils 0 10) := by decide
  have hresponse : response = .readCoils (List.replicate 10 true) := by decide
  obtain ⟨-, -, -, hdecode⟩ := image.respond_fits_wire hread
  refine ⟨hread, ?_, hdecode.trans ?_⟩
  · rw [hresponse]
    decide +kernel
  · show Except.ok response.padded = _
    rw [hresponse]
    decide

end Modbus
