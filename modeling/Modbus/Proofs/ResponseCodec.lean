import Mathlib.Tactic
import Modbus.Proofs.RequestCodec
import Modbus.Response.Codec

/-!
# Reading what was written: answers

An answer is read from exactly one row of octets, the one that writing yields.
Written answers are read back if their counts fit the fields; bits come back
filled up to whole octets.
-/

namespace Modbus

/-! ## Function codes with and without the exception bit -/

theorem UInt8.forall_of_fin (property : UInt8 → Prop)
    (hfin : ∀ value : Fin 256, property (UInt8.ofNat value)) (octet : UInt8) :
    property octet := by
  have hvalue := hfin ⟨octet.toNat, octet.toNat_lt⟩
  simpa using hvalue

theorem isExceptionCode_exceptionCode (code : UInt8) :
    isExceptionCode (exceptionCode code) = true :=
  UInt8.forall_of_fin (fun code => isExceptionCode (exceptionCode code) = true)
    (by decide +kernel) code

theorem plainCode_exceptionCode {code : UInt8} (hcode : code < 0x80) :
    plainCode (exceptionCode code) = code :=
  UInt8.forall_of_fin (fun code => code < 0x80 → plainCode (exceptionCode code) = code)
    (by decide +kernel) code hcode

theorem plainCode_lt (code : UInt8) : plainCode code < 0x80 :=
  UInt8.forall_of_fin (fun code => plainCode code < 0x80) (by decide +kernel) code

theorem exceptionCode_plainCode {code : UInt8} (hcode : isExceptionCode code = true) :
    exceptionCode (plainCode code) = code :=
  UInt8.forall_of_fin
    (fun code => isExceptionCode code = true → exceptionCode (plainCode code) = code)
    (by decide +kernel) code hcode

theorem isExceptionCode_code (function : Function) : isExceptionCode function.code = false := by
  cases function <;> rfl

/-! ## Spans of files -/

namespace FileAnswer

theorem length_encode (values : List UInt16) :
    (FileAnswer.encode values).length = 2 + 2 * values.length := by
  simp only [FileAnswer.encode, List.length_cons, Words.length_toOctets]
  omega

theorem dataSize_cons (values : List UInt16) (records : List (List UInt16)) :
    FileAnswer.dataSize (values :: records) =
      2 + 2 * values.length + FileAnswer.dataSize records := rfl

theorem length_flatMap_encode (records : List (List UInt16)) :
    (records.flatMap FileAnswer.encode).length = FileAnswer.dataSize records := by
  induction records with
  | nil => rfl
  | cons values records ih =>
      rw [List.flatMap_cons, List.length_append, ih, length_encode, dataSize_cons]

theorem size_le_dataSize {values : List UInt16} {records : List (List UInt16)}
    (hvalues : values ∈ records) :
    2 + 2 * values.length ≤ FileAnswer.dataSize records := by
  induction records with
  | nil => simp at hvalues
  | cons first records ih =>
      rw [dataSize_cons]
      rcases List.mem_cons.mp hvalues with rfl | hrest
      · omega
      · have := ih hrest
        omega

theorem reads_parse :
    FileAnswer.parse.Reads fun values octets =>
      1 + 2 * values.length ≤ 255 ∧ octets = FileAnswer.encode values := by
  unfold FileAnswer.parse
  refine (Payload.reads_octet.bind fun length =>
    (Payload.reads_octet.bind fun type =>
      (Parse.Reads.check (checkReferenceType type)).bind fun _ =>
      Payload.reads_words ((length.toNat - 1) / 2)).guarded).congr ?_
  intro values octets
  simp only [checkReferenceType_eq_ok_iff]
  constructor
  · rintro ⟨length, _, _, rfl, ⟨hodd, type, _, _, rfl, ⟨_, _, _, ⟨rfl, rfl⟩, ⟨rfl, hcount⟩, rfl⟩,
      rfl⟩, rfl⟩
    have hbound := length.toNat_lt
    have hlength : 1 + 2 * values.length = length.toNat := by omega
    refine ⟨by omega, ?_⟩
    simp [FileAnswer.encode, hlength]
  · rintro ⟨hlength, rfl⟩
    have hcount : (byteCount (1 + 2 * values.length)).toNat = 1 + 2 * values.length :=
      toNat_byteCount hlength
    refine ⟨byteCount (1 + 2 * values.length), _, _, rfl, ⟨by omega, fileReferenceType, _, _, rfl,
      ⟨(), _, _, ⟨rfl, rfl⟩, ⟨rfl, by omega⟩, rfl⟩, rfl⟩, ?_⟩
    simp [FileAnswer.encode]

end FileAnswer

namespace Response

/-- The counts of an answer fit the fields that they are written to. -/
def Fits : Response → Prop
  | readCoils values | readDiscreteInputs values => values.length ≤ 2040
  | readHoldingRegisters values | readInputRegisters values
  | readWriteMultipleRegisters values => values.length ≤ 127
  | readFileRecord records => FileAnswer.dataSize records ≤ 255
  | writeFileRecord records => RecordData.dataSize records ≤ 255
  | readFifoQueue values => values.length ≤ Limits.fifo
  | _ => True

/-- An exception names a function without the exception bit, and a reason that
an octet stands for. -/
def Proper : Response → Prop
  | exception code reason => code < 0x80 ∧ ∃ octet, reason = ExceptionCode.ofOctet octet
  | _ => True

/-- An answer as its reader sees it: bits come in whole octets. -/
def padded : Response → Response
  | readCoils values => readCoils (Bits.pad values)
  | readDiscreteInputs values => readDiscreteInputs (Bits.pad values)
  | response => response

/-- The function that an answer belongs to, unless it is an exception. -/
def function? : Response → Option Function
  | readCoils .. => some .readCoils
  | readDiscreteInputs .. => some .readDiscreteInputs
  | readHoldingRegisters .. => some .readHoldingRegisters
  | readInputRegisters .. => some .readInputRegisters
  | writeSingleCoil .. => some .writeSingleCoil
  | writeSingleRegister .. => some .writeSingleRegister
  | writeMultipleCoils .. => some .writeMultipleCoils
  | writeMultipleRegisters .. => some .writeMultipleRegisters
  | readFileRecord .. => some .readFileRecord
  | writeFileRecord .. => some .writeFileRecord
  | maskWriteRegister .. => some .maskWriteRegister
  | readWriteMultipleRegisters .. => some .readWriteMultipleRegisters
  | readFifoQueue .. => some .readFifoQueue
  | exception .. => none

/-- The fields of an answer can be read back as they are. -/
def Readable (response : Response) : Prop :=
  response.Fits ∧ response.padded = response

theorem reads_parseBits :
    parseBits.Reads fun values octets =>
      (values.length ≤ 2040 ∧ Bits.pad values = values) ∧
        octets = byteCount (Bits.pack values).length :: Bits.pack values := by
  unfold parseBits
  refine (Payload.reads_octet.bind fun bytes => (Payload.reads_octets bytes.toNat).bind
    fun packed => Parse.Reads.pure _).congr ?_
  intro values octets
  constructor
  · rintro ⟨bytes, _, _, rfl, ⟨_, packed, _, ⟨rfl, hpacked⟩, ⟨rfl, rfl⟩, rfl⟩, rfl⟩
    have hbound := bytes.toNat_lt
    rw [← hpacked, Bits.unpack_all, Bits.pack_flatMap_ofOctet, hpacked]
    refine ⟨⟨?_, ?_⟩, by simp⟩
    · rw [Bits.length_flatMap_ofOctet]
      omega
    · apply Bits.pad_of_dvd
      simp
  · rintro ⟨⟨hlength, hpad⟩, rfl⟩
    have hpacked := toNat_byteCount_pack hlength
    refine ⟨_, _, _, rfl, ⟨_, Bits.pack values, _, ⟨rfl, hpacked.symm⟩, ⟨?_, rfl⟩, rfl⟩, by simp⟩
    rw [hpacked, Bits.unpack_all, Bits.flatMap_ofOctet_pack, hpad]

theorem reads_parseRegisters :
    parseRegisters.Reads fun values octets =>
      values.length ≤ 127 ∧ octets = byteCount (values.length * 2) :: Words.toOctets values := by
  unfold parseRegisters
  refine (Payload.reads_octet.bind fun bytes =>
    (Payload.reads_words (bytes.toNat / 2)).guarded).congr ?_
  intro values octets
  constructor
  · rintro ⟨bytes, _, _, rfl, ⟨heven, rfl, hcount⟩, rfl⟩
    have hbound := bytes.toNat_lt
    have hbytes : values.length * 2 = bytes.toNat := by omega
    refine ⟨by omega, ?_⟩
    rw [hbytes, byteCount_toNat]
    rfl
  · rintro ⟨hlength, rfl⟩
    have hbytes : (byteCount (values.length * 2)).toNat = values.length * 2 :=
      toNat_byteCount (by omega)
    exact ⟨_, _, _, rfl, ⟨by omega, rfl, by omega⟩, rfl⟩

theorem reads_readFileRecord :
    (parse .readFileRecord).Reads fun response octets =>
      ∃ records, response = readFileRecord records ∧ response.Fits ∧ octets = response.data := by
  simp only [parse]
  have hsome : ∀ values, FileAnswer.encode values ≠ [] := by
    simp [FileAnswer.encode]
  refine (Payload.reads_octet.bind fun bytes => (Payload.reads_octets bytes.toNat).bind fun body =>
    (Payload.reads_within_untilEnd FileAnswer.reads_parse hsome body).bind fun records =>
    Parse.Reads.pure _).congr ?_
  intro response octets
  constructor
  · rintro ⟨bytes, _, _, rfl, ⟨_, body, _, ⟨rfl, hlength⟩, ⟨records, _, _, ⟨hvalid, hbody, rfl⟩,
      ⟨rfl, rfl⟩, rfl⟩, rfl⟩, rfl⟩
    have hsize : FileAnswer.dataSize records = bytes.toNat := by
      rw [← FileAnswer.length_flatMap_encode, ← hbody, hlength]
    have hbound := bytes.toNat_lt
    refine ⟨records, rfl, ?_, ?_⟩
    · simp only [Fits]
      omega
    · rw [data, hsize, byteCount_toNat, ← hbody]
      simp
  · rintro ⟨records, rfl, hsize, rfl⟩
    have hlength : (records.flatMap FileAnswer.encode).length =
        (byteCount (FileAnswer.dataSize records)).toNat := by
      rw [FileAnswer.length_flatMap_encode, toNat_byteCount hsize]
    refine ⟨_, _, _, rfl, ⟨_, _, _, ⟨rfl, hlength⟩, ⟨records, _, _, ⟨?_, rfl, rfl⟩, ⟨rfl, rfl⟩,
      rfl⟩, rfl⟩, by simp [data]⟩
    intro values hvalues
    have := FileAnswer.size_le_dataSize hvalues
    simp only [Fits] at hsize
    omega

theorem reads_readFifoQueue :
    (parse .readFifoQueue).Reads fun response octets =>
      ∃ values, response = readFifoQueue values ∧ response.Fits ∧ octets = response.data := by
  simp only [parse]
  refine (Payload.reads_word.bind fun bytes => Payload.reads_word.bind fun count =>
    ((Payload.reads_words count.toNat).bind fun values => Parse.Reads.pure _).guarded).congr ?_
  intro response octets
  constructor
  · rintro ⟨bytes, _, _, rfl, ⟨count, _, _, rfl, ⟨hcounts, values, _, _, ⟨rfl, hlength⟩,
      ⟨rfl, rfl⟩, rfl⟩, rfl⟩, rfl⟩
    have hbytes : 2 + 2 * values.length = bytes.toNat := by omega
    refine ⟨values, rfl, ?_, ?_⟩
    · simp only [Fits]
      omega
    · rw [data, hbytes, hlength, quantityWord_toNat, quantityWord_toNat]
      simp
  · rintro ⟨values, rfl, hfits, rfl⟩
    simp only [Fits, Limits.fifo] at hfits ⊢
    have hcount : (quantityWord values.length).toNat = values.length :=
      toNat_quantityWord (by omega)
    have hbytes : (quantityWord (2 + 2 * values.length)).toNat = 2 + 2 * values.length :=
      toNat_quantityWord (by omega)
    refine ⟨quantityWord (2 + 2 * values.length), _, _, rfl, ⟨quantityWord values.length, _, _,
      rfl, ⟨by omega, values, _, _, ⟨rfl, hcount.symm⟩, ⟨rfl, rfl⟩, rfl⟩, rfl⟩, ?_⟩
    simp [data]

/-- A step that builds an answer from what another step reads. -/
theorem reads_built {α : Type} {item : Parse α} {valid : α → Prop} {encode : α → List UInt8}
    (hitem : item.Reads fun value octets => valid value ∧ octets = encode value)
    (build : α → Response) :
    (item >>= fun value => pure (build value)).Reads fun response octets =>
      ∃ value, response = build value ∧ valid value ∧ octets = encode value := by
  refine (hitem.bind fun value => Parse.Reads.pure (build value)).congr ?_
  intro response octets
  constructor
  · rintro ⟨value, _, _, ⟨hvalid, rfl⟩, ⟨rfl, rfl⟩, rfl⟩
    exact ⟨value, rfl, hvalid, by simp⟩
  · rintro ⟨value, rfl, hvalid, rfl⟩
    exact ⟨value, _, _, ⟨hvalid, rfl⟩, ⟨rfl, rfl⟩, by simp⟩

/-- What reading the fields of a function yields is an answer of that function
that fits its fields, and it was read from the octets that it is written as. -/
theorem reads_parse (function : Function) :
    (parse function).Reads fun response octets =>
      response.function? = some function ∧ response.Readable ∧ octets = response.data := by
  cases function with
  | readCoils =>
      refine (reads_built reads_parseBits readCoils).congr fun response octets => ?_
      cases response <;> simp [function?, Readable, Fits, padded, data]
  | readDiscreteInputs =>
      refine (reads_built reads_parseBits readDiscreteInputs).congr fun response octets => ?_
      cases response <;> simp [function?, Readable, Fits, padded, data]
  | readHoldingRegisters =>
      refine (reads_built reads_parseRegisters readHoldingRegisters).congr fun response octets => ?_
      cases response <;> simp [function?, Readable, Fits, padded, data]
  | readInputRegisters =>
      refine (reads_built reads_parseRegisters readInputRegisters).congr fun response octets => ?_
      cases response <;> simp [function?, Readable, Fits, padded, data]
  | readWriteMultipleRegisters =>
      refine (reads_built reads_parseRegisters readWriteMultipleRegisters).congr
        fun response octets => ?_
      cases response <;> simp [function?, Readable, Fits, padded, data]
  | writeSingleCoil =>
      refine (Payload.reads_coil writeSingleCoil).congr fun response octets => ?_
      cases response <;> simp [function?, Readable, Fits, padded, data, -Bool.exists_bool]
  | writeSingleRegister =>
      refine (Payload.reads_pair writeSingleRegister).congr fun response octets => ?_
      cases response <;> simp [function?, Readable, Fits, padded, data]
  | writeMultipleCoils =>
      refine (Payload.reads_pair writeMultipleCoils).congr fun response octets => ?_
      cases response <;> simp [function?, Readable, Fits, padded, data]
  | writeMultipleRegisters =>
      refine (Payload.reads_pair writeMultipleRegisters).congr fun response octets => ?_
      cases response <;> simp [function?, Readable, Fits, padded, data]
  | readFileRecord =>
      refine reads_readFileRecord.congr fun response octets => ?_
      cases response <;> simp [function?, Readable, padded]
  | writeFileRecord =>
      refine (reads_built RecordData.reads_parseAll writeFileRecord).congr
        fun response octets => ?_
      cases response <;> simp [function?, Readable, Fits, padded, data]
  | maskWriteRegister =>
      refine (Payload.reads_triple maskWriteRegister).congr fun response octets => ?_
      cases response <;> simp [function?, Readable, Fits, padded, data]
  | readFifoQueue =>
      refine reads_readFifoQueue.congr fun response octets => ?_
      cases response <;> simp [function?, Readable, padded]

theorem code_of_function? {response : Response} {function : Function}
    (hfunction : response.function? = some function) :
    response.functionCode = function.code := by
  cases response <;> cases hfunction <;> rfl

theorem reads_parseException (code : UInt8) :
    (parseException code).Reads fun response octets =>
      ∃ octet, response = refusal code (ExceptionCode.ofOctet octet) ∧ octets = [octet] := by
  unfold parseException
  refine (Payload.reads_octet.bind fun reason => Parse.Reads.pure _).congr ?_
  intro response octets
  simp

/-- Octets are read as an answer if and only if they are what it is written as
and it can be read back. -/
theorem decode_eq_ok_iff (octets : List UInt8) (response : Response) :
    decode octets = .ok response ↔
      response.Proper ∧ response.Readable ∧ octets = response.encode := by
  cases octets with
  | nil => simp [decode, encode]
  | cons code payload =>
      cases hexception : isExceptionCode code with
      | true =>
          simp only [decode, hexception, if_true]
          rw [Payload.run_eq_ok_iff (reads_parseException code)]
          constructor
          · rintro ⟨octet, rfl, rfl⟩
            refine ⟨⟨plainCode_lt code, octet, rfl⟩, ⟨trivial, rfl⟩, ?_⟩
            simp [refusal, encode, functionCode, data, exceptionCode_plainCode hexception,
              ExceptionCode.toOctet_ofOctet]
          · rintro ⟨hproper, -, hencode⟩
            obtain ⟨rfl, rfl⟩ := List.cons.inj hencode
            cases response with
            | exception code' reason =>
                obtain ⟨hcode, octet, rfl⟩ := hproper
                refine ⟨octet, ?_, ?_⟩
                · simp [refusal, functionCode, plainCode_exceptionCode hcode]
                · simp [data, ExceptionCode.toOctet_ofOctet]
            | _ => simp [functionCode, isExceptionCode_code] at hexception
      | false =>
          simp only [decode, hexception, Bool.false_eq_true, if_false]
          cases hcode : Function.ofCode? code with
          | none =>
              simp only [reduceCtorEq, false_iff]
              rintro ⟨-, -, hencode⟩
              obtain ⟨rfl, rfl⟩ := List.cons.inj hencode
              cases response with
              | exception code reason =>
                  simp [functionCode, isExceptionCode_exceptionCode] at hexception
              | _ => simp [functionCode, Function.ofCode?_code] at hcode
          | some function =>
              simp only
              rw [Payload.run_eq_ok_iff (reads_parse function)]
              constructor
              · rintro ⟨hfunction, hreadable, rfl⟩
                refine ⟨?_, hreadable, ?_⟩
                · cases response <;> trivial
                · rw [encode, code_of_function? hfunction, Function.code_of_ofCode? hcode]
              · rintro ⟨-, hreadable, hencode⟩
                obtain ⟨rfl, rfl⟩ := List.cons.inj hencode
                refine ⟨?_, hreadable, rfl⟩
                cases response with
                | exception code reason =>
                    simp [functionCode, isExceptionCode_exceptionCode] at hexception
                | _ => exact (Function.ofCode?_code _).symm.trans hcode

/-! ## Written answers -/

theorem function?_eq (response : Response) :
    response.function? =
      if isExceptionCode response.functionCode then none
      else Function.ofCode? response.functionCode := by
  cases response <;>
    simp [functionCode, function?, isExceptionCode_exceptionCode, isExceptionCode_code,
      Function.ofCode?_code]

theorem length_data (response : Response) :
    response.data.length =
      match response with
      | readCoils values | readDiscreteInputs values => 1 + (values.length + 7) / 8
      | readHoldingRegisters values | readInputRegisters values
      | readWriteMultipleRegisters values => 1 + 2 * values.length
      | writeSingleCoil .. | writeSingleRegister .. | writeMultipleCoils ..
      | writeMultipleRegisters .. => 4
      | readFileRecord records => 1 + FileAnswer.dataSize records
      | writeFileRecord records => 1 + RecordData.dataSize records
      | maskWriteRegister .. => 6
      | readFifoQueue values => 4 + 2 * values.length
      | exception .. => 1 := by
  cases response <;>
    simp only [data, RecordData.encodeAll, List.length_cons, List.length_nil, Bits.length_pack,
      Words.length_toOctets, FileAnswer.length_flatMap_encode,
      RecordData.length_flatMap_encode] <;>
    omega

/-- If an answer is written as long as one that fits, then it fits too. -/
theorem fits_of_length_data {response other : Response}
    (hsame : response.function? = other.function?)
    (hlength : response.data.length = other.data.length) (hfits : other.Fits) :
    response.Fits := by
  rw [length_data, length_data] at hlength
  cases response <;> cases other <;>
    simp only [function?, Option.some.injEq, reduceCtorEq] at hsame <;>
    simp only [Fits, Limits.fifo] at hfits hlength ⊢ <;>
    omega

theorem encode_padded (response : Response) : response.padded.encode = response.encode := by
  cases response <;>
    simp [padded, encode, functionCode, data, ← Bits.flatMap_ofOctet_pack,
      Bits.pack_flatMap_ofOctet]

theorem proper_padded {response : Response} (hproper : response.Proper) :
    response.padded.Proper := by
  cases response <;> exact hproper

theorem readable_padded {response : Response} (hfits : response.Fits) :
    response.padded.Readable := by
  cases response with
  | readCoils values =>
      refine ⟨?_, ?_⟩
      · simp only [padded, Fits, Bits.length_pad] at hfits ⊢
        omega
      · rw [padded, padded, Bits.pad_of_dvd (by simp)]
  | readDiscreteInputs values =>
      refine ⟨?_, ?_⟩
      · simp only [padded, Fits, Bits.length_pad] at hfits ⊢
        omega
      · rw [padded, padded, Bits.pad_of_dvd (by simp)]
  | _ => exact ⟨hfits, rfl⟩

theorem decode_encode_of_fits {response : Response} (hproper : response.Proper)
    (hfits : response.Fits) : decode response.encode = .ok response.padded := by
  rw [decode_eq_ok_iff]
  exact ⟨proper_padded hproper, readable_padded hfits, (encode_padded response).symm⟩

/-- What is read as an answer is what the answer is written as.  A written
answer is read if and only if its counts fit their fields, and then with its
bits filled up to whole octets. -/
theorem decode_encode_iff_fits :
    (∀ octets response, decode octets = .ok response → response.encode = octets) ∧
      ∀ response result : Response, response.Proper →
        (decode response.encode = .ok result ↔ response.Fits ∧ result = response.padded) := by
  constructor
  · intro octets response hread
    exact ((decode_eq_ok_iff octets response).mp hread).2.2.symm
  · intro response result hproper
    constructor
    · intro hread
      obtain ⟨-, ⟨hresult, -⟩, hencode⟩ := (decode_eq_ok_iff _ _).mp hread
      obtain ⟨hcode, hdata⟩ := List.cons.inj hencode
      have hsame : response.function? = result.function? := by
        rw [function?_eq, hcode, ← function?_eq]
      have hfits := fits_of_length_data hsame (congrArg List.length hdata) hresult
      rw [decode_encode_of_fits hproper hfits] at hread
      exact ⟨hfits, (Except.ok.inj hread).symm⟩
    · rintro ⟨hfits, rfl⟩
      exact decode_encode_of_fits hproper hfits

/-- Ten coils come back as sixteen, and thirty-two values of a queue do not
come back at all. -/
theorem decode_encode_coils_and_queue :
    (readCoils (List.replicate 10 true)).Proper ∧
      decode (readCoils (List.replicate 10 true)).encode =
        .ok (readCoils (List.replicate 10 true ++ List.replicate 6 false)) ∧
      (readFifoQueue (List.replicate 32 7)).Proper ∧
      ∀ result, decode (readFifoQueue (List.replicate 32 7)).encode ≠ .ok result := by
  have hcoils : (readCoils (List.replicate 10 true)).Proper := trivial
  have hqueue : (readFifoQueue (List.replicate 32 7)).Proper := trivial
  refine ⟨hcoils, ?_, hqueue, ?_⟩
  · exact (decode_encode_iff_fits.2 _ _ hcoils).mpr ⟨by simp [Fits], rfl⟩
  · intro result hread
    have hfits := ((decode_encode_iff_fits.2 _ _ hqueue).mp hread).1
    simp [Fits, Limits.fifo] at hfits

end Response

end Modbus
