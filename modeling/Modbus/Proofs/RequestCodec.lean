import Mathlib.Tactic
import Modbus.Proofs.Packing
import Modbus.Proofs.Reading
import Modbus.Request.Codec

/-!
# Reading what was written: requests
-/

namespace Modbus

/-! ## Checked fields -/

theorem coilOfWord_eq_ok_iff (word : UInt16) (value : Bool) :
    coilOfWord word = .ok value ↔ word = coilWord value := by
  unfold coilOfWord coilWord
  cases value <;> split <;> simp_all
  split <;> simp_all

theorem checkReferenceType_eq_ok_iff (type : UInt8) (done : Unit) :
    checkReferenceType type = .ok done ↔ type = fileReferenceType := by
  unfold checkReferenceType
  split <;> simp_all

theorem checkByteCount_eq_ok_iff (declared expected : Nat) (done : Unit) :
    checkByteCount declared expected = .ok done ↔ declared = expected := by
  unfold checkByteCount
  split <;> simp_all

theorem Quantity.check_eq_ok_iff (quantity : Quantity) (count most : Nat) (done : Unit) :
    quantity.check count most = .ok done ↔ 1 ≤ count ∧ count ≤ most := by
  unfold Quantity.check
  split
  · simp
    omega
  · simp
    omega

theorem toNat_byteCount {count : Nat} (hcount : count ≤ 255) :
    (byteCount count).toNat = count := by
  rw [byteCount, UInt8.toNat_ofNat']
  exact Nat.mod_eq_of_lt (by omega)

theorem toNat_byteCount_pack {values : List Bool} (hvalues : values.length ≤ 2040) :
    (byteCount (Bits.pack values).length).toNat = (Bits.pack values).length := by
  apply toNat_byteCount
  rw [Bits.length_pack]
  omega

theorem toNat_quantityWord {count : Nat} (hcount : count ≤ 65535) :
    (quantityWord count).toNat = count := by
  rw [quantityWord, UInt16.toNat_ofNat']
  exact Nat.mod_eq_of_lt (by omega)

@[simp] theorem byteCount_toNat (octet : UInt8) : byteCount octet.toNat = octet := by
  simp [byteCount]

@[simp] theorem quantityWord_toNat (word : UInt16) : quantityWord word.toNat = word := by
  simp [quantityWord]

/-! ## Rows of fields -/

theorem Payload.reads_pair {α : Type} (build : UInt16 → UInt16 → α) :
    (word >>= fun first => word >>= fun second => pure (build first second)).Reads
      fun result octets => ∃ first second,
        result = build first second ∧ octets = Words.toOctets [first, second] := by
  refine (reads_word.bind fun first => reads_word.bind fun second => Parse.Reads.pure _).congr ?_
  intro result octets
  simp

theorem Payload.reads_triple {α : Type} (build : UInt16 → UInt16 → UInt16 → α) :
    (word >>= fun first => word >>= fun second => word >>= fun third =>
      pure (build first second third)).Reads
      fun result octets => ∃ first second third,
        result = build first second third ∧ octets = Words.toOctets [first, second, third] := by
  refine (reads_word.bind fun first => reads_word.bind fun second =>
    reads_word.bind fun third => Parse.Reads.pure _).congr ?_
  intro result octets
  simp

theorem Payload.reads_coil {α : Type} (build : UInt16 → Bool → α) :
    (word >>= fun reference => word >>= fun state =>
      monadLift (coilOfWord state) >>= fun value => pure (build reference value) : Parse α).Reads
      fun result octets => ∃ reference value,
        result = build reference value ∧
          octets = Words.toOctets [reference, coilWord value] := by
  refine (reads_word.bind fun reference => reads_word.bind fun state =>
    (Parse.Reads.check (coilOfWord state)).bind fun value => Parse.Reads.pure _).congr ?_
  intro result octets
  simp only [coilOfWord_eq_ok_iff]
  constructor
  · rintro ⟨reference, _, _, rfl, ⟨state, _, _, rfl, ⟨value, _, _, ⟨rfl, rfl⟩, ⟨rfl, rfl⟩, rfl⟩,
      rfl⟩, rfl⟩
    exact ⟨reference, value, rfl, by simp⟩
  · rintro ⟨reference, value, rfl, rfl⟩
    exact ⟨reference, _, _, rfl, ⟨coilWord value, _, _, rfl, ⟨value, _, _, ⟨rfl, rfl⟩,
      ⟨rfl, rfl⟩, rfl⟩, rfl⟩, by simp⟩

/-! ## Records -/

theorem RecordSpan.reads_parse :
    RecordSpan.parse.Reads fun span octets => True ∧ octets = span.encode := by
  unfold RecordSpan.parse
  refine (Payload.reads_octet.bind fun type =>
    (Parse.Reads.check (checkReferenceType type)).bind fun _ =>
    Payload.reads_word.bind fun file => Payload.reads_word.bind fun record =>
    Payload.reads_word.bind fun length => Parse.Reads.pure _).congr ?_
  intro span octets
  simp only [checkReferenceType_eq_ok_iff]
  constructor
  · rintro ⟨type, _, _, rfl, ⟨_, _, _, ⟨rfl, rfl⟩, ⟨file, _, _, rfl, ⟨record, _, _, rfl,
      ⟨length, _, _, rfl, ⟨rfl, rfl⟩, rfl⟩, rfl⟩, rfl⟩, rfl⟩, rfl⟩
    simp [RecordSpan.encode]
  · rintro ⟨-, rfl⟩
    refine ⟨fileReferenceType, _, _, rfl, ⟨(), _, _, ⟨rfl, rfl⟩, ⟨span.file, _, _, rfl,
      ⟨span.record, _, _, rfl, ⟨span.length, _, _, rfl, ⟨rfl, rfl⟩, rfl⟩, rfl⟩, rfl⟩, rfl⟩, ?_⟩
    simp [RecordSpan.encode]

theorem RecordSpan.length_flatMap_encode (records : List RecordSpan) :
    (records.flatMap RecordSpan.encode).length = records.length * 7 := by
  induction records with
  | nil => rfl
  | cons span records ih =>
      rw [List.flatMap_cons, List.length_append, ih, List.length_cons]
      simp only [RecordSpan.encode, List.length_cons, Words.length_toOctets, List.length_nil]
      omega

theorem RecordData.length_encode (data : RecordData) :
    data.encode.length = 7 + 2 * data.values.length := by
  simp only [RecordData.encode, List.length_cons, Words.length_toOctets]
  omega

theorem RecordData.dataSize_cons (data : RecordData) (records : List RecordData) :
    RecordData.dataSize (data :: records) =
      7 + 2 * data.values.length + RecordData.dataSize records := rfl

theorem RecordData.length_flatMap_encode (records : List RecordData) :
    (records.flatMap RecordData.encode).length = RecordData.dataSize records := by
  induction records with
  | nil => rfl
  | cons data records ih =>
      rw [List.flatMap_cons, List.length_append, ih, RecordData.length_encode,
        RecordData.dataSize_cons]

theorem RecordData.size_le_dataSize {data : RecordData} {records : List RecordData}
    (hdata : data ∈ records) :
    7 + 2 * data.values.length ≤ RecordData.dataSize records := by
  induction records with
  | nil => simp at hdata
  | cons first records ih =>
      rw [RecordData.dataSize_cons]
      rcases List.mem_cons.mp hdata with rfl | hrest
      · omega
      · have := ih hrest
        omega

theorem RecordData.reads_parse :
    RecordData.parse.Reads fun data octets =>
      data.values.length ≤ 65535 ∧ octets = data.encode := by
  unfold RecordData.parse
  refine (Payload.reads_octet.bind fun type =>
    (Parse.Reads.check (checkReferenceType type)).bind fun _ =>
    Payload.reads_word.bind fun file => Payload.reads_word.bind fun record =>
    Payload.reads_word.bind fun length => (Payload.reads_words length.toNat).bind fun values =>
    Parse.Reads.pure _).congr ?_
  intro data octets
  simp only [checkReferenceType_eq_ok_iff]
  constructor
  · rintro ⟨type, _, _, rfl, ⟨_, _, _, ⟨rfl, rfl⟩, ⟨file, _, _, rfl, ⟨record, _, _, rfl,
      ⟨length, _, _, rfl, ⟨values, _, _, ⟨rfl, hlength⟩, ⟨rfl, rfl⟩, rfl⟩, rfl⟩, rfl⟩, rfl⟩,
      rfl⟩, rfl⟩
    have hbound := length.toNat_lt
    refine ⟨by simp only [hlength]; omega, ?_⟩
    simp [RecordData.encode, hlength]
  · rintro ⟨hlength, rfl⟩
    refine ⟨fileReferenceType, _, _, rfl, ⟨(), _, _, ⟨rfl, rfl⟩, ⟨data.file, _, _, rfl,
      ⟨data.record, _, _, rfl, ⟨quantityWord data.values.length, _, _, rfl,
      ⟨data.values, _, _, ⟨rfl, (toNat_quantityWord hlength).symm⟩, ⟨rfl, rfl⟩, rfl⟩, rfl⟩, rfl⟩,
      rfl⟩, rfl⟩, ?_⟩
    simp [RecordData.encode]

/-- Records are read back if and only if their size fits its field. -/
theorem RecordData.reads_parseAll :
    RecordData.parseAll.Reads fun records octets =>
      RecordData.dataSize records ≤ 255 ∧ octets = RecordData.encodeAll records := by
  unfold RecordData.parseAll
  have hsome : ∀ data : RecordData, data.encode ≠ [] := by
    simp [RecordData.encode]
  refine (Payload.reads_octet.bind fun count => (Payload.reads_octets count.toNat).bind fun body =>
    Payload.reads_within_untilEnd RecordData.reads_parse hsome body).congr ?_
  intro records octets
  constructor
  · rintro ⟨count, _, _, rfl, ⟨body, _, _, ⟨rfl, hlength⟩, ⟨hvalid, hbody, rfl⟩, rfl⟩, rfl⟩
    have hsize : RecordData.dataSize records = count.toNat := by
      rw [← RecordData.length_flatMap_encode, ← hbody, hlength]
    have hbound := count.toNat_lt
    refine ⟨by omega, ?_⟩
    rw [RecordData.encodeAll, hsize, byteCount_toNat, ← hbody]
    simp
  · rintro ⟨hsize, rfl⟩
    have hlength : (records.flatMap RecordData.encode).length =
        (byteCount (RecordData.dataSize records)).toNat := by
      rw [RecordData.length_flatMap_encode, toNat_byteCount hsize]
    refine ⟨_, _, _, rfl, ⟨_, _, _, ⟨rfl, hlength⟩, ⟨?_, rfl, rfl⟩, rfl⟩, ?_⟩
    · intro data hdata
      have := RecordData.size_le_dataSize hdata
      omega
    · simp [RecordData.encodeAll]

/-! ## Requests -/

namespace Request

/-- The counts of a request fit the fields that they are written to, and are
ones that reading accepts. -/
def Fits : Request → Prop
  | writeMultipleCoils _ values => 1 ≤ values.length ∧ values.length ≤ Limits.writeCoils
  | writeMultipleRegisters _ values => 1 ≤ values.length ∧ values.length ≤ Limits.writeRegisters
  | readWriteMultipleRegisters _ _ _ values =>
    1 ≤ values.length ∧ values.length ≤ Limits.exchangeRegisters
  | readFileRecord records => 1 ≤ records.length ∧ records.length * 7 ≤ 255
  | writeFileRecord records => RecordData.dataSize records ≤ 255
  | _ => True

/-- The octets behind the function code that stand for a request.  Only coils
can be written in several ways, since nobody looks at the bits that fill up
the last octet. -/
def Spells : Request → List UInt8 → Prop
  | writeMultipleCoils reference values, octets =>
    (writeMultipleCoils reference values).Fits ∧
      ∃ packed, packed.length = (values.length + 7) / 8 ∧
        Bits.unpack packed values.length = values ∧
        octets = Words.toOctets [reference, quantityWord values.length]
          ++ byteCount packed.length :: packed
  | request, octets => request.Fits ∧ octets = request.data

theorem spells_data {request : Request} (hfits : request.Fits) :
    request.Spells request.data := by
  cases request with
  | writeMultipleCoils reference values =>
      exact ⟨hfits, Bits.pack values, Bits.length_pack values, Bits.unpack_pack values, rfl⟩
  | _ => exact ⟨hfits, rfl⟩

theorem Spells.fits {request : Request} {octets : List UInt8}
    (hspells : request.Spells octets) : request.Fits := by
  cases request <;> exact hspells.1

theorem reads_writeMultipleCoils :
    (parse .writeMultipleCoils).Reads fun request octets =>
      ∃ reference values, request = writeMultipleCoils reference values ∧
        request.Spells octets := by
  simp only [parse]
  refine (Payload.reads_word.bind fun reference => Payload.reads_word.bind fun count =>
    Payload.reads_octet.bind fun bytes =>
    (Parse.Reads.check (Quantity.coilWrite.check count.toNat Limits.writeCoils)).bind fun _ =>
    (Parse.Reads.check (checkByteCount bytes.toNat ((count.toNat + 7) / 8))).bind fun _ =>
    (Payload.reads_octets bytes.toNat).bind fun packed => Parse.Reads.pure _).congr ?_
  intro request octets
  simp only [checkByteCount_eq_ok_iff, Quantity.check_eq_ok_iff]
  constructor
  · rintro ⟨reference, _, _, rfl, ⟨count, _, _, rfl, ⟨bytes, _, _, rfl, ⟨_, _, _,
      ⟨hquantity, rfl⟩, ⟨_, _, _, ⟨hbytes, rfl⟩, ⟨_, packed, _, ⟨rfl, hpacked⟩, ⟨rfl, rfl⟩, rfl⟩,
      rfl⟩, rfl⟩, rfl⟩, rfl⟩, rfl⟩
    have hcount : (Bits.unpack packed count.toNat).length = count.toNat := by
      rw [Bits.length_unpack]
      omega
    refine ⟨reference, _, rfl, ?_, packed, ?_, ?_, ?_⟩
    · simpa only [Fits, hcount] using hquantity
    · rw [hcount, hpacked, hbytes]
    · rw [hcount]
    · rw [hcount, hpacked]
      simp
  · rintro ⟨reference, values, rfl, ⟨hone, hmost⟩, packed, hlength, hvalues, rfl⟩
    simp only [Limits.writeCoils] at hmost ⊢
    have hcount : (quantityWord values.length).toNat = values.length :=
      toNat_quantityWord (by omega)
    have hbytes : (byteCount packed.length).toNat = packed.length :=
      toNat_byteCount (by omega)
    refine ⟨reference, _, _, rfl, ⟨quantityWord values.length, _, _, rfl,
      ⟨byteCount packed.length, _, _, rfl, ⟨(), _, _, ⟨by omega, rfl⟩, ⟨(), _, _,
      ⟨by omega, rfl⟩, ⟨packed, _, _, ⟨rfl, hbytes.symm⟩, ⟨?_, rfl⟩, rfl⟩, rfl⟩, rfl⟩, rfl⟩, rfl⟩,
      ?_⟩
    · rw [hcount, hvalues]
    · simp

theorem reads_writeMultipleRegisters :
    (parse .writeMultipleRegisters).Reads fun request octets =>
      ∃ reference values, request = writeMultipleRegisters reference values ∧
        request.Spells octets := by
  simp only [parse]
  refine (Payload.reads_word.bind fun reference => Payload.reads_word.bind fun count =>
    Payload.reads_octet.bind fun bytes =>
    (Parse.Reads.check (Quantity.registerWrite.check count.toNat Limits.writeRegisters)).bind
      fun _ =>
    (Parse.Reads.check (checkByteCount bytes.toNat (count.toNat * 2))).bind fun _ =>
    (Payload.reads_words count.toNat).bind fun values => Parse.Reads.pure _).congr ?_
  intro request octets
  simp only [checkByteCount_eq_ok_iff, Quantity.check_eq_ok_iff]
  constructor
  · rintro ⟨reference, _, _, rfl, ⟨count, _, _, rfl, ⟨bytes, _, _, rfl, ⟨_, _, _,
      ⟨hquantity, rfl⟩, ⟨_, _, _, ⟨hbytes, rfl⟩, ⟨values, _, _, ⟨rfl, hcount⟩, ⟨rfl, rfl⟩, rfl⟩,
      rfl⟩, rfl⟩, rfl⟩, rfl⟩, rfl⟩
    refine ⟨reference, values, rfl, ?_, ?_⟩
    · simpa only [Fits, hcount] using hquantity
    · simp [data, hcount, ← hbytes]
  · rintro ⟨reference, values, rfl, ⟨hone, hmost⟩, rfl⟩
    simp only [Limits.writeRegisters] at hmost ⊢
    have hcount : (quantityWord values.length).toNat = values.length :=
      toNat_quantityWord (by omega)
    have hbytes : (byteCount (values.length * 2)).toNat = values.length * 2 :=
      toNat_byteCount (by omega)
    refine ⟨reference, _, _, rfl, ⟨quantityWord values.length, _, _, rfl,
      ⟨byteCount (values.length * 2), _, _, rfl, ⟨(), _, _, ⟨by omega, rfl⟩, ⟨(), _, _,
      ⟨by omega, rfl⟩, ⟨values, _, _, ⟨rfl, hcount.symm⟩, ⟨rfl, rfl⟩, rfl⟩, rfl⟩, rfl⟩, rfl⟩, rfl⟩,
      ?_⟩
    simp [data]

theorem reads_readWriteMultipleRegisters :
    (parse .readWriteMultipleRegisters).Reads fun request octets =>
      ∃ readReference readCount writeReference values,
        request = readWriteMultipleRegisters readReference readCount writeReference values ∧
          request.Spells octets := by
  simp only [parse]
  refine (Payload.reads_word.bind fun readReference => Payload.reads_word.bind fun readCount =>
    Payload.reads_word.bind fun writeReference => Payload.reads_word.bind fun count =>
    Payload.reads_octet.bind fun bytes =>
    (Parse.Reads.check (Quantity.registerWrite.check count.toNat Limits.exchangeRegisters)).bind
      fun _ =>
    (Parse.Reads.check (checkByteCount bytes.toNat (count.toNat * 2))).bind fun _ =>
    (Payload.reads_words count.toNat).bind fun values => Parse.Reads.pure _).congr ?_
  intro request octets
  simp only [checkByteCount_eq_ok_iff, Quantity.check_eq_ok_iff]
  constructor
  · rintro ⟨readReference, _, _, rfl, ⟨readCount, _, _, rfl, ⟨writeReference, _, _, rfl,
      ⟨count, _, _, rfl, ⟨bytes, _, _, rfl, ⟨_, _, _, ⟨hquantity, rfl⟩, ⟨_, _, _, ⟨hbytes, rfl⟩,
      ⟨values, _, _, ⟨rfl, hcount⟩, ⟨rfl, rfl⟩, rfl⟩, rfl⟩, rfl⟩, rfl⟩, rfl⟩, rfl⟩, rfl⟩, rfl⟩
    refine ⟨readReference, readCount, writeReference, values, rfl, ?_, ?_⟩
    · simpa only [Fits, hcount] using hquantity
    · simp [data, hcount, ← hbytes]
  · rintro ⟨readReference, readCount, writeReference, values, rfl, ⟨hone, hmost⟩, rfl⟩
    simp only [Limits.exchangeRegisters] at hmost ⊢
    have hcount : (quantityWord values.length).toNat = values.length :=
      toNat_quantityWord (by omega)
    have hbytes : (byteCount (values.length * 2)).toNat = values.length * 2 :=
      toNat_byteCount (by omega)
    refine ⟨readReference, _, _, rfl, ⟨readCount, _, _, rfl, ⟨writeReference, _, _, rfl,
      ⟨quantityWord values.length, _, _, rfl, ⟨byteCount (values.length * 2), _, _, rfl,
      ⟨(), _, _, ⟨by omega, rfl⟩, ⟨(), _, _, ⟨by omega, rfl⟩, ⟨values, _, _, ⟨rfl, hcount.symm⟩,
      ⟨rfl, rfl⟩, rfl⟩, rfl⟩, rfl⟩, rfl⟩, rfl⟩, rfl⟩, rfl⟩, ?_⟩
    simp [data]

theorem reads_readFileRecord :
    (parse .readFileRecord).Reads fun request octets =>
      ∃ records, request = readFileRecord records ∧ request.Spells octets := by
  simp only [parse]
  refine (Payload.reads_octet.bind fun bytes =>
    ((Payload.reads_times RecordSpan.reads_parse (bytes.toNat / 7)).bind fun records =>
      Parse.Reads.pure _).guarded).congr ?_
  intro request octets
  constructor
  · rintro ⟨bytes, _, _, rfl, ⟨hbytes, records, _, _, ⟨hlength, -, rfl⟩, ⟨rfl, rfl⟩, rfl⟩, rfl⟩
    have hbound := bytes.toNat_lt
    have hcount : records.length * 7 = bytes.toNat := by omega
    refine ⟨records, rfl, ?_, ?_⟩
    · simp only [Fits]
      omega
    · simp [data, hcount]
  · rintro ⟨records, rfl, ⟨hone, hmost⟩, rfl⟩
    have hbytes : (byteCount (records.length * 7)).toNat = records.length * 7 :=
      toNat_byteCount hmost
    refine ⟨byteCount (records.length * 7), _, _, rfl, ⟨by omega, records, _, _,
      ⟨by omega, by simp, rfl⟩, ⟨rfl, rfl⟩, rfl⟩, ?_⟩
    simp [data]

theorem reads_writeFileRecord :
    (parse .writeFileRecord).Reads fun request octets =>
      ∃ records, request = writeFileRecord records ∧ request.Spells octets := by
  simp only [parse]
  refine (RecordData.reads_parseAll.bind fun records => Parse.Reads.pure _).congr ?_
  intro request octets
  constructor
  · rintro ⟨records, _, _, ⟨hsize, rfl⟩, ⟨rfl, rfl⟩, rfl⟩
    exact ⟨records, rfl, hsize, by simp [data]⟩
  · rintro ⟨records, rfl, hsize, rfl⟩
    exact ⟨records, _, _, ⟨hsize, rfl⟩, ⟨rfl, rfl⟩, by simp [data]⟩

/-- What reading the fields of a function yields is a request of that function
whose counts fit, and it was read from octets that spell it. -/
theorem reads_parse (function : Function) :
    (parse function).Reads fun request octets =>
      request.function? = some function ∧ request.Spells octets := by
  cases function with
  | readCoils =>
      refine (Payload.reads_pair readCoils).congr fun request octets => ?_
      cases request <;> simp [function?, Spells, Fits, data]
  | readDiscreteInputs =>
      refine (Payload.reads_pair readDiscreteInputs).congr fun request octets => ?_
      cases request <;> simp [function?, Spells, Fits, data]
  | readHoldingRegisters =>
      refine (Payload.reads_pair readHoldingRegisters).congr fun request octets => ?_
      cases request <;> simp [function?, Spells, Fits, data]
  | readInputRegisters =>
      refine (Payload.reads_pair readInputRegisters).congr fun request octets => ?_
      cases request <;> simp [function?, Spells, Fits, data]
  | writeSingleCoil =>
      refine (Payload.reads_coil writeSingleCoil).congr fun request octets => ?_
      cases request <;> simp [function?, Spells, Fits, data, -Bool.exists_bool]
  | writeSingleRegister =>
      refine (Payload.reads_pair writeSingleRegister).congr fun request octets => ?_
      cases request <;> simp [function?, Spells, Fits, data]
  | writeMultipleCoils =>
      refine reads_writeMultipleCoils.congr fun request octets => ?_
      cases request <;> simp [function?]
  | writeMultipleRegisters =>
      refine reads_writeMultipleRegisters.congr fun request octets => ?_
      cases request <;> simp [function?]
  | readFileRecord =>
      refine reads_readFileRecord.congr fun request octets => ?_
      cases request <;> simp [function?]
  | writeFileRecord =>
      refine reads_writeFileRecord.congr fun request octets => ?_
      cases request <;> simp [function?]
  | maskWriteRegister =>
      refine (Payload.reads_triple maskWriteRegister).congr fun request octets => ?_
      cases request <;> simp [function?, Spells, Fits, data]
  | readWriteMultipleRegisters =>
      refine reads_readWriteMultipleRegisters.congr fun request octets => ?_
      cases request <;> simp [function?]
  | readFifoQueue =>
      refine (Payload.reads_word.bind fun reference => Parse.Reads.pure _).congr
        fun request octets => ?_
      cases request <;> simp [function?, Spells, Fits, data]

theorem code_of_function? {request : Request} {function : Function}
    (hfunction : request.function? = some function) :
    request.functionCode = function.code := by
  cases request <;> cases hfunction <;> rfl

/-- A request that is not implemented carries a code of no implemented function. -/
def Proper : Request → Prop
  | unsupported code _ => Function.ofCode? code = none
  | _ => True

theorem ofCode?_functionCode {request : Request} (hproper : request.Proper) :
    Function.ofCode? request.functionCode = request.function? := by
  cases request with
  | unsupported code data => exact hproper
  | _ => rfl

/-- What the protocol allows a request to ask for. -/
def Valid : Request → Prop
  | readCoils _ count | readDiscreteInputs _ count =>
    1 ≤ count.toNat ∧ count.toNat ≤ Limits.readBits
  | readHoldingRegisters _ count | readInputRegisters _ count =>
    1 ≤ count.toNat ∧ count.toNat ≤ Limits.readRegisters
  | writeMultipleCoils _ values => 1 ≤ values.length ∧ values.length ≤ Limits.writeCoils
  | writeMultipleRegisters _ values => 1 ≤ values.length ∧ values.length ≤ Limits.writeRegisters
  | readWriteMultipleRegisters _ readCount _ values =>
    (1 ≤ readCount.toNat ∧ readCount.toNat ≤ Limits.readRegisters) ∧
      1 ≤ values.length ∧ values.length ≤ Limits.exchangeRegisters
  | readFileRecord records =>
    1 ≤ records.length ∧ RecordSpan.requestSize records ≤ Limits.pdu ∧
      RecordSpan.responseSize records ≤ Limits.pdu
  | writeFileRecord records =>
    1 ≤ records.length ∧ 2 + RecordData.dataSize records ≤ Limits.pdu
  | _ => True

theorem validate_eq_ok_iff (request : Request) (done : Unit) :
    request.validate = .ok done ↔ request.Valid := by
  cases request with
  | readWriteMultipleRegisters readReference readCount writeReference values =>
      simp only [validate, Valid]
      rw [← Quantity.check_eq_ok_iff .registerRead _ _ (),
        ← Quantity.check_eq_ok_iff .registerWrite _ _ done]
      cases Quantity.registerRead.check readCount.toNat Limits.readRegisters <;>
        simp [bind, Except.bind]
  | readFileRecord records =>
      have hone : records.isEmpty = true ↔ ¬1 ≤ records.length := by
        cases records <;> simp
      simp only [validate, Valid, hone]
      split <;> simp <;> omega
  | writeFileRecord records =>
      have hone : records.isEmpty = true ↔ ¬1 ≤ records.length := by
        cases records <;> simp
      simp only [validate, Valid, hone]
      split <;> simp <;> omega
  | _ => simp [validate, Valid, Quantity.check_eq_ok_iff]

/-- Octets are read as a request if and only if they consist of its function
code and of octets that spell it, and the request is a valid one. -/
theorem decode_eq_ok_iff (octets : List UInt8) (request : Request) :
    decode octets = .ok request ↔
      request.Proper ∧ request.validate = .ok () ∧
        ∃ payload, octets = request.functionCode :: payload ∧ request.Spells payload := by
  cases octets with
  | nil => simp [decode]
  | cons code payload =>
      cases hcode : Function.ofCode? code with
      | none =>
          simp only [decode, hcode, Except.ok.injEq]
          constructor
          · rintro rfl
            exact ⟨hcode, rfl, payload, rfl, trivial, rfl⟩
          · rintro ⟨hproper, -, _, hsplit, hspells⟩
            obtain ⟨rfl, rfl⟩ := List.cons.inj hsplit
            rw [ofCode?_functionCode hproper] at hcode
            cases request <;> simp only [function?, reduceCtorEq] at hcode
            rw [functionCode, hspells.2, data]
      | some function =>
          have hdecode : decode (code :: payload) = .ok request ↔
              Payload.run (parse function) code payload = .ok request ∧
                request.validate = .ok () := by
            simp only [decode, hcode]
            cases hrun : Payload.run (parse function) code payload with
            | error error => simp [bind, Except.bind]
            | ok read =>
                cases hvalid : read.validate <;>
                  simp [bind, Except.bind, Pure.pure, Except.pure, hvalid]
                · rintro rfl
                  simp [hvalid]
                · rintro rfl
                  exact hvalid
          rw [hdecode, Payload.run_eq_ok_iff (reads_parse function)]
          constructor
          · rintro ⟨⟨hfunction, hspells⟩, hvalid⟩
            refine ⟨?_, hvalid, payload, ?_, hspells⟩
            · cases request <;> trivial
            · rw [code_of_function? hfunction, Function.code_of_ofCode? hcode]
          · rintro ⟨hproper, hvalid, _, hsplit, hspells⟩
            obtain ⟨rfl, rfl⟩ := List.cons.inj hsplit
            rw [ofCode?_functionCode hproper] at hcode
            exact ⟨⟨hcode, hspells⟩, hvalid⟩

theorem fits_of_validate {request : Request} (hvalid : request.validate = .ok ()) :
    request.Fits := by
  rw [validate_eq_ok_iff] at hvalid
  cases request with
  | writeMultipleCoils reference values => exact hvalid
  | writeMultipleRegisters reference values => exact hvalid
  | readWriteMultipleRegisters readReference readCount writeReference values => exact hvalid.2
  | readFileRecord records =>
      obtain ⟨hone, hrequest, -⟩ := hvalid
      simp only [RecordSpan.requestSize, Limits.pdu] at hrequest
      exact ⟨hone, by omega⟩
  | writeFileRecord records =>
      obtain ⟨-, hsize⟩ := hvalid
      simp only [Limits.pdu] at hsize
      simp only [Fits]
      omega
  | _ => trivial

/-- Counts that wrapped in their fields leave octets behind: if the fields of a
request can be read at all, then its counts fit. -/
theorem fits_of_spells_data {request other : Request}
    (hsame : other.function? = request.function?) (hspells : other.Spells request.data) :
    request.Fits := by
  cases request with
  | writeMultipleCoils reference values =>
      cases other <;> simp only [function?, Option.some.injEq, reduceCtorEq] at hsame
      next reference' values' =>
        obtain ⟨hfits, packed, hpacked, -, hoctets⟩ := hspells
        obtain ⟨hfields, hrest⟩ := List.append_inj hoctets (by simp [Word.toOctets])
        have hcount : quantityWord values.length = quantityWord values'.length := by
          have hwords := Words.toOctets_inj.mp hfields
          simpa using (List.cons.inj hwords).2
        have hlength : (values.length + 7) / 8 = (values'.length + 7) / 8 := by
          rw [← Bits.length_pack, (List.cons.inj hrest).2, hpacked]
        -- Equal counts and equally many octets: no multiple of 65536 fits between them.
        have hwrap : values.length % 65536 = values'.length % 65536 := by
          simpa [quantityWord] using congrArg UInt16.toNat hcount
        have hvalues : values.length = values'.length := by omega
        simpa only [Fits, hvalues] using hfits
  | writeMultipleRegisters reference values =>
      cases other <;> simp only [function?, Option.some.injEq, reduceCtorEq] at hsame
      next reference' values' =>
        obtain ⟨hfits, hoctets⟩ := hspells
        have hlength := congrArg List.length hoctets
        simp only [data, List.length_append, List.length_cons, List.length_nil,
          Words.length_toOctets] at hlength
        have hvalues : values.length = values'.length := by omega
        simpa only [Fits, hvalues] using hfits
  | readWriteMultipleRegisters readReference readCount writeReference values =>
      cases other <;> simp only [function?, Option.some.injEq, reduceCtorEq] at hsame
      next readReference' readCount' writeReference' values' =>
        obtain ⟨hfits, hoctets⟩ := hspells
        have hlength := congrArg List.length hoctets
        simp only [data, List.length_append, List.length_cons, List.length_nil,
          Words.length_toOctets] at hlength
        have hvalues : values.length = values'.length := by omega
        simpa only [Fits, hvalues] using hfits
  | readFileRecord records =>
      cases other <;> simp only [function?, Option.some.injEq, reduceCtorEq] at hsame
      next records' =>
        obtain ⟨hfits, hoctets⟩ := hspells
        have hlength := congrArg List.length hoctets
        simp only [data, List.length_cons, RecordSpan.length_flatMap_encode] at hlength
        have hrecords : records.length = records'.length := by omega
        simpa only [Fits, hrecords] using hfits
  | writeFileRecord records =>
      cases other <;> simp only [function?, Option.some.injEq, reduceCtorEq] at hsame
      next records' =>
        obtain ⟨hfits, hoctets⟩ := hspells
        have hlength := congrArg List.length hoctets
        simp only [data, RecordData.encodeAll, List.length_cons,
          RecordData.length_flatMap_encode] at hlength
        have hsize : RecordData.dataSize records = RecordData.dataSize records' := by omega
        simpa only [Fits, hsize] using hfits
  | _ => trivial

/-- Octets spell at most one request of a function. -/
theorem Spells.unique {request other : Request} {octets : List UInt8}
    (hrequest : request.Spells octets) (hother : other.Spells octets)
    (hcode : request.functionCode = other.functionCode)
    (hsame : other.function? = request.function?) : request = other := by
  cases hfunction : request.function? with
  | some function =>
      rw [hfunction] at hsame
      have hread := (Payload.run_eq_ok_iff (reads_parse function) 0 octets request).mpr
        ⟨hfunction, hrequest⟩
      have hread' := (Payload.run_eq_ok_iff (reads_parse function) 0 octets other).mpr
        ⟨hsame, hother⟩
      rw [hread] at hread'
      exact Except.ok.inj hread'
  | none =>
      rw [hfunction] at hsame
      cases request <;> simp only [function?, reduceCtorEq] at hfunction
      cases other <;> simp only [function?, reduceCtorEq] at hsame
      have hdata := hrequest.2.symm.trans hother.2
      simp only [data] at hdata
      simp only [functionCode] at hcode
      rw [hdata, hcode]

theorem decode_encode_of_validate {request : Request} (hproper : request.Proper)
    (hvalid : request.validate = .ok ()) : decode request.encode = .ok request := by
  rw [decode_eq_ok_iff]
  exact ⟨hproper, hvalid, request.data, rfl, spells_data (fits_of_validate hvalid)⟩

/-- A written request is read if and only if it is valid, and then it is read
as itself.  No count that wraps makes it another request. -/
theorem decode_encode_eq_ok_iff (request result : Request) (hproper : request.Proper) :
    decode request.encode = .ok result ↔ request.validate = .ok () ∧ result = request := by
  constructor
  · intro hread
    obtain ⟨hresult, hvalid, payload, hsplit, hspells⟩ := (decode_eq_ok_iff _ _).mp hread
    obtain ⟨hcode, rfl⟩ := List.cons.inj hsplit
    have hsame : result.function? = request.function? := by
      rw [← ofCode?_functionCode hproper, hcode, ofCode?_functionCode hresult]
    have hfits := fits_of_spells_data hsame hspells
    have heq : request = result := (spells_data hfits).unique hspells hcode hsame
    subst heq
    exact ⟨hvalid, rfl⟩
  · rintro ⟨hvalid, rfl⟩
    exact decode_encode_of_validate hproper hvalid

/-- Thirty-six spans, the size of which still fits its field, are one too many;
an unknown function is read whatever it carries. -/
theorem decode_encode_spans_and_unsupported :
    (readFileRecord (List.replicate 36 ⟨4, 1, 0⟩)).Proper ∧
      decode (readFileRecord (List.replicate 36 ⟨4, 1, 0⟩)).encode ≠
        .ok (readFileRecord (List.replicate 36 ⟨4, 1, 0⟩)) ∧
      (unsupported 0x2B [0x0E, 0x01]).Proper ∧
      decode (unsupported 0x2B [0x0E, 0x01]).encode = .ok (unsupported 0x2B [0x0E, 0x01]) := by
  have hspans : (readFileRecord (List.replicate 36 ⟨4, 1, 0⟩)).Proper := trivial
  have hunsupported : (unsupported 0x2B [0x0E, 0x01]).Proper := rfl
  refine ⟨hspans, ?_, hunsupported, ?_⟩
  · rw [ne_eq, decode_encode_eq_ok_iff _ _ hspans]
    rintro ⟨hvalid, -⟩
    contradiction
  · exact (decode_encode_eq_ok_iff _ _ hunsupported).mpr ⟨rfl, rfl⟩

end Request

end Modbus
