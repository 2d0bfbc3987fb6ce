import Mathlib.Tactic
import Modbus.Proofs.FrameReading
import Modbus.Proofs.ReplySize

/-!
# Lengths of payloads

Without a network header the length of a frame follows from its function code
and, for some functions, from one count.  For requests that are valid and for
answers that fit their fields these lengths are the true ones.
-/

namespace Modbus

namespace Shape

theorem count_octet (octet : UInt8) : count [octet] = octet.toNat := by
  simp [count]

theorem count_word (word : UInt16) : count (Word.toOctets word) = word.toNat := by
  have hword := word.toNat_lt
  simp only [count, Word.toOctets, List.foldl_cons, List.foldl_nil, UInt8.toNat_ofNat']
  omega

/-- A count of one octet behind `fields` tells how many octets follow it. -/
theorem length_counted (fields : List UInt8) {body : List UInt8} {octet : UInt8} {offset : Nat}
    (hfields : fields.length = offset) (hoctet : octet.toNat = body.length) :
    (counted offset 1).length (fields ++ octet :: body) = (fields ++ octet :: body).length := by
  have htake : (octet :: body).take 1 = [octet] := rfl
  subst hfields
  simp only [length, List.drop_left, htake, count_octet, hoctet, List.length_append,
    List.length_cons]
  omega

end Shape

theorem toNat_byteCount_words {values : List UInt16} (hvalues : values.length ≤ 127) :
    (byteCount (values.length * 2)).toNat = (Words.toOctets values).length := by
  rw [Words.length_toOctets, toNat_byteCount (by omega)]
  omega

theorem toNat_byteCount_records {records : List RecordData}
    (hrecords : RecordData.dataSize records ≤ 255) :
    (byteCount (RecordData.dataSize records)).toNat =
      (records.flatMap RecordData.encode).length := by
  rw [RecordData.length_flatMap_encode, toNat_byteCount hrecords]

namespace Request

/-- The shape of a request leads to the end of its fields. -/
theorem length_requestShape {request : Request} {function : Function} (hfits : request.Fits)
    (hfunction : request.function? = some function) :
    function.requestShape.length request.data = request.data.length := by
  cases request <;> cases hfunction
  case writeMultipleCoils reference values =>
    have hvalues : values.length ≤ 1968 := hfits.2
    exact Shape.length_counted (Words.toOctets [reference, quantityWord values.length]) rfl
      (toNat_byteCount_pack (by omega))
  case writeMultipleRegisters reference values =>
    have hvalues : values.length ≤ 123 := hfits.2
    exact Shape.length_counted (Words.toOctets [reference, quantityWord values.length]) rfl
      (toNat_byteCount_words (by omega))
  case readWriteMultipleRegisters readReference readCount writeReference values =>
    have hvalues : values.length ≤ 121 := hfits.2
    exact Shape.length_counted
      (Words.toOctets [readReference, readCount, writeReference, quantityWord values.length]) rfl
      (toNat_byteCount_words (by omega))
  case readFileRecord records =>
    refine Shape.length_counted [] rfl ?_
    rw [RecordSpan.length_flatMap_encode]
    exact toNat_byteCount hfits.2
  case writeFileRecord records =>
    exact Shape.length_counted [] rfl (toNat_byteCount_records hfits)
  all_goals rfl

theorem length_data (request : Request) :
    request.data.length =
      match request with
      | readCoils .. | readDiscreteInputs .. | readHoldingRegisters .. | readInputRegisters ..
      | writeSingleCoil .. | writeSingleRegister .. => 4
      | writeMultipleCoils _ values => 5 + (values.length + 7) / 8
      | writeMultipleRegisters _ values => 5 + 2 * values.length
      | readFileRecord records => 1 + records.length * 7
      | writeFileRecord records => 1 + RecordData.dataSize records
      | maskWriteRegister .. => 6
      | readWriteMultipleRegisters _ _ _ values => 9 + 2 * values.length
      | readFifoQueue _ => 2
      | unsupported _ data => data.length := by
  cases request <;>
    simp only [data, RecordData.encodeAll, List.length_append, List.length_cons, List.length_nil,
      Bits.length_pack, Words.length_toOctets, RecordSpan.length_flatMap_encode,
      RecordData.length_flatMap_encode] <;>
    omega

/-- A valid request fits every frame. -/
theorem length_encode_le {request : Request} (hvalid : request.Valid)
    (hfunction : request.function?.isSome) : request.encode.length ≤ Limits.pdu := by
  rw [encode, List.length_cons, length_data]
  cases request <;>
    simp only [Valid, Limits.readBits, Limits.readRegisters, Limits.writeCoils,
      Limits.writeRegisters, Limits.exchangeRegisters, RecordSpan.requestSize, Limits.pdu]
      at hvalid ⊢ <;>
    first | omega | contradiction

theorem shaped_requestFrame {request : Request} (header : Header) (hvalid : request.Valid)
    (hfunction : request.function?.isSome) :
    (Frame.mk header request.encode).Shaped .request := by
  obtain ⟨function, hsome⟩ := Option.isSome_iff_exists.mp hfunction
  have hfits := fits_of_validate ((validate_eq_ok_iff request ()).mpr hvalid)
  refine ⟨request.functionCode, request.data, function.requestShape, rfl, ?_,
    length_requestShape hfits hsome⟩
  show Shape.request? request.functionCode = some function.requestShape
  rw [Shape.request?, code_of_function? hsome, Function.ofCode?_code]
  rfl

theorem regular_requestFrame {request : Request} {header : Header}
    (hprotocol : header.protocolId = 0) (hvalid : request.Valid)
    (hfunction : request.function?.isSome) :
    (Frame.mk header request.encode).Regular .request where
  protocol := hprotocol
  short := length_encode_le hvalid hfunction
  shaped := shaped_requestFrame header hvalid hfunction

end Request

namespace Response

/-- The shape of an answer leads to the end of its fields. -/
theorem length_responseShape {response : Response} {function : Function}
    (hfits : response.Fits) (hfunction : response.function? = some function) :
    function.responseShape.length response.data = response.data.length := by
  cases response <;> cases hfunction
  case readCoils values => exact Shape.length_counted [] rfl (toNat_byteCount_pack hfits)
  case readDiscreteInputs values => exact Shape.length_counted [] rfl (toNat_byteCount_pack hfits)
  case readHoldingRegisters values =>
    exact Shape.length_counted [] rfl (toNat_byteCount_words hfits)
  case readInputRegisters values =>
    exact Shape.length_counted [] rfl (toNat_byteCount_words hfits)
  case readWriteMultipleRegisters values =>
    exact Shape.length_counted [] rfl (toNat_byteCount_words hfits)
  case readFileRecord records =>
    refine Shape.length_counted [] rfl ?_
    rw [FileAnswer.length_flatMap_encode]
    exact toNat_byteCount hfits
  case writeFileRecord records =>
    exact Shape.length_counted [] rfl (toNat_byteCount_records hfits)
  case readFifoQueue values =>
    have hvalues : values.length ≤ 31 := hfits
    have htake : ((readFifoQueue values).data.drop 0).take 2 =
        Word.toOctets (quantityWord (2 + 2 * values.length)) := rfl
    show 0 + 2 + Shape.count (((readFifoQueue values).data.drop 0).take 2) = _
    rw [htake, Shape.count_word, toNat_quantityWord (by omega), length_data]
    dsimp only
    omega
  all_goals rfl

theorem shaped_responseFrame {response : Response} (header : Header) (hfits : response.Fits) :
    (Frame.mk header response.encode).Shaped .response := by
  cases hfunction : response.function? with
  | some function =>
      refine ⟨response.functionCode, response.data, function.responseShape, rfl, ?_,
        length_responseShape hfits hfunction⟩
      show Shape.response? response.functionCode = some function.responseShape
      rw [Shape.response?, code_of_function? hfunction, isExceptionCode_code,
        Function.ofCode?_code]
      rfl
  | none =>
      cases response with
      | exception code reason =>
          refine ⟨exceptionCode code, [reason.toOctet], .fixed 1, rfl, ?_, rfl⟩
          show Shape.response? (exceptionCode code) = some (.fixed 1)
          rw [Shape.response?, isExceptionCode_exceptionCode]
          rfl
      | _ => contradiction

theorem regular_responseFrame {response : Response} {request : Request} {header : Header}
    (hprotocol : header.protocolId = 0) (hsafe : response.SafeFor request) :
    (Frame.mk header response.encode).Regular .response where
  protocol := hprotocol
  short := hsafe.short
  shaped := shaped_responseFrame header hsafe.fits

end Response

end Modbus
