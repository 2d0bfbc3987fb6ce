import Mathlib.Tactic
import Modbus.Proofs.Shapes

/-!
# One spelling for each request

Octets are accepted as a request only if they are what the request is written
as.  There is a single exception: coils fill whole octets, and nobody looks at
the bits behind the last coil.  With these bits cleared, reading accepts what
writing produces and nothing else.
-/

namespace Modbus

/-! ## Unused bits -/

/-- An octet of which only the lowest `used` bits are kept. -/
def Bits.keep (used : Nat) (octet : UInt8) : UInt8 :=
  UInt8.ofNat (octet.toNat % 2 ^ used)

/-- A row of octets, of the last of which only the lowest `used` bits are kept. -/
def Bits.trimLast (used : Nat) : List UInt8 → List UInt8
  | [] => []
  | [octet] => [Bits.keep used octet]
  | octet :: next :: rest => octet :: Bits.trimLast used (next :: rest)

/-- How many bits of the last octet are used by a row of `count` bits. -/
def Bits.usedOfLast (count : Nat) : Nat := (count - 1) % 8 + 1

@[simp] theorem Bits.length_trimLast (used : Nat) (octets : List UInt8) :
    (Bits.trimLast used octets).length = octets.length := by
  induction octets using Bits.trimLast.induct with
  | case1 => rfl
  | case2 octet => rfl
  | case3 octet next rest ih =>
      rw [Bits.trimLast, List.length_cons, ih]
      rfl

theorem Bits.toOctet_take_ofOctet {count : Nat} (hcount : count ≤ 8) (octet : UInt8) :
    Bits.toOctet ((Bits.ofOctet octet).take count) = Bits.keep count octet := by
  rw [Bits.toOctet, Bits.keep]
  congr 1
  apply Nat.eq_of_testBit_eq
  intro index
  rw [Bits.testBit_number, Nat.testBit_mod_two_pow]
  by_cases hindex : index < count
  · have height : index < 8 := by omega
    simp [Bits.ofOctet, hindex, height]
  · simp [Bits.ofOctet, hindex]

/-- Bits that were taken from octets are packed to the same octets, but for the
bits of the last one that were not taken. -/
theorem Bits.pack_unpack {packed : List UInt8} {count : Nat} (hcount : 1 ≤ count)
    (hlength : packed.length = (count + 7) / 8) :
    Bits.pack (Bits.unpack packed count) = Bits.trimLast (Bits.usedOfLast count) packed := by
  induction packed using Bits.trimLast.induct generalizing count with
  | case1 =>
      rw [List.length_nil] at hlength
      omega
  | case2 octet =>
      rw [List.length_singleton] at hlength
      have hused : Bits.usedOfLast count = count := by
        rw [Bits.usedOfLast]
        omega
      have hbits : Bits.unpack [octet] count = (Bits.ofOctet octet).take count := by
        simp [Bits.unpack]
      have hne : (Bits.ofOctet octet).take count ≠ [] := by
        apply List.ne_nil_of_length_pos
        rw [List.length_take, Bits.length_ofOctet]
        omega
      rw [hused, hbits, Bits.pack_of_ne_nil hne, List.take_of_length_le (by simp),
        List.drop_of_length_le (by simp), Bits.pack_nil,
        Bits.toOctet_take_ofOctet (by omega), Bits.trimLast]
  | case3 octet next rest ih =>
      rw [List.length_cons, List.length_cons] at hlength
      have hused : Bits.usedOfLast count = Bits.usedOfLast (count - 8) := by
        rw [Bits.usedOfLast, Bits.usedOfLast]
        omega
      have hbits : Bits.unpack (octet :: next :: rest) count =
          Bits.ofOctet octet ++ Bits.unpack (next :: rest) (count - 8) := by
        rw [Bits.unpack, List.flatMap_cons, List.take_append, Bits.length_ofOctet,
          List.take_of_length_le (by rw [Bits.length_ofOctet]; omega), Bits.unpack]
      have hne : Bits.ofOctet octet ++ Bits.unpack (next :: rest) (count - 8) ≠ [] := by
        simp [Bits.ofOctet]
      rw [hbits, Bits.pack_of_ne_nil hne, List.take_left' (Bits.length_ofOctet octet),
        List.drop_left' (Bits.length_ofOctet octet), Bits.toOctet_ofOctet,
        ih (by omega) (by rw [List.length_cons]; omega), hused, Bits.trimLast]

/-- Octets that differ in unused bits only hold the same bits. -/
theorem Bits.unpack_eq_iff {packed : List UInt8} {values : List Bool} (hvalues : values ≠ [])
    (hlength : packed.length = (values.length + 7) / 8) :
    Bits.unpack packed values.length = values ↔
      Bits.trimLast (Bits.usedOfLast values.length) packed = Bits.pack values := by
  have hpositive := List.length_pos_of_ne_nil hvalues
  rw [← Bits.pack_unpack hpositive hlength]
  constructor
  · intro hbits
    rw [hbits]
  · intro hpacked
    have hcount : (Bits.unpack packed values.length).length = values.length := by
      rw [Bits.length_unpack]
      omega
    have hback := Bits.unpack_pack (Bits.unpack packed values.length)
    rw [hcount, hpacked, Bits.unpack_pack] at hback
    exact hback.symm

/-! ## Surplus octets -/

/-- A payload of the length that its first octets announce announces the same
length when more octets follow. -/
theorem Shape.length_append_of_length_eq {shape : Shape} {payload : List UInt8}
    (hlength : shape.length payload = payload.length) (surplus : List UInt8) :
    shape.length (payload ++ surplus) = payload.length := by
  cases shape with
  | fixed length => exact hlength
  | counted offset width =>
      rw [← hlength]
      simp only [Shape.length] at hlength ⊢
      rw [List.drop_append_of_le_length (by omega),
        List.take_append_of_le_length (by rw [List.length_drop]; omega)]

namespace Request

/-! ## Octets without unused bits -/

/-- The octets of a request with the unused bits of the last octet cleared.  Only
the request that writes several coils has such bits. -/
def clearPadding (octets : List UInt8) : List UInt8 :=
  match octets with
  | code :: reference₁ :: reference₀ :: count₁ :: count₀ :: bytes :: packed =>
    if code = Function.writeMultipleCoils.code then
      code :: reference₁ :: reference₀ :: count₁ :: count₀ :: bytes ::
        Bits.trimLast (Bits.usedOfLast (Word.ofOctets count₁ count₀).toNat) packed
    else octets
  | _ => octets

theorem head?_clearPadding (octets : List UInt8) :
    (clearPadding octets).head? = octets.head? := by
  unfold clearPadding
  split
  next =>
    split
    next => rfl
    next => rfl
  next => rfl

/-- Requests of other functions have no unused bits. -/
theorem clearPadding_of_head? {octets : List UInt8}
    (hcode : octets.head? ≠ some Function.writeMultipleCoils.code) :
    clearPadding octets = octets := by
  unfold clearPadding
  split
  next code reference₁ reference₀ count₁ count₀ bytes packed =>
    rw [List.head?_cons, ne_eq, Option.some.injEq] at hcode
    rw [if_neg hcode]
  next => rfl

theorem clearPadding_writeMultipleCoils (reference count : UInt16) (bytes : UInt8)
    (packed : List UInt8) :
    clearPadding (Function.writeMultipleCoils.code ::
        (Words.toOctets [reference, count] ++ bytes :: packed)) =
      Function.writeMultipleCoils.code ::
        (Words.toOctets [reference, count] ++
          bytes :: Bits.trimLast (Bits.usedOfLast count.toNat) packed) := by
  simp only [Words.toOctets_cons, Words.toOctets_nil, Word.toOctets, List.cons_append,
    List.nil_append, clearPadding, if_true, Word.ofOctets_toOctets]

/-- What is left when unused bits are cleared shows what stood before them. -/
theorem exists_of_clearPadding_eq {octets : List UInt8} {reference count : UInt16}
    {bytes : UInt8} {cleared : List UInt8}
    (hcleared : clearPadding octets = Function.writeMultipleCoils.code ::
      (Words.toOctets [reference, count] ++ bytes :: cleared)) :
    ∃ packed, octets = Function.writeMultipleCoils.code ::
        (Words.toOctets [reference, count] ++ bytes :: packed) ∧
      Bits.trimLast (Bits.usedOfLast count.toNat) packed = cleared := by
  have hlength := congrArg List.length hcleared
  have hcode := head?_clearPadding octets
  rw [hcleared] at hcode
  unfold clearPadding at hcleared hlength
  split at hcleared
  next code reference₁ reference₀ count₁ count₀ bytes' packed =>
    obtain rfl : code = Function.writeMultipleCoils.code := (Option.some.inj hcode).symm
    simp only [if_true, Words.toOctets_cons, Words.toOctets_nil, Word.toOctets, List.cons_append,
      List.nil_append, List.cons.injEq, true_and] at hcleared
    obtain ⟨rfl, rfl, rfl, rfl, rfl, rfl⟩ := hcleared
    exact ⟨packed, by simp [Word.toOctets], by rw [Word.ofOctets_toOctets]⟩
  next hshort =>
    simp only [Words.toOctets_cons, Words.toOctets_nil, Word.toOctets, List.cons_append,
      List.nil_append] at hcleared
    exact absurd hcleared (hshort _ _ _ _ _ _ _)

/-- An implemented function is asked for by its own requests only. -/
theorem functionCode_ne {request : Request} (hproper : request.Proper)
    {function : Function} (hfunction : request.function? ≠ some function) :
    request.functionCode ≠ function.code := by
  intro hcode
  rw [← ofCode?_functionCode hproper, hcode, Function.ofCode?_code] at hfunction
  exact hfunction rfl

/-- Without unused bits a request has a single spelling. -/
theorem spells_iff_eq_data {request : Request}
    (hcoils : request.function? ≠ some .writeMultipleCoils) (payload : List UInt8) :
    request.Spells payload ↔ request.Fits ∧ payload = request.data := by
  cases request with
  | writeMultipleCoils reference values => exact absurd rfl hcoils
  | _ => exact Iff.rfl

/-- Octets spell a request if and only if they are what it is written as, but
for unused bits. -/
theorem exists_spells_iff {request : Request} (hproper : request.Proper)
    (hvalid : request.validate = .ok ()) (octets : List UInt8) :
    (∃ payload, octets = request.functionCode :: payload ∧ request.Spells payload) ↔
      request.encode = clearPadding octets := by
  have hfits := fits_of_validate hvalid
  by_cases hcoils : request.function? = some .writeMultipleCoils
  · cases request <;> simp only [function?, Option.some.injEq, reduceCtorEq] at hcoils
    next reference values =>
      have hlimit : values.length ≤ 1968 := hfits.2
      have hsome : values ≠ [] := List.ne_nil_of_length_pos hfits.1
      have hcount : (quantityWord values.length).toNat = values.length :=
        toNat_quantityWord (by omega)
      constructor
      · rintro ⟨payload, rfl, -, packed, hlength, hbits, rfl⟩
        have htrim := (Bits.unpack_eq_iff hsome hlength).mp hbits
        show _ = clearPadding (Function.writeMultipleCoils.code :: _)
        rw [clearPadding_writeMultipleCoils, hcount, htrim, hlength, ← Bits.length_pack values]
        rfl
      · intro hencode
        obtain ⟨packed, rfl, htrim⟩ := exists_of_clearPadding_eq hencode.symm
        rw [hcount] at htrim
        have hlength : packed.length = (values.length + 7) / 8 := by
          rw [← Bits.length_pack, ← htrim, Bits.length_trimLast]
        refine ⟨_, rfl, hfits, packed, hlength, (Bits.unpack_eq_iff hsome hlength).mpr htrim, ?_⟩
        rw [hlength, Bits.length_pack]
  · have hother := functionCode_ne hproper hcoils
    constructor
    · rintro ⟨payload, rfl, hpayload⟩
      obtain ⟨-, rfl⟩ := (spells_iff_eq_data hcoils payload).mp hpayload
      rw [clearPadding_of_head? (by simpa using hother)]
      rfl
    · intro hencode
      have hhead : octets.head? ≠ some Function.writeMultipleCoils.code := by
        rw [← head?_clearPadding, ← hencode]
        simpa [encode] using hother
      rw [clearPadding_of_head? hhead] at hencode
      exact ⟨request.data, hencode.symm, (spells_iff_eq_data hcoils _).mpr ⟨hfits, rfl⟩⟩

theorem decode_eq_ok_iff_clearPadding (octets : List UInt8) (request : Request) :
    decode octets = .ok request ↔
      request.Proper ∧ request.validate = .ok () ∧ request.encode = clearPadding octets := by
  rw [decode_eq_ok_iff]
  constructor
  · rintro ⟨hproper, hvalid, hspells⟩
    exact ⟨hproper, hvalid, (exists_spells_iff hproper hvalid octets).mp hspells⟩
  · rintro ⟨hproper, hvalid, hencode⟩
    exact ⟨hproper, hvalid, (exists_spells_iff hproper hvalid octets).mpr hencode⟩

/-! ## The end of a request -/

/-- However the unused bits are set, the shape of a request leads to its end. -/
theorem Spells.length_requestShape {request : Request} {function : Function}
    {payload : List UInt8} (hspells : request.Spells payload)
    (hfunction : request.function? = some function) :
    function.requestShape.length payload = payload.length := by
  by_cases hcoils : request.function? = some .writeMultipleCoils
  · cases request <;> simp only [function?, Option.some.injEq, reduceCtorEq] at hcoils
    next reference values =>
      obtain rfl := Option.some.inj hfunction
      obtain ⟨⟨-, hlimit⟩, packed, hpacked, -, rfl⟩ := hspells
      simp only [Limits.writeCoils] at hlimit
      exact Shape.length_counted (Words.toOctets [reference, quantityWord values.length]) rfl
        (toNat_byteCount (by omega))
  · obtain ⟨-, rfl⟩ := (spells_iff_eq_data hcoils payload).mp hspells
    exact Request.length_requestShape hspells.fits hfunction

/-- No request of an implemented function is another one with octets behind it. -/
theorem eq_nil_of_decode_append {octets surplus : List UInt8} {request other : Request}
    (hread : decode octets = .ok request) (hfunction : request.function?.isSome)
    (hother : decode (octets ++ surplus) = .ok other) : surplus = [] := by
  obtain ⟨function, hsome⟩ := Option.isSome_iff_exists.mp hfunction
  obtain ⟨hproper, -, payload, rfl, hpayload⟩ := (decode_eq_ok_iff _ _).mp hread
  obtain ⟨hproper', -, payload', hsplit, hpayload'⟩ := (decode_eq_ok_iff _ _).mp hother
  obtain ⟨hcode, rfl⟩ := List.cons.inj hsplit
  have hsome' : other.function? = some function := by
    rw [← ofCode?_functionCode hproper', ← hcode, ofCode?_functionCode hproper, hsome]
  have hlength := hpayload'.length_requestShape hsome'
  change function.requestShape.length (payload ++ surplus) = (payload ++ surplus).length at hlength
  rw [Shape.length_append_of_length_eq (hpayload.length_requestShape hsome),
    List.length_append] at hlength
  exact List.length_eq_zero_iff.mp (by omega)

/-- Octets are read as a request if and only if the request is valid and, with
their unused bits cleared, they are what it is written as.  So a request has
one spelling, unless it writes several coils: then the spellings differ in
unused bits only.  And of two requests of implemented functions none is the
other one with octets missing or to spare. -/
theorem decode_ok_iff_canonical :
    (∀ octets request, decode octets = .ok request ↔
      request.Proper ∧ request.validate = .ok () ∧ request.encode = clearPadding octets) ∧
    (∀ octets others request, decode octets = .ok request → decode others = .ok request →
      octets = others ∨
        (octets.head? = some Function.writeMultipleCoils.code ∧
          others.head? = some Function.writeMultipleCoils.code ∧
          clearPadding octets = clearPadding others)) ∧
    ∀ octets surplus request other, decode octets = .ok request → request.function?.isSome →
      decode (octets ++ surplus) = .ok other → surplus = [] := by
  refine ⟨decode_eq_ok_iff_clearPadding, ?_, ?_⟩
  · intro octets others request hread hread'
    obtain ⟨-, -, hencode⟩ := (decode_eq_ok_iff_clearPadding _ _).mp hread
    obtain ⟨-, -, hencode'⟩ := (decode_eq_ok_iff_clearPadding _ _).mp hread'
    have hhead : octets.head? = others.head? := by
      rw [← head?_clearPadding octets, ← hencode, hencode', head?_clearPadding]
    by_cases hcoils : octets.head? = some Function.writeMultipleCoils.code
    · exact Or.inr ⟨hcoils, hhead ▸ hcoils, hencode.symm.trans hencode'⟩
    · left
      rw [← clearPadding_of_head? hcoils, ← hencode, hencode',
        clearPadding_of_head? (hhead ▸ hcoils)]
  · intro octets surplus request other hread hfunction hother
    exact eq_nil_of_decode_append hread hfunction hother

/-- Ten coils in two octets: the six bits behind the last coil may be set or
not, and a third octet is refused. -/
theorem decode_ten_coils :
    let set : List UInt8 := [0x0F, 0x00, 0x13, 0x00, 0x0A, 0x02, 0xCD, 0xFD]
    let cleared : List UInt8 := [0x0F, 0x00, 0x13, 0x00, 0x0A, 0x02, 0xCD, 0x01]
    let request := writeMultipleCoils 0x13
      [true, false, true, true, false, false, true, true, true, false]
    decode set = .ok request ∧ request.encode = cleared ∧ decode cleared = .ok request ∧
      clearPadding set = clearPadding cleared ∧
      ∀ other, decode (set ++ [0x00]) ≠ .ok other := by
  intro set cleared request
  have hset : decode set = .ok request :=
    (decode_ok_iff_canonical.1 set request).mpr ⟨trivial, rfl, by decide +kernel⟩
  have hcleared : decode cleared = .ok request :=
    (decode_ok_iff_canonical.1 cleared request).mpr ⟨trivial, rfl, by decide +kernel⟩
  refine ⟨hset, by decide +kernel, hcleared, ?_, ?_⟩
  · rcases decode_ok_iff_canonical.2.1 set cleared request hset hcleared with hsame | hdiffer
    · exact congrArg clearPadding hsame
    · exact hdiffer.2.2
  · intro other hother
    have hnone := decode_ok_iff_canonical.2.2 set [0x00] request other hset rfl hother
    contradiction

end Request

end Modbus
