import Mathlib.Tactic
import Modbus.Proofs.FrameForms

/-!
# Bit errors

The register of the checksum is linear in the bits that it takes in: what errors make of it depends
on their positions and on nothing else in the frame.  Behind a frame and its checksum the register
is empty, so an error goes unnoticed only if by itself it leaves the register empty.  An odd number
of flipped bits does not, since taking a bit in adds it to the parity of the register.  Nor does a
burst of up to sixteen bits: they are laid over the register side by side, and after that no shift
empties it.
-/

namespace Modbus

/-! ## Parity of bits -/

namespace Bits

/-- Whether an odd number of bits is set. -/
def odd (bits : List Bool) : Bool :=
  bits.foldr xor false

@[simp] theorem odd_nil : odd [] = false := rfl

@[simp] theorem odd_cons (bit : Bool) (rest : List Bool) : odd (bit :: rest) = (bit ^^ odd rest) :=
  rfl

theorem odd_append (bits others : List Bool) : odd (bits ++ others) = (odd bits ^^ odd others) := by
  induction bits with
  | nil => simp
  | cons bit rest ih => rw [List.cons_append, odd_cons, odd_cons, ih, Bool.xor_assoc]

theorem odd_zipWith_xor {bits others : List Bool} (hlength : bits.length = others.length) :
    odd (List.zipWith xor bits others) = (odd bits ^^ odd others) := by
  induction bits generalizing others with
  | nil =>
      obtain rfl := List.length_eq_zero_iff.mp hlength.symm
      rfl
  | cons bit rest ih =>
      cases others with
      | nil => contradiction
      | cons other others =>
          have hrest : rest.length = others.length := by simpa using hlength
          rw [List.zipWith_cons_cons, odd_cons, odd_cons, odd_cons, ih hrest]
          simp only [Bool.xor_assoc, Bool.xor_left_comm]

theorem odd_eq_true_iff (bits : List Bool) : odd bits = true ↔ Odd (bits.count true) := by
  induction bits with
  | nil => simp
  | cons bit rest ih =>
      cases bit with
      | false => simpa using ih
      | true =>
          rw [odd_cons, List.count_cons_self, Nat.odd_add_one, ← ih]
          simp

theorem number_append (bits others : List Bool) :
    number (bits ++ others) = number bits + 2 ^ bits.length * number others := by
  induction bits with
  | nil => simp
  | cons bit rest ih =>
      rw [List.cons_append, number_cons, number_cons, ih, List.length_cons, Nat.pow_succ]
      ring

theorem number_ofOctet (octet : UInt8) : number (ofOctet octet) = octet.toNat := by
  rw [← toNat_toOctet (by simp), toOctet_ofOctet]

theorem number_ne_zero {bits : List Bool} (hset : true ∈ bits) : number bits ≠ 0 := by
  induction bits with
  | nil => contradiction
  | cons bit rest ih =>
      rw [number_cons]
      cases bit with
      | true =>
          rw [Bool.toNat_true]
          omega
      | false =>
          have hrest := ih (by simpa using hset)
          omega

/-! ## Marked positions -/

/-- A row of `count` bits, of which those are set whose positions are marked; the first one has
the position `first`. -/
def marks (positions : Finset Nat) (first count : Nat) : List Bool :=
  (List.range' first count).map fun position => decide (position ∈ positions)

@[simp] theorem length_marks (positions : Finset Nat) (first count : Nat) :
    (marks positions first count).length = count := by
  simp [marks]

theorem marks_add (positions : Finset Nat) (first count more : Nat) :
    marks positions first (count + more) =
      marks positions first count ++ marks positions (first + count) more := by
  have hrange := List.range'_append_1 (s := first) (m := count) (n := more)
  rw [marks, ← hrange, List.map_append]
  rfl

theorem marks_eq_replicate {positions : Finset Nat} {first count : Nat}
    (hnone : ∀ position ∈ positions, position < first ∨ first + count ≤ position) :
    marks positions first count = List.replicate count false := by
  rw [List.eq_replicate_iff]
  refine ⟨length_marks _ _ _, ?_⟩
  intro bit hbit
  obtain ⟨position, hposition, rfl⟩ := List.mem_map.mp hbit
  rw [List.mem_range'_1] at hposition
  rw [decide_eq_false_iff_not]
  intro hmarked
  have hoff := hnone position hmarked
  omega

theorem true_mem_marks {positions : Finset Nat} {position first count : Nat}
    (hmarked : position ∈ positions) (hfirst : first ≤ position)
    (hlast : position < first + count) : true ∈ marks positions first count := by
  rw [marks, List.mem_map]
  exact ⟨position, List.mem_range'_1.mpr ⟨hfirst, hlast⟩, decide_eq_true hmarked⟩

theorem count_marks {positions : Finset Nat} {count : Nat}
    (hpositions : positions ⊆ Finset.range count) :
    (marks positions 0 count).count true = positions.card := by
  let marked := (List.range count).filter fun position => decide (position ∈ positions)
  have hmarked : marked.toFinset = positions := by
    ext position
    simp only [marked, List.mem_toFinset, List.mem_filter, List.mem_range, decide_eq_true_eq]
    constructor
    · exact And.right
    · intro hposition
      exact ⟨Finset.mem_range.mp (hpositions hposition), hposition⟩
  have hnodup : marked.Nodup := List.nodup_range.filter _
  calc (marks positions 0 count).count true
      = marked.length := by
        rw [marks, ← List.range_eq_range', List.count, List.countP_map,
          List.countP_eq_length_filter]
        congr 2
        funext position
        simp
    _ = positions.card := by rw [← List.toFinset_card_of_nodup hnodup, hmarked]

/-- Marks within sixteen consecutive positions stand between bits that are not set. -/
theorem marks_of_burst {positions : Finset Nat} {count start : Nat}
    (hpositions : positions ⊆ Finset.range count) (hsome : positions.Nonempty)
    (hburst : positions ⊆ Finset.Ico start (start + 16)) :
    ∃ before row behind,
      marks positions 0 count =
        List.replicate before false ++ (row ++ List.replicate behind false) ∧
      row.length ≤ 16 ∧ true ∈ row := by
  obtain ⟨position, hposition⟩ := hsome
  have hinside := Finset.mem_range.mp (hpositions hposition)
  have hstart := Finset.mem_Ico.mp (hburst hposition)
  -- The burst may reach over the end of the row.
  obtain ⟨width, behind, hcount, hwidth, hend⟩ : ∃ width behind,
      count = start + (width + behind) ∧ width ≤ 16 ∧ (width = 16 ∨ behind = 0) := by
    by_cases hroom : start + 16 ≤ count
    · exact ⟨16, count - start - 16, by omega, le_refl 16, Or.inl rfl⟩
    · exact ⟨count - start, 0, by omega, by omega, Or.inr rfl⟩
  have hbefore : marks positions 0 start = List.replicate start false := by
    apply marks_eq_replicate
    intro other hother
    have hother := Finset.mem_Ico.mp (hburst hother)
    omega
  have hbehind : marks positions (0 + start + width) behind = List.replicate behind false := by
    apply marks_eq_replicate
    intro other hother
    have hother := Finset.mem_Ico.mp (hburst hother)
    omega
  refine ⟨start, marks positions (0 + start) width, behind, ?_, ?_, ?_⟩
  · rw [hcount, marks_add, marks_add, hbefore, hbehind]
  · rw [length_marks]
    exact hwidth
  · exact true_mem_marks hposition (by omega) (by omega)

/-- Octets with the bits at the given positions turned over.  Bits are counted as they are sent:
octet by octet, the lowest bit first. -/
def flip (positions : Finset Nat) (octets : List UInt8) : List UInt8 :=
  pack (List.zipWith xor (octets.flatMap ofOctet) (marks positions 0 (octets.length * 8)))

theorem flatMap_ofOctet_flip (positions : Finset Nat) (octets : List UInt8) :
    (flip positions octets).flatMap ofOctet =
      List.zipWith xor (octets.flatMap ofOctet) (marks positions 0 (octets.length * 8)) := by
  rw [flip, flatMap_ofOctet_pack, pad_of_dvd]
  simp

@[simp] theorem length_flip (positions : Finset Nat) (octets : List UInt8) :
    (flip positions octets).length = octets.length := by
  rw [flip, length_pack]
  simp
  omega

end Bits

/-! ## The register -/

namespace Checksum

/-- The bits of a register, lowest first. -/
def bits (register : UInt16) : List Bool :=
  (List.range 16).map fun index => register.toNat.testBit index

theorem bits_xor (register other : UInt16) :
    bits (register ^^^ other) = List.zipWith xor (bits register) (bits other) := by
  simp only [bits, UInt16.toNat_xor, Nat.testBit_xor, List.zipWith_map, List.zipWith_self]

theorem odd_bits_xor (register other : UInt16) :
    Bits.odd (bits (register ^^^ other)) = (Bits.odd (bits register) ^^ Bits.odd (bits other)) := by
  rw [bits_xor, Bits.odd_zipWith_xor (by simp [bits])]

theorem bits_shiftRight (register : UInt16) :
    bits (register >>> 1) = (bits register).tail ++ [false] := by
  have hlast : register.toNat.testBit 16 = false :=
    Nat.testBit_lt_two_pow register.toNat_lt
  simp [bits, List.range_succ_eq_map, UInt16.toNat_shiftRight, Nat.testBit_shiftRight, hlast]

/-- What shifting does to the register, with the division as a sum. -/
theorem shift_eq (register : UInt16) :
    shift register =
      (register >>> 1) ^^^ if register.toNat.testBit 0 then polynomial else 0 := by
  have hlow : register &&& 1 = 1 ↔ register.toNat.testBit 0 = true := by
    rw [← UInt16.toNat_inj, UInt16.toNat_and, Nat.testBit_zero, decide_eq_true_eq]
    show register.toNat &&& 1 = 1 ↔ _
    rw [Nat.and_one_is_mod]
  unfold shift
  simp only [hlow]
  split_ifs
  · rfl
  · rw [UInt16.xor_zero]

theorem xor_xor_xor_comm (first second third fourth : UInt16) :
    (first ^^^ second) ^^^ (third ^^^ fourth) = (first ^^^ third) ^^^ (second ^^^ fourth) := by
  ac_rfl

theorem shift_xor (register other : UInt16) :
    shift (register ^^^ other) = shift register ^^^ shift other := by
  rw [shift_eq, shift_eq register, shift_eq other, UInt16.shiftRight_xor, UInt16.toNat_xor,
    Nat.testBit_xor, xor_xor_xor_comm]
  cases register.toNat.testBit 0 <;> cases other.toNat.testBit 0 <;> simp

/-- No register but the empty one is shifted to the empty one: the polynomial has its top bit. -/
theorem shift_eq_zero_iff (register : UInt16) : shift register = 0 ↔ register = 0 := by
  constructor
  · intro hshift
    rw [shift_eq, UInt16.xor_eq_zero_iff] at hshift
    have hhalf : register.toNat / 2 =
        (if register.toNat.testBit 0 then polynomial else 0).toNat := congrArg UInt16.toNat hshift
    have hregister := register.toNat_lt
    cases hlow : register.toNat.testBit 0 with
    | true =>
        rw [hlow] at hhalf
        change register.toNat / 2 = 0xA001 at hhalf
        omega
    | false =>
        rw [hlow] at hhalf
        change register.toNat / 2 = 0 at hhalf
        rw [Nat.testBit_zero, decide_eq_false_iff_not] at hlow
        apply UInt16.toNat_inj.mp
        show register.toNat = 0
        omega
  · rintro rfl
    rfl

theorem odd_bits_shift (register : UInt16) :
    Bits.odd (bits (shift register)) = Bits.odd (bits register) := by
  have hsplit : bits register = register.toNat.testBit 0 :: (bits register).tail := by
    simp [bits, List.range_succ_eq_map]
  have hpolynomial : Bits.odd (bits polynomial) = true := by decide
  have hzero : Bits.odd (bits 0) = false := by decide
  rw [shift_eq, odd_bits_xor, bits_shiftRight, Bits.odd_append]
  rw [hsplit]
  simp only [List.tail_cons, Bits.odd_cons]
  cases register.toNat.testBit 0 <;> simp [hpolynomial, hzero]

theorem iterate_shift_eq_zero_iff (count : Nat) (register : UInt16) :
    shift^[count] register = 0 ↔ register = 0 := by
  induction count generalizing register with
  | zero => rfl
  | succ count ih => rw [Function.iterate_succ_apply, ih, shift_eq_zero_iff]

/-! ## Bits one after another -/

/-- Takes one bit into the register. -/
def absorbBit (register : UInt16) (bit : Bool) : UInt16 :=
  shift (register ^^^ bit.toUInt16)

/-- Takes bits into the register, the first one first. -/
def absorbBits (register : UInt16) (row : List Bool) : UInt16 :=
  row.foldl absorbBit register

theorem absorbBits_append (register : UInt16) (row others : List Bool) :
    absorbBits register (row ++ others) = absorbBits (absorbBits register row) others :=
  List.foldl_append

theorem absorbBit_xor (register other : UInt16) (bit otherBit : Bool) :
    absorbBit (register ^^^ other) (bit ^^ otherBit) =
      absorbBit register bit ^^^ absorbBit other otherBit := by
  have hbits : (bit ^^ otherBit).toUInt16 = bit.toUInt16 ^^^ otherBit.toUInt16 := by
    cases bit <;> cases otherBit <;> rfl
  rw [absorbBit, absorbBit, absorbBit, hbits, xor_xor_xor_comm, shift_xor]

/-- What two rows of bits make of two registers tells what their difference makes of the
difference. -/
theorem absorbBits_zipWith_xor (register other : UInt16) {row others : List Bool}
    (hlength : row.length = others.length) :
    absorbBits (register ^^^ other) (List.zipWith xor row others) =
      absorbBits register row ^^^ absorbBits other others := by
  induction row generalizing register other others with
  | nil =>
      obtain rfl := List.length_eq_zero_iff.mp hlength.symm
      rfl
  | cons bit rest ih =>
      cases others with
      | nil => contradiction
      | cons otherBit others =>
          have hrest : rest.length = others.length := by simpa using hlength
          have hrests := ih (absorbBit register bit) (absorbBit other otherBit) hrest
          rw [← absorbBit_xor] at hrests
          exact hrests

/-- Bits that are taken in add to the parity of the register. -/
theorem odd_bits_absorbBits (register : UInt16) (row : List Bool) :
    Bits.odd (bits (absorbBits register row)) =
      (Bits.odd (bits register) ^^ Bits.odd row) := by
  induction row generalizing register with
  | nil => simp [absorbBits]
  | cons bit rest ih =>
      have hbit : Bits.odd (bits bit.toUInt16) = bit := by
        cases bit <;> decide
      have hfirst : Bits.odd (bits (absorbBit register bit)) =
          (Bits.odd (bits register) ^^ bit) := by
        rw [absorbBit, odd_bits_shift, odd_bits_xor, hbit]
      calc Bits.odd (bits (absorbBits register (bit :: rest)))
          = (Bits.odd (bits (absorbBit register bit)) ^^ Bits.odd rest) := ih _
        _ = (Bits.odd (bits register) ^^ Bits.odd (bit :: rest)) := by
            rw [hfirst, Bits.odd_cons, Bool.xor_assoc]

theorem absorbBits_replicate_false (register : UInt16) (count : Nat) :
    absorbBits register (List.replicate count false) = shift^[count] register := by
  induction count generalizing register with
  | zero => rfl
  | succ count ih =>
      have hfirst : absorbBit register false = shift register := by
        rw [absorbBit]
        exact congrArg shift UInt16.xor_zero
      rw [Function.iterate_succ_apply, ← hfirst]
      exact ih _

theorem toNat_xor_double (bit : Bool) (number : Nat) :
    bit.toNat ^^^ 2 * number = bit.toNat + 2 * number := by
  apply Nat.eq_of_testBit_eq
  intro index
  rw [Nat.testBit_xor]
  cases index with
  | zero => cases bit <;> simp [Nat.testBit_zero, Nat.add_mod]
  | succ index =>
      have hbit : bit.toNat / 2 = 0 := by cases bit <;> rfl
      have hhalf : (bit.toNat + 2 * number) / 2 = 2 * number / 2 := by omega
      rw [Nat.testBit_succ, Nat.testBit_succ, Nat.testBit_succ, hbit, hhalf]
      simp

theorem ofNat_bit (bit : Bool) (number : Nat) :
    UInt16.ofNat (bit.toNat + 2 * number) = bit.toUInt16 ^^^ UInt16.ofNat (2 * number) := by
  have hbit : bit.toUInt16 = UInt16.ofNat bit.toNat := by cases bit <;> rfl
  rw [hbit, ← UInt16.ofNat_xor, toNat_xor_double]

theorem shift_double {number : Nat} (hnumber : number < 32768) :
    shift (UInt16.ofNat (2 * number)) = UInt16.ofNat number := by
  have hdouble : (UInt16.ofNat (2 * number)).toNat = 2 * number :=
    UInt16.toNat_ofNat_of_lt' (by show 2 * number < 65536; omega)
  have hlow : (2 * number).testBit 0 = false := by simp [Nat.testBit_zero]
  have hhalf : UInt16.ofNat (2 * number) >>> 1 = UInt16.ofNat number := by
    apply UInt16.toNat_inj.mp
    rw [UInt16.toNat_shiftRight, hdouble, UInt16.toNat_ofNat_of_lt' (by show number < 65536; omega)]
    show 2 * number / 2 = number
    omega
  rw [shift_eq, hdouble, hlow, hhalf]
  exact UInt16.xor_zero

/-- Up to sixteen bits may be taken in at once: they are laid over the register. -/
theorem absorbBits_eq_iterate (register : UInt16) {row : List Bool} (hrow : row.length ≤ 16) :
    absorbBits register row =
      shift^[row.length] (register ^^^ UInt16.ofNat (Bits.number row)) := by
  induction row generalizing register with
  | nil =>
      show register = register ^^^ 0
      rw [UInt16.xor_zero]
  | cons bit rest ih =>
      have hshort : rest.length ≤ 15 := by
        rw [List.length_cons] at hrow
        omega
      have hnumber : Bits.number rest < 32768 :=
        (Bits.number_lt rest).trans_le (Nat.pow_le_pow_right (by decide) hshort)
      have hstep : shift (register ^^^ UInt16.ofNat (Bits.number (bit :: rest))) =
          absorbBit register bit ^^^ UInt16.ofNat (Bits.number rest) := by
        rw [Bits.number_cons, ofNat_bit bit, ← UInt16.xor_assoc, shift_xor,
          shift_double hnumber, absorbBit]
      rw [List.length_cons, Function.iterate_succ_apply, hstep]
      exact ih _ (by omega)

theorem absorb_eq_absorbBits (register : UInt16) (octet : UInt8) :
    absorb register octet = absorbBits register (Bits.ofOctet octet) := by
  have hnumber : UInt16.ofNat (Bits.number (Bits.ofOctet octet)) = octet.toUInt16 := by
    rw [Bits.number_ofOctet, UInt16.ofNat_uInt8ToNat]
  rw [absorbBits_eq_iterate register (by simp), hnumber, Bits.length_ofOctet]
  rfl

theorem ofOctets_eq_absorbBits (octets : List UInt8) :
    ofOctets octets = absorbBits 0xFFFF (octets.flatMap Bits.ofOctet) := by
  rw [absorbBits, List.foldl_flatMap]
  exact List.foldl_ext _ _ _ (fun register octet _ => absorb_eq_absorbBits register octet)

/-- Behind octets and their checksum the register is empty. -/
theorem ofOctets_append_trailer (body : List UInt8) :
    ofOctets (body ++ Headless.trailer body) = 0 := by
  have hword := (ofOctets body).toNat_lt
  have hnumber : Bits.number ((Headless.trailer body).flatMap Bits.ofOctet) =
      (ofOctets body).toNat := by
    simp only [Headless.trailer, Word.toOctets, List.reverse_cons, List.reverse_nil,
      List.nil_append, List.cons_append, List.flatMap_cons, List.flatMap_nil, List.append_nil,
      Bits.number_append, Bits.number_ofOctet, Bits.length_ofOctet, UInt8.toNat_ofNat']
    omega
  have hlength : ((Headless.trailer body).flatMap Bits.ofOctet).length = 16 := by
    rw [Bits.length_flatMap_ofOctet]
    rfl
  rw [ofOctets_eq_absorbBits, List.flatMap_append, absorbBits_append, ← ofOctets_eq_absorbBits,
    absorbBits_eq_iterate _ hlength.le, hnumber, UInt16.ofNat_toNat, UInt16.xor_self,
    iterate_shift_eq_zero_iff]

theorem ofOctets_flip (positions : Finset Nat) (octets : List UInt8) :
    ofOctets (Bits.flip positions octets) =
      ofOctets octets ^^^ absorbBits 0 (Bits.marks positions 0 (octets.length * 8)) := by
  have hlength : (octets.flatMap Bits.ofOctet).length =
      (Bits.marks positions 0 (octets.length * 8)).length := by
    rw [Bits.length_flatMap_ofOctet, Bits.length_marks]
  have hsplit := absorbBits_zipWith_xor 0xFFFF 0 hlength
  rw [UInt16.xor_zero] at hsplit
  rw [ofOctets_eq_absorbBits, Bits.flatMap_ofOctet_flip, hsplit, ← ofOctets_eq_absorbBits]

/-! ## What the register tells apart -/

theorem absorbBits_zero_replicate (count : Nat) :
    absorbBits 0 (List.replicate count false) = 0 := by
  rw [absorbBits_replicate_false, iterate_shift_eq_zero_iff]

theorem absorbBits_ne_zero_of_odd {row : List Bool} (hodd : Bits.odd row = true) :
    absorbBits 0 row ≠ 0 := by
  intro hzero
  have hparity := odd_bits_absorbBits 0 row
  have hempty : Bits.odd (bits 0) = false := by decide
  rw [hzero, hempty, hodd] at hparity
  contradiction

theorem absorbBits_ne_zero_of_short {row : List Bool} (hrow : row.length ≤ 16)
    (hset : true ∈ row) : absorbBits 0 row ≠ 0 := by
  have hnumber : (UInt16.ofNat (Bits.number row)).toNat = Bits.number row :=
    UInt16.toNat_ofNat_of_lt'
      ((Bits.number_lt row).trans_le (Nat.pow_le_pow_right (by decide) hrow))
  intro hzero
  rw [absorbBits_eq_iterate 0 hrow, UInt16.zero_xor, iterate_shift_eq_zero_iff] at hzero
  rw [hzero] at hnumber
  exact Bits.number_ne_zero hset hnumber.symm

theorem absorbBits_ne_zero_of_burst {row : List Bool} (before behind : Nat)
    (hrow : row.length ≤ 16) (hset : true ∈ row) :
    absorbBits 0 (List.replicate before false ++ (row ++ List.replicate behind false)) ≠ 0 := by
  rw [absorbBits_append, absorbBits_append, absorbBits_zero_replicate, absorbBits_replicate_false,
    Ne, iterate_shift_eq_zero_iff]
  exact absorbBits_ne_zero_of_short hrow hset

end Checksum

/-! ## Flipped bits of a frame -/

namespace Headless

/-- Behind a frame that is accepted the register is empty. -/
theorem ofOctets_of_decode {octets : List UInt8} {frame : Frame}
    (hdecode : decode true octets = .ok frame) : Checksum.ofOctets octets = 0 := by
  obtain ⟨-, -, -, -, rfl⟩ := (decode_eq_ok_iff_encode true octets frame).mp hdecode
  exact Checksum.ofOctets_append_trailer (frame.header.unitId :: frame.pdu)

/-- An odd number of flips, or some within sixteen consecutive bits. -/
def Detectable (positions : Finset Nat) : Prop :=
  Odd positions.card ∨
    positions.Nonempty ∧ ∃ start, positions ⊆ Finset.Ico start (start + 16)

theorem Detectable.absorbBits_marks {positions : Finset Nat} {count : Nat}
    (hdetectable : Detectable positions) (hpositions : positions ⊆ Finset.range count) :
    Checksum.absorbBits 0 (Bits.marks positions 0 count) ≠ 0 := by
  rcases hdetectable with hodd | ⟨hsome, start, hburst⟩
  · apply Checksum.absorbBits_ne_zero_of_odd
    rw [Bits.odd_eq_true_iff, Bits.count_marks hpositions]
    exact hodd
  · obtain ⟨before, row, behind, hmarks, hrow, hset⟩ :=
      Bits.marks_of_burst hpositions hsome hburst
    rw [hmarks]
    exact Checksum.absorbBits_ne_zero_of_burst before behind hrow hset

/-- A frame with a checksum in which an odd number of bits was flipped, or any within sixteen
consecutive ones, those of the checksum included, is refused for its checksum. -/
theorem decode_flip_eq_error {frame : Frame} {positions : Finset Nat}
    (hsome : 1 ≤ frame.pdu.length) (hshort : frame.pdu.length ≤ Limits.pdu)
    (hpositions : positions ⊆ Finset.range ((encode true frame).length * 8))
    (hdetectable : Detectable positions) :
    ∃ calculated received,
      decode true (Bits.flip positions (encode true frame)) =
        .error (.checksum calculated received) := by
  have hregister : Checksum.ofOctets (Bits.flip positions (encode true frame)) ≠ 0 := by
    have hintact := ofOctets_of_decode (decode_encode true hsome hshort)
    rw [Checksum.ofOctets_flip, hintact, UInt16.zero_xor]
    exact hdetectable.absorbBits_marks hpositions
  have hsized : Sized true (Bits.flip positions (encode true frame)) := by
    have hlength := length_encode true frame
    simp only [if_true] at hlength
    simp only [Limits.pdu] at hshort
    simp only [Sized, if_true, Bits.length_flip, Limits.serialFrame]
    omega
  cases hdecode : decode true (Bits.flip positions (encode true frame)) with
  | ok read => exact absurd (ofOctets_of_decode hdecode) hregister
  | error fault =>
      rcases fault_of_decode hdecode with ⟨hnot, -⟩ | ⟨-, calculated, received, rfl⟩
      · exact absurd hsized hnot
      · exact ⟨calculated, received, rfl⟩

/-- The last bit of the payload and the first one of the checksum, and three bits far apart. -/
theorem decode_flip_border :
    let frame : Frame := ⟨⟨0, 0, 1⟩, [3, 0, 0, 0, 10]⟩
    (∃ calculated received, decode true (Bits.flip {47, 48} (encode true frame)) =
      .error (.checksum calculated received)) ∧
    ∃ calculated received, decode true (Bits.flip {0, 30, 63} (encode true frame)) =
      .error (.checksum calculated received) := by
  intro frame
  have hlength : (encode true frame).length = 8 := rfl
  constructor
  · exact decode_flip_eq_error (by decide) (by decide) (by rw [hlength]; decide)
      (Or.inr ⟨by decide, 40, by decide⟩)
  · exact decode_flip_eq_error (by decide) (by decide) (by rw [hlength]; decide)
      (Or.inl (by decide))

end Headless

end Modbus
