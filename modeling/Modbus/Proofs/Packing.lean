import Mathlib.Tactic
import Modbus.Octets

/-!
# Packed bits and written words

A row of bits comes back from its octets with the bits that fill the last octet,
and a row of octets is what its own bits pack to.  Words are written in two
octets each, so a row of words is determined by its octets.
-/

namespace Modbus

/-! ## Words -/

theorem Word.toOctets_inj {word other : UInt16} :
    Word.toOctets word = Word.toOctets other ↔ word = other := by
  constructor
  · intro hsame
    simp only [Word.toOctets, List.cons.injEq, and_true] at hsame
    rw [← Word.ofOctets_toOctets word, hsame.1, hsame.2, Word.ofOctets_toOctets]
  · rintro rfl
    rfl

theorem Words.toOctets_inj {words others : List UInt16} :
    Words.toOctets words = Words.toOctets others ↔ words = others := by
  constructor
  · intro hsame
    induction words generalizing others with
    | nil =>
        cases others with
        | nil => rfl
        | cons other others => simp [Word.toOctets] at hsame
    | cons word words ih =>
        cases others with
        | nil => simp [Word.toOctets] at hsame
        | cons other others =>
            obtain ⟨hword, hwords⟩ := List.append_inj hsame rfl
            rw [Word.toOctets_inj.mp hword, ih hwords]
  · rintro rfl
    rfl

/-! ## One octet -/

@[simp] theorem Bits.number_nil : Bits.number [] = 0 := rfl

@[simp] theorem Bits.number_cons (bit : Bool) (rest : List Bool) :
    Bits.number (bit :: rest) = bit.toNat + 2 * Bits.number rest := rfl

theorem Bits.testBit_number (bits : List Bool) (index : Nat) :
    (Bits.number bits).testBit index = bits.getD index false := by
  induction bits generalizing index with
  | nil => simp
  | cons bit rest ih =>
      have hbit : bit.toNat ≤ 1 := Bool.toNat_le bit
      cases index with
      | zero =>
          cases bit <;> simp [Nat.testBit_zero, Nat.add_mod]
      | succ index =>
          have hhalf : (bit.toNat + 2 * Bits.number rest) / 2 = Bits.number rest := by
            omega
          rw [Bits.number_cons, Nat.testBit_succ, hhalf, ih index]
          rfl

theorem Bits.number_lt (bits : List Bool) : Bits.number bits < 2 ^ bits.length := by
  induction bits with
  | nil => simp
  | cons bit rest ih =>
      have hbit : bit.toNat ≤ 1 := Bool.toNat_le bit
      rw [Bits.number_cons, List.length_cons, Nat.pow_succ]
      omega

theorem Bits.toNat_toOctet {bits : List Bool} (hbits : bits.length ≤ 8) :
    (Bits.toOctet bits).toNat = Bits.number bits := by
  have hlt := Bits.number_lt bits
  have hpow : 2 ^ bits.length ≤ 2 ^ 8 := Nat.pow_le_pow_right (by decide) hbits
  rw [Bits.toOctet, UInt8.toNat_ofNat']
  exact Nat.mod_eq_of_lt (by omega)

theorem Bits.ofOctet_toOctet {bits : List Bool} (hbits : bits.length ≤ 8) :
    Bits.ofOctet (Bits.toOctet bits) = bits ++ List.replicate (8 - bits.length) false := by
  apply List.ext_getElem
  · simp
    omega
  · intro index hleft hright
    simp only [Bits.ofOctet, List.getElem_map, List.getElem_range, Bits.toNat_toOctet hbits]
    rw [Bits.testBit_number]
    by_cases hin : index < bits.length
    · simp [List.getElem_append_left hin, hin]
    · rw [List.getElem_append_right (by omega)]
      simp [hin]

theorem Bits.toOctet_ofOctet (octet : UInt8) : Bits.toOctet (Bits.ofOctet octet) = octet := by
  apply UInt8.toNat_inj.mp
  rw [Bits.toNat_toOctet (by simp)]
  apply Nat.eq_of_testBit_eq
  intro index
  rw [Bits.testBit_number]
  by_cases hindex : index < 8
  · simp [Bits.ofOctet, hindex]
  · have hlt : octet.toNat < 2 ^ index :=
      lt_of_lt_of_le octet.toNat_lt (Nat.pow_le_pow_right (by decide) (by omega))
    rw [Nat.testBit_lt_two_pow hlt]
    simp [Bits.ofOctet, hindex]

/-! ## Rows of bits -/

/-- A row of bits, filled up with cleared bits to whole octets. -/
def Bits.pad (bits : List Bool) : List Bool :=
  bits ++ List.replicate ((bits.length + 7) / 8 * 8 - bits.length) false

@[simp] theorem Bits.length_pad (bits : List Bool) :
    (Bits.pad bits).length = (bits.length + 7) / 8 * 8 := by
  simp only [Bits.pad, List.length_append, List.length_replicate]
  omega

theorem Bits.take_pad (bits : List Bool) : (Bits.pad bits).take bits.length = bits := by
  simp [Bits.pad]

/-- Whole octets need no filling. -/
theorem Bits.pad_of_dvd {bits : List Bool} (hbits : 8 ∣ bits.length) :
    Bits.pad bits = bits := by
  have hzero : (bits.length + 7) / 8 * 8 - bits.length = 0 := by omega
  simp [Bits.pad, hzero]

@[simp] theorem Bits.pack_nil : Bits.pack [] = [] := by
  simp [Bits.pack]

theorem Bits.pack_of_ne_nil {bits : List Bool} (hbits : bits ≠ []) :
    Bits.pack bits = Bits.toOctet (bits.take 8) :: Bits.pack (bits.drop 8) := by
  cases bits with
  | nil => contradiction
  | cons bit rest => rw [Bits.pack]

@[simp] theorem Bits.length_pack (bits : List Bool) :
    (Bits.pack bits).length = (bits.length + 7) / 8 := by
  induction bits using Bits.pack.induct with
  | case1 => simp
  | case2 bit rest ih =>
      rw [Bits.pack_of_ne_nil (by simp), List.length_cons, ih]
      simp only [List.length_drop, List.length_cons]
      omega

/-- Packing loses nothing but how many bits of the last octet were meant. -/
theorem Bits.flatMap_ofOctet_pack (bits : List Bool) :
    (Bits.pack bits).flatMap Bits.ofOctet = Bits.pad bits := by
  induction bits using Bits.pack.induct with
  | case1 => simp [Bits.pad]
  | case2 bit rest ih =>
      rw [Bits.pack_of_ne_nil (by simp), List.flatMap_cons, ih,
        Bits.ofOctet_toOctet (by simp)]
      by_cases hshort : (bit :: rest).length ≤ 8
      · have hfill : ((bit :: rest).length + 7) / 8 * 8 - (bit :: rest).length =
            8 - (bit :: rest).length := by
          simp only [List.length_cons] at hshort ⊢
          omega
        rw [List.take_of_length_le hshort, List.drop_of_length_le hshort, Bits.pad, Bits.pad,
          hfill]
        simp
      · have htake : ((bit :: rest).take 8).length = 8 := by
          rw [List.length_take]
          omega
        have hfill : ((bit :: rest).length + 7) / 8 * 8 - (bit :: rest).length =
            (((bit :: rest).drop 8).length + 7) / 8 * 8 - ((bit :: rest).drop 8).length := by
          rw [List.length_drop]
          omega
        rw [htake, Bits.pad, Bits.pad, hfill, ← List.append_assoc]
        simp only [Nat.sub_self, List.replicate_zero, List.append_nil, List.take_append_drop]

/-- Octets are what their bits pack to. -/
theorem Bits.pack_flatMap_ofOctet (octets : List UInt8) :
    Bits.pack (octets.flatMap Bits.ofOctet) = octets := by
  induction octets with
  | nil => simp
  | cons octet rest ih =>
      have hne : Bits.ofOctet octet ++ rest.flatMap Bits.ofOctet ≠ [] := by
        simp [Bits.ofOctet]
      rw [List.flatMap_cons, Bits.pack_of_ne_nil hne,
        List.take_left' (Bits.length_ofOctet octet), List.drop_left' (Bits.length_ofOctet octet),
        Bits.toOctet_ofOctet, ih]

@[simp] theorem Bits.length_flatMap_ofOctet (octets : List UInt8) :
    (octets.flatMap Bits.ofOctet).length = octets.length * 8 := by
  induction octets with
  | nil => rfl
  | cons octet rest ih =>
      rw [List.flatMap_cons, List.length_append, ih, Bits.length_ofOctet, List.length_cons]
      omega

@[simp] theorem Bits.length_unpack (octets : List UInt8) (count : Nat) :
    (Bits.unpack octets count).length = min count (octets.length * 8) := by
  simp [Bits.unpack]

/-- All bits of a row of octets. -/
theorem Bits.unpack_all (octets : List UInt8) :
    Bits.unpack octets (octets.length * 8) = octets.flatMap Bits.ofOctet := by
  rw [Bits.unpack]
  exact List.take_of_length_le (by simp)

theorem Bits.unpack_pack (bits : List Bool) :
    Bits.unpack (Bits.pack bits) bits.length = bits := by
  rw [Bits.unpack, Bits.flatMap_ofOctet_pack, Bits.take_pad]

end Modbus
