import Mathlib.Data.List.GetD
import Mathlib.Data.Nat.Bitwise
import Mathlib.Tactic
import Modbus.Proofs.Packing

/-!
# Where a bit stands

A row of octets is also a row of bits that can be looked at and set at any place: the
octet is the place divided by eight, and the bit in it is the remainder.  Bits may then be
packed one after another into octets that are there from the beginning, each at its own
place.  After each bit the octets show what has been packed so far and cleared bits behind
it, so the result is the same as when eight bits at a time are made into an octet.
-/

namespace Modbus

namespace Bits

/-! ## One place -/

/-- The octet in which only the bit of a place is set. -/
def mark (place : Nat) : UInt8 := 1 <<< UInt8.ofNat (place % 8)

/-- Whether the bit at a place is set. -/
def isSet (octets : List UInt8) (place : Nat) : Bool :=
  octets.getD (place / 8) 0 &&& mark place != 0

/-- Octets with the bit at a place set. -/
def raise (octets : List UInt8) (place : Nat) : List UInt8 :=
  octets.modify (place / 8) (· ||| mark place)

theorem toNat_mark (place : Nat) : (mark place).toNat = 2 ^ (place % 8) := by
  have hplace : place % 8 < 8 := Nat.mod_lt _ (by decide)
  have hlt : 2 ^ (place % 8) < 256 :=
    lt_of_lt_of_eq (Nat.pow_lt_pow_right (by decide) hplace) (by decide)
  rw [mark, UInt8.toNat_shiftLeft, UInt8.toNat_ofNat', UInt8.toNat_one, Nat.one_shiftLeft]
  rw [Nat.mod_eq_of_lt (show place % 8 < 2 ^ 8 by omega), Nat.mod_eq_of_lt hplace,
    Nat.mod_eq_of_lt hlt]

theorem isSet_eq_testBit (octets : List UInt8) (place : Nat) :
    isSet octets place = (octets.getD (place / 8) 0).toNat.testBit (place % 8) := by
  rw [isSet, Bool.eq_iff_iff, bne_iff_ne, ne_eq, ← UInt8.toNat_inj, UInt8.toNat_and, toNat_mark,
    Nat.and_two_pow]
  cases (octets.getD (place / 8) 0).toNat.testBit (place % 8) <;> simp

@[simp] theorem length_raise (octets : List UInt8) (place : Nat) :
    (raise octets place).length = octets.length :=
  List.length_modify _ _ _

theorem isSet_raise {octets : List UInt8} {place : Nat} (hplace : place < 8 * octets.length)
    (other : Nat) :
    isSet (raise octets place) other = (isSet octets other || decide (other = place)) := by
  have hthere : place / 8 < octets.length := by omega
  rw [isSet_eq_testBit, isSet_eq_testBit, raise, List.getD_eq_getElem?_getD,
    List.getElem?_modify, List.getD_eq_getElem?_getD]
  by_cases hoctet : place / 8 = other / 8
  · rw [← hoctet, List.getElem?_eq_getElem hthere]
    simp only [Option.map_eq_map, Option.map_some, Option.getD_some, if_true, UInt8.toNat_or,
      toNat_mark, Nat.testBit_or, Nat.testBit_two_pow]
    congr 1
    exact decide_eq_decide.mpr (by omega)
  · have hother : other ≠ place := fun hsame => hoctet (by rw [hsame])
    simp [hoctet, hother]

theorem isSet_replicate_zero (count place : Nat) :
    isSet (List.replicate count 0) place = false := by
  rw [isSet_eq_testBit, List.getD_eq_getElem?_getD, List.getElem?_getD_replicate_default_eq]
  exact Nat.zero_testBit _

theorem isSet_eq_getD (octets : List UInt8) (place : Nat) :
    isSet octets place = (octets.flatMap ofOctet).getD place false := by
  induction octets generalizing place with
  | nil => rw [isSet_eq_testBit]; simp
  | cons octet rest ih =>
      rw [List.flatMap_cons]
      by_cases hfirst : place < 8
      · have hoctet : place / 8 = 0 := Nat.div_eq_of_lt hfirst
        rw [isSet_eq_testBit, hoctet, Nat.mod_eq_of_lt hfirst, List.getD_append _ _ _ _ (by simpa)]
        simp [ofOctet, hfirst]
      · have hrest : isSet (octet :: rest) place = isSet rest (place - 8) := by
          have hoctet : place / 8 = (place - 8) / 8 + 1 := by omega
          have hbit : place % 8 = (place - 8) % 8 := by omega
          rw [isSet_eq_testBit, isSet_eq_testBit, hoctet, hbit, List.getD_cons_succ]
        rw [hrest, ih, List.getD_append_right _ _ _ _ (by simpa using hfirst), length_ofOctet]

theorem ext_isSet {octets others : List UInt8} (hlength : octets.length = others.length)
    (hbits : ∀ place, isSet octets place = isSet others place) : octets = others := by
  rw [← pack_flatMap_ofOctet octets, ← pack_flatMap_ofOctet others]
  congr 1
  apply List.ext_getElem
  · simp [hlength]
  · intro place hleft hright
    have hsame := hbits place
    rw [isSet_eq_getD, isSet_eq_getD] at hsame
    rwa [List.getD_eq_getElem _ _ hleft, List.getD_eq_getElem _ _ hright] at hsame

/-! ## Packing in place -/

/-- Puts bits into octets, from a place on. -/
def store (octets : List UInt8) (place : Nat) : List Bool → List UInt8
  | [] => octets
  | bit :: rest => store (if bit then raise octets place else octets) (place + 1) rest

/-- Packs bits into octets that are cleared at first. -/
def packInPlace (bits : List Bool) : List UInt8 :=
  store (List.replicate ((bits.length + 7) / 8) 0) 0 bits

@[simp] theorem length_store (octets : List UInt8) (place : Nat) (bits : List Bool) :
    (store octets place bits).length = octets.length := by
  induction bits generalizing octets place with
  | nil => rfl
  | cons bit rest ih =>
      rw [store, ih]
      cases bit <;> simp

/-- Bits that are put into octets stand there from the first place on, beside those that were
set before. -/
theorem isSet_store {octets : List UInt8} {place : Nat} {bits : List Bool}
    (hroom : place + bits.length ≤ 8 * octets.length) (other : Nat) :
    isSet (store octets place bits) other =
      (isSet octets other || (decide (place ≤ other) && bits.getD (other - place) false)) := by
  -- Each bit may only add its own place, so the places behind it are still as they were.
  induction bits generalizing octets place with
  | nil => simp [store]
  | cons bit rest ih =>
      rw [List.length_cons] at hroom
      have hnext : isSet (if bit then raise octets place else octets) other =
          (isSet octets other || (bit && decide (other = place))) := by
        cases bit with
        | false => simp
        | true => simpa using isSet_raise (by omega) other
      have hlength : (if bit then raise octets place else octets).length = octets.length := by
        cases bit <;> simp
      rw [store, ih (by rw [hlength]; omega), hnext, Bool.or_assoc]
      congr 1
      rcases Nat.lt_trichotomy other place with hbefore | rfl | hbehind
      · simp [show ¬place ≤ other by omega, show ¬place + 1 ≤ other by omega, hbefore.ne]
      · simp
      · have hindex : other - place = other - (place + 1) + 1 := by omega
        rw [hindex, List.getD_cons_succ]
        simp [hbehind.ne', hbehind.le, Nat.succ_le_of_lt hbehind]

theorem isSet_packInPlace (bits : List Bool) (place : Nat) :
    isSet (packInPlace bits) place = bits.getD place false := by
  have hroom : 0 + bits.length ≤
      8 * (List.replicate ((bits.length + 7) / 8) (0 : UInt8)).length := by
    rw [List.length_replicate]
    omega
  rw [packInPlace, isSet_store hroom, isSet_replicate_zero]
  simp

theorem isSet_pack (bits : List Bool) (place : Nat) :
    isSet (pack bits) place = bits.getD place false := by
  rw [isSet_eq_getD, flatMap_ofOctet_pack, pad]
  by_cases hinside : place < bits.length
  · exact List.getD_append _ _ _ _ hinside
  · rw [List.getD_append_right _ _ _ _ (by omega), List.getD_eq_getElem?_getD,
      List.getElem?_getD_replicate_default_eq, List.getD_eq_default _ _ (by omega)]

theorem packInPlace_eq_pack (bits : List Bool) : packInPlace bits = pack bits :=
  ext_isSet (by simp [packInPlace]) fun place => by rw [isSet_packInPlace, isSet_pack]

/-! ## Reading place by place -/

theorem unpack_eq_map (octets : List UInt8) (count : Nat) :
    unpack octets count = (List.range (min count (8 * octets.length))).map (isSet octets) := by
  apply List.ext_getElem
  · simp [Nat.mul_comm]
  · intro place hleft hright
    have hplace : place < (octets.flatMap ofOctet).length := by
      rw [length_unpack] at hleft
      rw [length_flatMap_ofOctet]
      omega
    simp only [unpack, List.getElem_take, List.getElem_map, List.getElem_range]
    rw [isSet_eq_getD, List.getD_eq_getElem _ _ hplace]

/-- Bits are packed in as few octets as hold them, each at its own place and nothing set behind
the last one.  What is read from the octets is read place by place; all that they hold is the
bits and what fills the last octet, and any octets are what their own bits are packed to. -/
theorem pack_unpack_places (bits : List Bool) (octets : List UInt8) (count : Nat) :
    pack bits = packInPlace bits ∧
      (pack bits).length = (bits.length + 7) / 8 ∧
      (∀ place, isSet (pack bits) place = bits.getD place false) ∧
      (∀ behind, isSet (pack bits) (bits.length + behind) = false) ∧
      unpack (pack bits) bits.length = bits ∧
      unpack (pack bits) (8 * ((bits.length + 7) / 8)) =
        bits ++ List.replicate (8 * ((bits.length + 7) / 8) - bits.length) false ∧
      unpack octets count = (List.range (min count (8 * octets.length))).map (isSet octets) ∧
      (unpack octets count).length = min count (8 * octets.length) ∧
      pack (unpack octets (8 * octets.length)) = octets := by
  have hall : unpack (pack bits) (8 * ((bits.length + 7) / 8)) = pad bits := by
    have hfull : 8 * ((bits.length + 7) / 8) = (pack bits).length * 8 := by
      rw [length_pack, Nat.mul_comm]
    rw [hfull, unpack_all, flatMap_ofOctet_pack]
  refine ⟨(packInPlace_eq_pack bits).symm, length_pack bits, isSet_pack bits, fun behind => ?_,
    unpack_pack bits, ?_, unpack_eq_map octets count, ?_, ?_⟩
  · rw [isSet_pack, List.getD_eq_default _ _ (by omega)]
  · rw [hall, pad, Nat.mul_comm]
  · rw [length_unpack, Nat.mul_comm]
  · rw [Nat.mul_comm, unpack_all, pack_flatMap_ofOctet]

example : pack [true, false, true, true, false, false, true, true, true, false] = [0xCD, 0x01] := by
  decide +kernel

end Bits

end Modbus
