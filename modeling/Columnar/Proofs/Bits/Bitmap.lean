import Mathlib.Tactic.Common
import Mathlib.Data.Nat.Bitwise
import Columnar.Bits.Bitmap
import Columnar.Proofs.Bytes

/-!
# Bitmaps as sequences of bits

A bitmap is seen through `Bytes.bit`, which says for each position whether its bit is set. Reading
agrees with that view, setting a bit changes it in one place, and a bitmap is determined by its size
and its bits. `Bytes.ofBits` packs given bits.
-/

namespace Columnar.Bytes
variable {b : Bytes} {i j n : Nat}

/-- Whether bit `i` is set. Bits behind the end are clear. -/
def bit (b : Bytes) (i : Nat) : Bool := (b.getD (i / 8) 0).toNat.testBit (i % 8)

/-- Given bits packed into as few bytes as hold them. The bits that are left are clear. -/
def ofBits (bits : List Bool) : Bytes :=
  Array.ofFn fun byte : Fin ((bits.length + 7) / 8) =>
    UInt8.ofNat (Nat.ofBits fun k : Fin 8 => bits.getD (8 * byte + k) false)

lemma bit_eq (h : i / 8 < b.size) : b.bit i = b[i / 8].toNat.testBit (i % 8) := by
  rw [bit, Array.getD_eq_getD_getElem?, Array.getElem?_eq_getElem h, Option.getD_some]

lemma bit_of_le (h : 8 * b.size ≤ i) : b.bit i = false := by
  rw [bit, Array.getD_eq_getD_getElem?, Array.getElem?_eq_none (by omega), Option.getD_none]
  exact Nat.zero_testBit _

lemma getBit_eq (h : i < 8 * b.size) : b.getBit i = .ok (b.bit i) := by
  have byte : (i : Int) / 8 = (i / 8 : Nat) := by omega
  have place : ((i : Int) % 8).toNat = i % 8 := by omega
  rw [getBit, byte, place, read_eq (by omega), bit_eq (by omega)]
  rfl

lemma getBit_of_nonneg {p : Int} (lo : 0 ≤ p) (hi : p < 8 * b.size) :
    b.getBit p = .ok (b.bit p.toNat) := by
  obtain ⟨i, rfl⟩ := Int.eq_ofNat_of_zero_le lo
  exact getBit_eq (by omega)

/-- The mask of a bit selects that bit only. -/
lemma testBit_bitMask {k m : Nat} (hk : k < 8) :
    (bitMask k).toNat.testBit m = decide (m = k) := by
  have small : 2 ^ k < 2 ^ 8 := Nat.pow_lt_pow_right (by decide) hk
  rw [bitMask, Nat.mod_eq_of_lt hk, UInt8.toNat_ofNat', Nat.mod_eq_of_lt small,
    Nat.testBit_two_pow]
  simp [eq_comm]

/-- Changing a byte changes its own bits only. -/
lemma modify_bits (h : i < b.size) (f : UInt8 → UInt8) :
    ∃ c, b.modify i f = .ok c ∧ c.size = b.size ∧
      ∀ j, c.bit j = if j / 8 = i then (f b[i]).toNat.testBit (j % 8) else b.bit j := by
  refine ⟨b.set i (f b[i]), modify_eq h, Array.size_set .., fun j => ?_⟩
  by_cases inside : j / 8 < b.size
  · rw [bit_eq (by rwa [Array.size_set]), bit_eq inside, Array.getElem_set]
    by_cases same : j / 8 = i
    · rw [if_pos same, if_pos same.symm]
    · rw [if_neg same, if_neg (Ne.symm same)]
  · rw [if_neg (by omega), bit_of_le (by rw [Array.size_set]; omega), bit_of_le (by omega)]

/-- Setting a bit inside leaves the size and the other bits. -/
lemma setBit_eq (h : i < 8 * b.size) :
    ∃ c, b.setBit i = .ok c ∧ c.size = b.size ∧ ∀ j, c.bit j = (b.bit j || decide (j = i)) := by
  have byte : (i : Int) / 8 = (i / 8 : Nat) := by omega
  have place : ((i : Int) % 8).toNat = i % 8 := by omega
  obtain ⟨c, run, size, bits⟩ := modify_bits (b := b) (i := i / 8) (by omega)
    (· ||| bitMask (i % 8))
  refine ⟨c, ?_, size, fun j => ?_⟩
  · rw [setBit, byte, place]
    exact run
  · rw [bits j]
    by_cases same : j / 8 = i / 8
    · have mask := testBit_bitMask (m := j % 8) (Nat.mod_lt i (by decide : 8 > 0))
      have position : j % 8 = i % 8 ↔ j = i := by omega
      rw [if_pos same, UInt8.toNat_or, Nat.testBit_or, mask, bit_eq (by omega)]
      simp only [position, same]
    · have other : ¬ j = i := fun e => same (by rw [e])
      simp [same, other]

/-- Bitmaps of one size with the same bits are the same. -/
lemma eq_of_bits {a b : Bytes} (size : a.size = b.size) (bits : ∀ i, a.bit i = b.bit i) :
    a = b := by
  apply Array.ext size
  intro i ha hb
  apply UInt8.toNat_inj.1
  apply Nat.eq_of_testBit_eq
  intro k
  by_cases hk : k < 8
  · have same := bits (8 * i + k)
    have place : (8 * i + k) / 8 = i := by omega
    have low : (8 * i + k) % 8 = k := by omega
    rw [bit_eq (by omega), bit_eq (by omega)] at same
    simpa only [place, low] using same
  · have big : 2 ^ 8 ≤ 2 ^ k := Nat.pow_le_pow_right (by decide) (by omega)
    rw [Nat.testBit_lt_two_pow (by have := a[i].toNat_lt; omega),
      Nat.testBit_lt_two_pow (by have := b[i].toNat_lt; omega)]

@[simp] lemma size_zeros (n : Nat) : (zeros n).size = n := by
  simp [zeros, fill]

@[simp] lemma bit_zeros (n i : Nat) : (zeros n).bit i = false := by
  by_cases h : i / 8 < n
  · rw [bit_eq (by simpa using h)]
    simp [zeros, fill]
  · exact bit_of_le (by rw [size_zeros]; omega)

lemma bit_append (a b : Bytes) (i : Nat) :
    bit (a ++ b) i = if i < 8 * a.size then a.bit i else b.bit (i - 8 * a.size) := by
  by_cases h : i < 8 * a.size
  · rw [if_pos h, bit_eq (by rw [Array.size_append]; omega), bit_eq (by omega),
      Array.getElem_append_left]
  · rw [if_neg h]
    by_cases inside : i / 8 < (a ++ b).size
    · have place : (i - 8 * a.size) / 8 = i / 8 - a.size := by omega
      have low : (i - 8 * a.size) % 8 = i % 8 := by omega
      have right : (i - 8 * a.size) / 8 < b.size := by
        rw [Array.size_append] at inside
        omega
      rw [bit_eq inside, bit_eq right, Array.getElem_append_right (by omega), low]
      simp only [place]
    · rw [Array.size_append] at inside
      rw [bit_of_le (by rw [Array.size_append]; omega), bit_of_le (by omega)]

@[simp] lemma size_ofBits (bits : List Bool) : (ofBits bits).size = (bits.length + 7) / 8 := by
  simp [ofBits]

@[simp] lemma bit_ofBits (bits : List Bool) (i : Nat) :
    (ofBits bits).bit i = bits.getD i false := by
  by_cases h : i / 8 < (ofBits bits).size
  · have small := Nat.ofBits_lt_two_pow fun k : Fin 8 => bits.getD (8 * (i / 8) + k) false
    have place : 8 * (i / 8) + i % 8 = i := by omega
    rw [bit_eq h]
    simp only [ofBits, Array.getElem_ofFn]
    rw [UInt8.toNat_ofNat', Nat.mod_eq_of_lt small,
      Nat.testBit_ofBits_lt _ _ (Nat.mod_lt i (by decide))]
    simp only [place]
  · rw [size_ofBits] at h
    rw [bit_of_le (by rw [size_ofBits]; omega), List.getD_eq_default _ _ (by omega)]

end Columnar.Bytes
