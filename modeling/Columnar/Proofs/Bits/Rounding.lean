import Mathlib.Tactic.Common
import Columnar.Bits.Rounding

/-!
# Rounding is exact

The shifts and masks of the rounding formulas compute exact ceilings on the sizes that they are used
for. `toInt_roundUp` is the general law, for a factor that is a power of two, and
`toInt_bytesForBits` that for bytes, which holds of every word; `byteCount_eq` and `paddedSize_eq`
are the two formulas that columns and buffers use.
-/

namespace Columnar.Rounding

lemma toInt_ofInt {n : Nat} (hi : n < 2 ^ 63) : (Int64.ofInt n).toInt = n :=
  Int64.toInt_ofInt_of_le (by omega) (by omega)

lemma toNat_ofInt {n : Nat} (hi : n < 2 ^ 64) : (Int64.ofInt n).toBitVec.toNat = n := by
  rw [Int64.toBitVec_ofInt, BitVec.toNat_ofInt]
  omega

lemma ofInt_sub_one {n : Nat} (pos : 0 < n) : Int64.ofInt n - 1 = Int64.ofInt (n - 1 : Nat) := by
  rw [show (1 : Int64) = Int64.ofInt 1 from rfl, ← Int64.ofInt_sub]
  exact congrArg _ (Int.ofNat_sub pos).symm

lemma toInt_eq_toNat {x : Int64} (h : x.toBitVec.toNat < 2 ^ 63) : x.toInt = x.toBitVec.toNat := by
  rw [← Int64.toInt_toBitVec, BitVec.toInt_eq_toNat_of_lt (by omega)]

/-- Shifting three bits out divides by eight, rounding down. -/
lemma toInt_shiftRight_three (x : Int64) : (x >>> 3).toInt = x.toInt / 8 := by
  have amount : (3 : Int64).toBitVec.smod 64 = 3 := by decide
  rw [← Int64.toInt_toBitVec, Int64.toBitVec_shiftRight, amount, BitVec.sshiftRight_eq',
    BitVec.toInt_sshiftRight, Int64.toInt_toBitVec, Int.shiftRight_eq_div_pow]
  rfl

/-- A mask of the low bits takes the remainder. -/
lemma toNat_and_mask (x : BitVec 64) {k : Nat} (hk : k < 64) :
    (x &&& BitVec.ofNat 64 (2 ^ k - 1)).toNat = x.toNat % 2 ^ k := by
  have lt : 2 ^ k < 2 ^ 64 := Nat.pow_lt_pow_right (by decide) hk
  rw [BitVec.toNat_and, BitVec.toNat_ofNat, Nat.mod_eq_of_lt (by omega),
    Nat.and_two_pow_sub_one_eq_mod]

/-- A mask of all but the low bits takes the remainder away. -/
lemma toNat_and_not_mask (x : BitVec 64) (k : Nat) :
    (x &&& ~~~BitVec.ofNat 64 (2 ^ k - 1)).toNat = x.toNat / 2 ^ k * 2 ^ k := by
  have shifts : x &&& ~~~BitVec.ofNat 64 (2 ^ k - 1) = (x >>> k) <<< k := by
    ext i hi
    have mask : (BitVec.ofNat 64 (2 ^ k - 1))[i] = decide (i < k) := by
      rw [← BitVec.getLsbD_eq_getElem hi, BitVec.getLsbD_ofNat, Nat.testBit_two_pow_sub_one]
      simp [hi]
    by_cases lt : i < k
    · simp [mask, lt]
    · simp [mask, lt, BitVec.getLsbD_eq_getElem hi, Nat.add_sub_cancel' (by omega : k ≤ i)]
  have le : x.toNat / 2 ^ k * 2 ^ k ≤ x.toNat := Nat.div_mul_le_self _ _
  rw [shifts, BitVec.toNat_shiftLeft, BitVec.toNat_ushiftRight, Nat.shiftRight_eq_div_pow,
    Nat.shiftLeft_eq, Nat.mod_eq_of_lt (by omega)]

/-- Rounding up takes the least multiple that is not below the value. Read without a sign it does so
also where the word for it is negative. -/
lemma toNat_roundUp {n k : Nat} (hi : n + 2 ^ k ≤ 2 ^ 64) :
    (roundUp (Int64.ofInt n) (Int64.ofInt (2 ^ k : Nat))).toBitVec.toNat =
      (n + (2 ^ k - 1)) / 2 ^ k * 2 ^ k := by
  have pos : 0 < 2 ^ k := Nat.two_pow_pos k
  have mask : (Int64.ofInt (2 ^ k - 1 : Nat)).toBitVec = BitVec.ofNat 64 (2 ^ k - 1) := by
    apply BitVec.eq_of_toNat_eq
    rw [toNat_ofInt (by omega), BitVec.toNat_ofNat, Nat.mod_eq_of_lt (by omega)]
  have sum : Int64.ofInt n + Int64.ofInt (2 ^ k - 1 : Nat) =
      Int64.ofInt (n + (2 ^ k - 1) : Nat) := by
    rw [← Int64.ofInt_add]
    congr 1
  rw [roundUp, ofInt_sub_one pos, sum, Int64.toBitVec_and, Int64.toBitVec_not, mask,
    toNat_and_not_mask, toNat_ofInt (by omega)]

/-- Rounding up to a power of two takes the least multiple that is not below the value. -/
lemma toInt_roundUp {n k : Nat} (hi : n + 2 ^ k ≤ 2 ^ 63) :
    (roundUp (Int64.ofInt n) (Int64.ofInt (2 ^ k : Nat))).toInt =
      ((n + (2 ^ k - 1)) / 2 ^ k * 2 ^ k : Nat) := by
  have pos : 0 < 2 ^ k := Nat.two_pow_pos k
  have word := toNat_roundUp (n := n) (k := k) (by omega)
  have le : (n + (2 ^ k - 1)) / 2 ^ k * 2 ^ k ≤ n + (2 ^ k - 1) := Nat.div_mul_le_self _ _
  rw [toInt_eq_toNat (by omega), word]

/-- Padding rounds up to a multiple of sixty-four. -/
lemma paddedSize_eq {n : Nat} (hi : n + 64 ≤ 2 ^ 63) :
    paddedSize n = ((n + 63) / 64 * 64 : Nat) :=
  toInt_roundUp (k := 6) hi

/-- A word is zero if its bits are. -/
lemma eq_zero_iff_toNat {x : Int64} : x = 0 ↔ x.toBitVec.toNat = 0 := by
  rw [← Int64.toBitVec_inj, ← BitVec.toNat_inj]
  rfl

/-- The low three bits of a word are clear exactly if it is a multiple of eight. -/
lemma and_seven_eq_zero (x : Int64) : x &&& 7 = 0 ↔ x.toInt % 8 = 0 := by
  have low : (x &&& 7).toBitVec.toNat = x.toBitVec.toNat % 8 :=
    toNat_and_mask (k := 3) x.toBitVec (by decide)
  have sign : x.toInt % 8 = (x.toBitVec.toNat % 8 : Nat) := by
    rw [← Int64.toInt_toBitVec, BitVec.toInt_eq_toNat_cond]
    split <;> omega
  rw [sign, ← low, eq_zero_iff_toNat]
  exact Int.natCast_eq_zero.symm

/-- The bytes for a number of bits are an eighth of it, rounded up, whatever its sign. -/
lemma toInt_bytesForBits (bits : Int64) : (bytesForBits bits).toInt = (bits.toInt + 7) / 8 := by
  have lo := bits.le_toInt
  have hi := bits.toInt_lt
  rw [bytesForBits, Int64.toInt_add, toInt_shiftRight_three]
  by_cases whole : bits.toInt % 8 = 0
  · rw [if_pos ((and_seven_eq_zero bits).2 whole), Int64.toInt_zero,
      Int.bmod_eq_of_le (by omega) (by omega)]
    omega
  · rw [if_neg (mt (and_seven_eq_zero bits).1 whole), Int64.toInt_one,
      Int.bmod_eq_of_le (by omega) (by omega)]
    omega

lemma byteCount_eq {n : Nat} (hi : n < 2 ^ 63) : byteCount n = ((n + 7) / 8 : Nat) := by
  rw [byteCount, toInt_bytesForBits, toInt_ofInt hi]
  rfl

lemma byteCount_toInt (bits : Int64) : byteCount bits.toInt = (bits.toInt + 7) / 8 := by
  rw [byteCount, Int64.ofInt_toInt, toInt_bytesForBits]

end Columnar.Rounding
