import Mathlib.Tactic.Common
import Mathlib.Order.Bounds.Basic
import Columnar.Powers
import Columnar.Proofs.Bits.Rounding

/-!
# Ceilings of words

What the rounding formulas compute is said without shifts, masks and truncating division: the least
quotient that covers the value, and the least multiple that is not below it. Main statement:
`ceilings_of_word` says so for every word that each formula is meant for, up to the last one that
does not overflow, and that the three ways to the bytes of a number of bits are one.
-/

namespace Columnar.Rounding

section Integers
variable {v d q : Int}

/-- Adding all but one of the divisor before dividing rounds the quotient up. -/
lemma quotient_le_iff (pos : 0 < d) : (v + (d - 1)) / d ≤ q ↔ v ≤ d * q := by
  rw [← Int.lt_add_one_iff, Int.ediv_lt_iff_lt_mul pos, Int.add_mul, Int.one_mul, Int.mul_comm q]
  omega

lemma isLeast_quotient (v : Int) (pos : 0 < d) : IsLeast {q | v ≤ d * q} ((v + (d - 1)) / d) :=
  ⟨(quotient_le_iff pos).1 (Int.le_refl _), fun _ covers => (quotient_le_iff pos).2 covers⟩

/-- The least quotient that covers a value makes the least multiple that is not below it. -/
lemma isLeast_multiple (v : Int) (pos : 0 < d) :
    IsLeast {m | d ∣ m ∧ v ≤ m} ((v + (d - 1)) / d * d) := by
  obtain ⟨covers, least⟩ := isLeast_quotient v pos
  rw [Int.mul_comm]
  refine ⟨⟨Int.dvd_mul_right _ _, covers⟩, ?_⟩
  rintro _ ⟨⟨q, rfl⟩, le⟩
  exact Int.mul_le_mul_of_nonneg_left (least le) (Int.le_of_lt pos)

end Integers

section Words
variable {n d f : Int64}

/-- A word without a sign is a number below 2⁶³. -/
lemma exists_eq_ofInt (nonneg : 0 ≤ n.toInt) :
    ∃ m : Nat, m < 2 ^ 63 ∧ n = Int64.ofInt m := by
  obtain ⟨m, e⟩ := Int.eq_ofNat_of_zero_le nonneg
  have hi := n.toInt_lt
  exact ⟨m, by omega, by rw [← e, Int64.ofInt_toInt]⟩

/-- A positive word is a power of two if it shares no bit with the word below it. -/
lemma and_pred_eq_zero_iff (positive : 0 < f.toInt) :
    f &&& (f - 1) = 0 ↔ ∃ k : Nat, f.toInt = 2 ^ k := by
  obtain ⟨m, hi, rfl⟩ := exists_eq_ofInt (Int.le_of_lt positive)
  rw [toInt_ofInt hi] at positive ⊢
  have shared : (Int64.ofInt m &&& Int64.ofInt (m - 1 : Nat)).toBitVec.toNat = m &&& (m - 1) := by
    rw [Int64.toBitVec_and, BitVec.toNat_and, toNat_ofInt (by omega), toNat_ofInt (by omega)]
  rw [ofInt_sub_one (by omega), eq_zero_iff_toNat, shared,
    Nat.and_sub_one_eq_zero_iff_isPowerOfTwo (by omega)]
  exact exists_congr fun k => by exact_mod_cast Iff.rfl

/-- The powers of two among words are told by sign and bits. -/
lemma isPowerOfTwo_iff : isPowerOfTwo f = true ↔ ∃ k : Nat, f.toInt = 2 ^ k := by
  rw [isPowerOfTwo, Bool.and_eq_true, decide_eq_true_iff, beq_iff_eq, Int64.lt_iff_toInt_lt,
    Int64.toInt_zero]
  constructor
  · rintro ⟨positive, apart⟩
    exact (and_pred_eq_zero_iff positive).1 apart
  · rintro ⟨k, power⟩
    have positive : 0 < f.toInt := power ▸ Int.pow_pos (by decide)
    exact ⟨positive, (and_pred_eq_zero_iff positive).2 ⟨k, power⟩⟩

/-- A quotient of words is rounded up, for a value that is not negative. -/
lemma toInt_ceilDiv (nonneg : 0 ≤ n.toInt) (pos : 0 < d.toInt) :
    (ceilDiv n d).toInt = (n.toInt + (d.toInt - 1)) / d.toInt := by
  have hi := n.toInt_lt
  rw [ceilDiv]
  by_cases zero : n = 0
  · rw [if_pos zero, zero, Int64.toInt_zero, Int.zero_add]
    exact (Int.ediv_eq_zero_of_lt (by omega) (by omega)).symm
  have positive : 0 < n.toInt := by
    have ne : n.toInt ≠ 0 := fun e => zero (Int64.toInt_inj.1 e)
    omega
  have pred : (n - 1).toInt = n.toInt - 1 := by
    rw [Int64.toInt_sub, Int64.toInt_one, Int.bmod_eq_of_le (by omega) (by omega)]
  have sign : 0 ≤ (n.toInt - 1) / d.toInt := Int.ediv_nonneg (by omega) (Int.le_of_lt pos)
  have bound : (n.toInt - 1) / d.toInt ≤ n.toInt - 1 := Int.ediv_le_self _ (by omega)
  have below : ((n - 1) / d).toInt = (n.toInt - 1) / d.toInt := by
    rw [Int64.toInt_div, pred, Int.tdiv_eq_ediv_of_nonneg (by omega),
      Int.bmod_eq_of_le (by omega) (by omega)]
  rw [if_neg zero, Int64.toInt_add, below, Int64.toInt_one,
    Int.bmod_eq_of_le (by omega) (by omega), Int.add_comm 1]
  have next := Int.add_mul_ediv_right (n.toInt - 1) 1 (Int.ne_of_gt pos)
  rw [Int.one_mul] at next
  rw [← next]
  congr 1
  omega

/-- Rounding up to a power of two, which is told by its bits, is exact where that much is left of
the word. -/
lemma toInt_roundUp_of_power (nonneg : 0 ≤ n.toInt) (power : isPowerOfTwo f = true)
    (fits : n.toInt ≤ 2 ^ 63 - 1 - f.toInt) :
    (roundUp n f).toInt = (n.toInt + (f.toInt - 1)) / f.toInt * f.toInt := by
  obtain ⟨m, hi, rfl⟩ := exists_eq_ofInt nonneg
  obtain ⟨k, e⟩ := isPowerOfTwo_iff.1 power
  have two : (2 ^ k : Int) = (2 ^ k : Nat) := by exact_mod_cast rfl
  have pos := Nat.two_pow_pos k
  rw [e, two] at fits ⊢
  rw [toInt_ofInt hi] at fits ⊢
  obtain rfl : f = Int64.ofInt (2 ^ k : Nat) := by rw [← two, ← e, Int64.ofInt_toInt]
  rw [toInt_roundUp (by omega), Int.natCast_mul, Int.natCast_ediv, Int.natCast_add,
    Int.ofNat_sub pos]
  rfl

/-- The bytes for a number of bits are its eighth rounded up, and an eighth of it rounded up to a
multiple of eight, as long as these two do not overflow. -/
lemma bytesForBits_eq (nonneg : 0 ≤ n.toInt) (fits : n.toInt ≤ 2 ^ 63 - 1 - 8) :
    bytesForBits n = ceilDiv n 8 ∧ bytesForBits n = roundUpToEight n / 8 := by
  have eight : (8 : Int64).toInt = 8 := by decide
  have bytes := toInt_bytesForBits n
  have rounded := toInt_roundUp_of_power (f := 8) nonneg (by decide) (by rw [eight]; exact fits)
  rw [eight] at rounded
  constructor
  · rw [← Int64.toInt_inj, bytes, toInt_ceilDiv nonneg (by rw [eight]; decide), eight]
    rfl
  · rw [← Int64.toInt_inj, bytes, roundUpToEight, Int64.toInt_div, rounded, eight,
      Int.mul_tdiv_cancel _ (by decide), Int.bmod_eq_of_le (by omega) (by omega)]
    rfl

end Words

/-- A number of bits of any sign takes the fewest bytes that hold it, and the one sum on the way is
exact. A word is told to be a power of two exactly if it is one, and a value that is not negative
comes to its least multiple where that much is left of the word. The quotient of such a value is the
least that covers it. The three ways to the bytes of a number of bits agree where none overflows. -/
theorem ceilings_of_word (n : Int64) :
    (IsLeast {bytes : Int | n.toInt ≤ 8 * bytes} (bytesForBits n).toInt ∧
      (bytesForBits n).toInt =
        (n >>> 3).toInt + (if n &&& 7 = 0 then 0 else 1 : Int64).toInt) ∧
    (∀ f : Int64, (isPowerOfTwo f = true ↔ ∃ k : Nat, f.toInt = 2 ^ k) ∧
      (isPowerOfTwo f = true → 0 ≤ n.toInt → n.toInt ≤ 2 ^ 63 - 1 - f.toInt →
        IsLeast {m : Int | f.toInt ∣ m ∧ n.toInt ≤ m} (roundUp n f).toInt)) ∧
    (∀ d : Int64, 0 ≤ n.toInt → 0 < d.toInt →
      IsLeast {q : Int | n.toInt ≤ d.toInt * q} (ceilDiv n d).toInt) ∧
    (0 ≤ n.toInt → n.toInt ≤ 2 ^ 63 - 1 - 8 →
      bytesForBits n = ceilDiv n 8 ∧ bytesForBits n = roundUpToEight n / 8) := by
  have lo := n.le_toInt
  have hi := n.toInt_lt
  refine ⟨⟨?_, ?_⟩, fun f => ⟨isPowerOfTwo_iff, fun power nonneg fits => ?_⟩,
    fun d nonneg pos => ?_, bytesForBits_eq⟩
  · rw [toInt_bytesForBits]
    exact isLeast_quotient n.toInt (by decide)
  · have third := toInt_shiftRight_three n
    rw [bytesForBits, Int64.toInt_add, third]
    split
    · rw [Int64.toInt_zero, Int.bmod_eq_of_le (by omega) (by omega)]
    · rw [Int64.toInt_one, Int.bmod_eq_of_le (by omega) (by omega)]
  · rw [toInt_roundUp_of_power nonneg power fits]
    obtain ⟨k, e⟩ := isPowerOfTwo_iff.1 power
    exact isLeast_multiple n.toInt (e ▸ Int.pow_pos (by decide))
  · rw [toInt_ceilDiv nonneg pos]
    exact isLeast_quotient n.toInt pos

/-- As many bits as the last word says take 2⁶⁰ bytes, and minus nine take minus one. The last value
that comes to a multiple of 2⁶² is 2⁶² - 1. The last word is covered by a tenth of it, rounded up.
The bytes of a thousand bits can be had in each of the three ways. -/
theorem ceilings_of_last_word :
    IsLeast {bytes : Int | 2 ^ 63 - 1 ≤ 8 * bytes} (2 ^ 60) ∧
    IsLeast {bytes : Int | -9 ≤ 8 * bytes} (-1) ∧
    IsLeast {m : Int | 2 ^ 62 ∣ m ∧ 2 ^ 62 - 1 ≤ m} (2 ^ 62) ∧
    IsLeast {q : Int | 2 ^ 63 - 1 ≤ 10 * q} 922337203685477581 ∧
    bytesForBits 1000 = ceilDiv 1000 8 ∧ bytesForBits 1000 = roundUpToEight 1000 / 8 := by
  have last : (Int64.ofInt (2 ^ 63 - 1)).toInt = 2 ^ 63 - 1 := by decide
  have half : (Int64.ofInt (2 ^ 62)).toInt = 2 ^ 62 := by decide
  have below : (Int64.ofInt (2 ^ 62 - 1)).toInt = 2 ^ 62 - 1 := by decide
  have ten : (10 : Int64).toInt = 10 := by decide
  have bytes : (bytesForBits (Int64.ofInt (2 ^ 63 - 1))).toInt = 2 ^ 60 := by decide
  have rounded : (roundUp (Int64.ofInt (2 ^ 62 - 1)) (Int64.ofInt (2 ^ 62))).toInt = 2 ^ 62 := by
    decide
  have tens : (ceilDiv (Int64.ofInt (2 ^ 63 - 1)) 10).toInt = 922337203685477581 := by decide
  refine ⟨?_, (ceilings_of_word (-9)).1.1, ?_, ?_,
    (ceilings_of_word 1000).2.2.2 (by decide) (by decide)⟩
  · rw [← last, ← bytes]
    exact (ceilings_of_word _).1.1
  · have least := ((ceilings_of_word (Int64.ofInt (2 ^ 62 - 1))).2.1 (Int64.ofInt (2 ^ 62))).2
      (by decide) (by decide) (by decide)
    rwa [rounded, half, below] at least
  · have least := (ceilings_of_word (Int64.ofInt (2 ^ 63 - 1))).2.2.1 10 (by decide) (by decide)
    rwa [tens, last, ten] at least

end Columnar.Rounding
