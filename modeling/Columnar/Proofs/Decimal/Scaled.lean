import Mathlib.Algebra.Order.Field.Basic
import Mathlib.Tactic.NormNum
import Columnar.Decimal.Scaled
import Columnar.Proofs.Decimal.Numeral
import Columnar.Proofs.IntKind

/-!
# Scaled decimals are exact

The text of an unscaled integer at a scale reads as a numeral (`ofText?_scaled`) that spells just
this integer at this scale (`spells_numeral`), so at one scale the text says what the integer is
(`scaled_injective`). The scale has to be one whose zeros can be counted, as those of all 32-bit
words but the least can (`zeros_nonneg_iff`).
-/

namespace Columnar.Decimal
variable {unscaled scale : Int}

/-- The numeral of an unscaled integer at a scale. -/
def numeral (unscaled scale : Int) : Numeral :=
  let digits := Text.digits unscaled.natAbs
  if scale > 0 then
    let digits := padded (scale.toNat + 1) digits
    let whole := digits.length - scale.toNat
    ⟨unscaled < 0, digits.take whole, some (digits.drop whole)⟩
  else ⟨unscaled < 0, digits ++ List.replicate (zeros scale).toNat 0, none⟩

section Zeros

/-- A scale that is not the least 32-bit word appends as many zeros as it says. -/
lemma zeros_eq (nonpos : scale ≤ 0) (word : -2 ^ 31 < scale) : zeros scale = -scale := by
  unfold zeros
  split
  · exact IntKind.wrap_w32 (by omega) (by omega)
  · omega

/-- The zeros of a 32-bit scale can be counted unless it is the least one. -/
lemma zeros_nonneg_iff (lo : -2 ^ 31 ≤ scale) : 0 ≤ zeros scale ↔ -2 ^ 31 < scale := by
  constructor
  · intro counted
    by_contra least
    obtain rfl : scale = -2 ^ 31 := by omega
    exact absurd counted (by decide)
  · intro word
    rcases Int.lt_or_le 0 scale with pos | nonpos
    · rw [zeros, if_neg (by omega)]
    · rw [zeros_eq nonpos word]
      omega

end Zeros

section Padding

/-- Zeros in front change nothing. -/
lemma spelled_padded (k : Nat) (digits : List Nat) :
    spelled (padded k digits) = spelled digits := by
  rw [padded, spelled_append, spelled_zeros, Nat.zero_mul, Nat.zero_add]

lemma le_length_padded (k : Nat) (digits : List Nat) : k ≤ (padded k digits).length := by
  rw [padded, List.length_append, List.length_replicate]
  omega

end Padding

lemma text_numeral (unscaled scale : Int) :
    (numeral unscaled scale).text = scaled unscaled scale := by
  rw [numeral, scaled, magnitude]
  by_cases pos : scale > 0
  · simp only [if_pos pos, Numeral.text, pointed, Numeral.fractionText, decide_eq_true_iff,
      List.append_assoc]
  · simp only [if_neg pos, Numeral.text, Numeral.fractionText, decide_eq_true_iff,
      List.append_nil]

lemma lt_ten_of_mem_padded {k n d : Nat} (h : d ∈ padded k (Text.digits n)) : d < 10 := by
  rcases List.mem_append.1 h with zero | digit
  · rw [List.eq_of_mem_replicate zero]
    decide
  · exact Text.lt_ten_of_mem_digits digit

/-- With a positive scale the padded digits are split in front of as many places. -/
lemma numeral_of_pos (unscaled : Int) (pos : 0 < scale) : ∃ whole places : List Nat,
    numeral unscaled scale = ⟨unscaled < 0, whole, some places⟩ ∧
      whole ++ places = padded (scale.toNat + 1) (Text.digits unscaled.natAbs) ∧
      places.length = scale.toNat ∧ whole ≠ [] := by
  have enough := le_length_padded (scale.toNat + 1) (Text.digits unscaled.natAbs)
  refine ⟨_, _, if_pos pos, List.take_append_drop .., ?_, fun none => ?_⟩
  · rw [List.length_drop]
    omega
  · have length := congrArg List.length none
    rw [List.length_take, List.length_nil] at length
    omega

/-- Without places zeros take the place of the digits that a negative scale asks for. -/
lemma numeral_of_nonpos (nonpos : scale ≤ 0) : numeral unscaled scale = ⟨unscaled < 0,
    Text.digits unscaled.natAbs ++ List.replicate (zeros scale).toNat 0, none⟩ :=
  if_neg (Int.not_lt.2 nonpos)

/-- The numeral of a scaled integer has digits where it needs some. -/
lemma proper_numeral (unscaled scale : Int) : (numeral unscaled scale).Proper := by
  rcases Int.lt_or_le 0 scale with pos | nonpos
  · obtain ⟨whole, places, e, split, length, some⟩ := numeral_of_pos unscaled pos
    have digits (d : Nat) (mem : d ∈ whole ++ places) : d < 10 :=
      lt_ten_of_mem_padded (split ▸ mem)
    rw [e]
    refine ⟨some, fun d mem => digits d (List.mem_append_left _ mem), fun none => ?_,
      fun ds here d mem => ?_⟩
    · cases none
      rw [List.length_nil] at length
      omega
    · cases here
      exact digits d (List.mem_append_right _ mem)
  · rw [numeral_of_nonpos nonpos]
    refine ⟨List.append_ne_nil_of_left_ne_nil (Text.digits_ne_nil _) _, fun d mem => ?_, nofun,
      nofun⟩
    rcases List.mem_append.1 mem with digit | zero
    · exact Text.lt_ten_of_mem_digits digit
    · rw [List.eq_of_mem_replicate zero]
      decide

/-- A scaled integer is read back from its text. -/
lemma ofText?_scaled (unscaled scale : Int) :
    Numeral.ofText? (scaled unscaled scale) = some (numeral unscaled scale) := by
  rw [← text_numeral, Numeral.ofText?_text (proper_numeral unscaled scale)]

lemma sign_mul_natAbs (v : Int) : (if decide (v < 0) then -1 else 1 : ℚ) * v.natAbs = v := by
  rcases Int.lt_or_le v 0 with neg | pos
  · rw [if_pos (decide_eq_true neg), ← Int.cast_natCast, Int.ofNat_natAbs_of_nonpos (by omega)]
    push_cast
    ring
  · rw [if_neg (by simpa using pos), ← Int.cast_natCast, Int.natAbs_of_nonneg pos, one_mul]

/-- In front of a point a zero is the only digit: where there are more, they are the first digits of
the unscaled integer. -/
lemma whole_of_padded {s n : Nat} {whole places : List Nat}
    (split : whole ++ places = padded (s + 1) (Text.digits n)) (length : places.length = s)
    (pos : 0 < s) (zero : whole.head? = some 0) : whole = [0] := by
  obtain ⟨rest, rfl⟩ := List.head?_eq_some_iff.1 zero
  cases rest with
  | nil => rfl
  | cons d rest =>
    have total := congrArg List.length split
    simp only [padded, List.length_append, List.length_cons, List.length_replicate] at total
    have unpadded : s + 1 - (Text.digits n).length = 0 := by omega
    rw [padded, unpadded, List.replicate_zero, List.nil_append] at split
    have none : n = 0 := Text.eq_zero_of_head_digits (by rw [← split]; rfl)
    rw [none, Text.digits_of_lt (by decide)] at total
    rw [List.length_singleton] at total
    omega

/-- The numeral of a scaled integer spells it. -/
lemma spells_numeral (unscaled : Int) (word : -2 ^ 31 < scale) :
    (numeral unscaled scale).Spells unscaled scale := by
  rcases Int.lt_or_le 0 scale with pos | nonpos
  · obtain ⟨whole, places, e, split, length, some⟩ := numeral_of_pos unscaled pos
    obtain ⟨s, rfl⟩ := Int.eq_ofNat_of_zero_le (Int.le_of_lt pos)
    rw [e]
    refine ⟨?_, decide_eq_true_iff, fun _ => ⟨places, rfl, by omega⟩, fun le => by omega,
      fun _ zero => whole_of_padded split length (by omega) zero⟩
    rw [Numeral.value_eq]
    simp only [Option.getD_some]
    rw [split, spelled_padded, spelled_digits, length, ← mul_div_assoc, sign_mul_natAbs, zpow_neg,
      zpow_natCast, div_eq_mul_inv]
    rfl
  · obtain ⟨k, hk⟩ := Int.eq_ofNat_of_zero_le (Int.neg_nonneg_of_nonpos nonpos)
    rw [numeral_of_nonpos nonpos, zeros_eq nonpos word]
    refine ⟨?_, decide_eq_true_iff, fun pos => by omega, fun _ => rfl, fun nonneg zero => ?_⟩
    · rw [Numeral.value_eq]
      simp only [Option.getD_none, List.append_nil, List.length_nil, pow_zero, div_one]
      rw [spelled_append, spelled_digits, spelled_zeros, List.length_replicate, hk, zpow_natCast,
        Nat.add_zero, Int.toNat_natCast, Nat.cast_mul, ← mul_assoc, sign_mul_natAbs]
      push_cast
      rfl
    · have none : k = 0 := by omega
      simp only [hk, none, Int.toNat_natCast, List.replicate_zero, List.append_nil] at zero ⊢
      rw [Text.eq_zero_of_head_digits zero]
      rfl

/-- At one scale the text of an integer says what the integer is. -/
lemma scaled_injective {u v : Int} (word : -2 ^ 31 < scale)
    (h : scaled u scale = scaled v scale) : u = v := by
  have read := ofText?_scaled u scale
  rw [h, ofText?_scaled] at read
  have same : (v : ℚ) * (10 : ℚ) ^ (-scale) = u * (10 : ℚ) ^ (-scale) := by
    rw [← (spells_numeral u word).value, ← (spells_numeral v word).value, Option.some.inj read]
  have unit : (10 : ℚ) ^ (-scale) ≠ 0 := zpow_ne_zero _ (by norm_num)
  exact Int.cast_inj.1 (mul_right_cancel₀ unit same).symm

end Columnar.Decimal
