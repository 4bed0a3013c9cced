import Mathlib.Tactic.Common
import Columnar.IntKind

/-!
# Integers of a kind

A kind holds what it wraps to, keeps what it holds, and reports an overflow exactly when the exact
result is out of its range.
-/

namespace Columnar

lemma Width.bytes_pos (w : Width) : 0 < w.bytes := by
  cases w <;> decide

namespace IntKind

lemma holds_iff {k : IntKind} {v : Int} : k.holds v = true ↔ k.min ≤ v ∧ v ≤ k.max := by
  simp [holds]

/-- A kind has a value for every combination of its bytes. -/
lemma card_eq (k : IntKind) : k.card = 256 ^ k.width.bytes := by
  rw [card, Width.bits, Nat.pow_mul]

lemma holds_wrap (k : IntKind) (v : Int) : k.holds (k.wrap v) = true := by
  obtain ⟨signed, width⟩ := k
  rw [holds_iff]
  cases signed <;> cases width <;>
    simp [min, max, wrap, card, Width.bits, Width.bytes, Int.bmod_def] <;> omega

lemma wrap_of_holds {k : IntKind} {v : Int} (h : k.holds v = true) : k.wrap v = v := by
  obtain ⟨signed, width⟩ := k
  rw [holds_iff] at h
  cases signed <;> cases width <;>
    simp [min, max, wrap, card, Width.bits, Width.bytes, Int.bmod_def] at h ⊢ <;> omega

/-- A value of any kind is that of a signed or of an unsigned 64-bit word. -/
lemma word_of_holds {k : IntKind} {v : Int} (h : k.holds v = true) :
    -2 ^ 63 ≤ v ∧ v < 2 ^ 64 := by
  obtain ⟨signed, width⟩ := k
  rw [holds_iff] at h
  cases signed <;> cases width <;>
    simp [min, max, card, Width.bits, Width.bytes] at h ⊢ <;> omega

/-- Integers from the least to the greatest of `w` bits are words of that width. -/
lemma wrap_int {w : Width} {v : Int} (lo : (int w).min ≤ v) (hi : v ≤ (int w).max) :
    (int w).wrap v = v := wrap_of_holds (holds_iff.2 ⟨lo, hi⟩)

lemma min_nonpos (k : IntKind) : k.min ≤ 0 := by
  unfold min
  split
  · exact Int.neg_nonpos_of_nonneg (Int.natCast_nonneg _)
  · exact Int.le_refl 0

/-- An integer of at most 63 bits, and a sign, is a 64-bit word. -/
lemma wrap_w64 {v : Int} (lo : -2 ^ 63 ≤ v) (hi : v < 2 ^ 63) : (int .w64).wrap v = v :=
  wrap_int lo (Int.le_sub_one_of_lt hi)

/-- An integer of at most 31 bits, and a sign, is a 32-bit word. -/
lemma wrap_w32 {v : Int} (lo : -2 ^ 31 ≤ v) (hi : v < 2 ^ 31) : (int .w32).wrap v = v :=
  wrap_int lo (Int.le_sub_one_of_lt hi)

/-- A sum may be wrapped on the way. -/
lemma wrap_wrap_add (k : IntKind) (u v : Int) : k.wrap (k.wrap u + v) = k.wrap (u + v) := by
  unfold wrap
  split
  · exact Int.bmod_add_bmod
  · exact Int.emod_add_emod ..

/-- As a signed 64-bit word a value of any kind stays what it is or turns negative. -/
lemma wrap_word_of_holds {k : IntKind} {v : Int} (h : k.holds v = true) :
    (int .w64).wrap v = if v < 2 ^ 63 then v else v - 2 ^ 64 := by
  have bounds := word_of_holds h
  simp [wrap, int, card, Width.bits, Width.bytes, Int.bmod_def]
  split <;> split <;> omega

lemma wrap_emod (k : IntKind) (v : Int) : k.wrap (v % k.card) = k.wrap v := by
  unfold wrap
  split
  · exact Int.emod_bmod v k.card
  · exact Int.emod_emod_of_dvd v (Int.dvd_refl _)

/-- Wrapping keeps what an integer is modulo the number of values. -/
lemma emod_wrap (k : IntKind) (v : Int) : k.wrap v % k.card = v % k.card := by
  unfold wrap
  split
  · exact Int.bmod_emod
  · exact Int.emod_emod_of_dvd v (Int.dvd_refl _)

/-- An exact result is wrapped exactly when the kind does not hold it. -/
lemma overflow_fit {k : IntKind} {v : Int} : (k.fit v).overflow = true ↔ ¬ k.holds v = true := by
  simp only [fit, bne_iff_ne, ne_eq]
  constructor
  · intro ne h
    exact ne (wrap_of_holds h)
  · intro h e
    exact h (e ▸ holds_wrap k v)

end IntKind

end Columnar
