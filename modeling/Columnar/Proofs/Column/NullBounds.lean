import Mathlib.Tactic.Common
import Columnar.Proofs.Bits.Count
import Columnar.Proofs.Column.LaidOut
import Columnar.Proofs.Column.Validate

/-!
# Bounds of the null count

A null count is given with the parts of a column, follows from them, or is counted in the bitmap.
What is counted lies between zero and the length over any window and any bitmap
(`Column.countNulls_cases`), and so does what follows from the type.

Main statement: `Column.nulls_of_validate`. No column that passes validation has more nulls than
slots. Validation does not look for a count below zero, so such a column has a negative null count
exactly if one below -1, which stands for an unknown count, was given for a type that can hold
values; `Column.negative_nulls_of_validate` is a column of that kind.
-/

namespace Columnar.Column
variable {c c' : Column} {type : DataType} {length offset stored n : Int}
  {buffers : List (Option Buffer)} {dictionary : Option Column}

/-- The null count of a column in a window of words is the stored one, or between zero and the
length. -/
lemma countNulls_cases (lo : 0 ≤ c.offset) (word : c.offset < 2 ^ 63) (nonneg : 0 ≤ c.length)
    (count : c.countNulls = .ok n) :
    (c.storedCount ≠ unknownCount ∧ n = c.storedCount) ∨
      (c.storedCount = unknownCount ∧ 0 ≤ n ∧ n ≤ c.length) := by
  unfold countNulls at count
  by_cases known : c.storedCount ≠ unknownCount
  · rw [if_pos known] at count
    cases count
    exact .inl ⟨known, rfl⟩
  · rw [if_neg known] at count
    refine .inr ⟨not_not.1 known, ?_⟩
    cases found : c.buffer? 0 with
    | none =>
      rw [found] at count
      cases count
      exact ⟨Int.le_refl 0, nonneg⟩
    | some b =>
      rw [found] at count
      obtain ⟨ones, counted, rest⟩ := Checked.bind_eq_ok.1 count
      cases rest
      have le := Bytes.countSetBits_le lo word nonneg counted
      omega

/-- A count is stored as it is, unless the type says otherwise. -/
lemma storedCount_withNullCount (agrees : c.type = .null → n = c.length) :
    (c.withNullCount n).storedCount = n := by
  by_cases null : c.type = .null
  · rw [storedCount_of_null (c := c.withNullCount n) null]
    exact (agrees null).symm
  · exact storedCount_eq (c.withNullCount n) null

/-- A column that passes validation has a null count of at most its length. It is negative exactly
if what was stored is below the count that stands for an unknown one, and stays as it is once it is
stored itself. -/
lemma exists_nulls_of_validate (word : c.offset < 2 ^ 63) (valid : c.validate = .ok ()) :
    ∃ n, c.countNulls = .ok n ∧ (c.withNullCount n).countNulls = .ok n ∧ n ≤ c.length ∧
      (n < 0 ↔ c.storedCount < unknownCount) := by
  obtain ⟨window, nulls, -⟩ := validate_eq_ok.1 valid
  obtain ⟨nonneg, lo, -⟩ := validateWindow_iff.1 window
  obtain ⟨n, count, le, -⟩ := validateNulls_iff.1 nulls
  have ways := countNulls_cases lo word nonneg count
  have known : n ≠ unknownCount := by
    unfold unknownCount at ways ⊢
    omega
  have all (null : c.type = .null) : n = c.length := by
    rw [storedCount_of_null null] at ways
    unfold unknownCount at ways
    omega
  have kept := storedCount_withNullCount all
  refine ⟨n, count, ?_, le, ?_⟩
  · rw [countNulls, kept, if_pos known]
    rfl
  · unfold unknownCount at ways ⊢
    omega

/-- The type and the window of a column are those that it was made with. -/
lemma window_of_given
    (given : c = ⟨type, length, offset, stored, buffers, dictionary⟩ ∨
      c = make type length buffers dictionary stored offset) :
    c.type = type ∧ c.length = length ∧ c.offset = offset := by
  rcases given with rfl | rfl
  · exact ⟨rfl, rfl, rfl⟩
  · unfold make
    split <;> exact ⟨rfl, rfl, rfl⟩

/-- What is known of the nulls of a column whose type can hold values: the count that was given, or
none where an unknown count was given and there is no bitmap. -/
lemma storedCount_of_given
    (given : c = ⟨type, length, offset, stored, buffers, dictionary⟩ ∨
      c = make type length buffers dictionary stored offset) (values : type ≠ .null) :
    c.storedCount = stored ∨ (stored = unknownCount ∧ c.storedCount = 0) := by
  rcases given with rfl | rfl
  · exact .inl (storedCount_eq _ values)
  · rw [make_of_values values, storedCount_eq _ values]
    simp only
    split
    · next implied => exact .inr ⟨implied.1, rfl⟩
    · exact .inl rfl

/-- The null count of a column that was made of its parts, by either constructor, and passes
validation. It is at most the length and stays as it is once it is stored. It is negative exactly if
the type can hold values and the count that was given is below the one that stands for an unknown
count. -/
theorem nulls_of_validate
    (given : c = ⟨type, length, offset, stored, buffers, dictionary⟩ ∨
      c = make type length buffers dictionary stored offset)
    (word : offset < 2 ^ 63) (opened : c.opened = .ok c') (valid : c'.validate = .ok ()) :
    ∃ n, c'.countNulls = .ok n ∧ (c'.withNullCount n).countNulls = .ok n ∧ n ≤ length ∧
      (n < 0 ↔ type ≠ .null ∧ stored < unknownCount) := by
  obtain ⟨rfl, rfl, rfl⟩ := window_of_given given
  obtain rfl := eq_of_opened opened
  obtain ⟨n, count, kept, le, negative⟩ :=
    exists_nulls_of_validate (c := c.withNullCount c.storedCount) word valid
  refine ⟨n, count, kept, le, ?_⟩
  rw [negative, storedCount_withNullCount storedCount_of_null]
  by_cases null : c.type = .null
  · -- All slots of such a column are null, and validation has looked at their number.
    have nonneg : 0 ≤ c.length := (validateWindow_iff.1 (validate_eq_ok.1 valid).1).1
    rw [storedCount_of_null null]
    unfold unknownCount
    exact iff_of_false (by omega) fun below => below.1 null
  · have known := storedCount_of_given given null
    unfold unknownCount at known ⊢
    constructor
    · intro below
      exact ⟨null, by omega⟩
    · rintro ⟨-, below⟩
      omega

/-- The last two of three slots, one of them null, with a null count that is not known. -/
theorem nulls_of_validate_window :
    let c := make (.int (.int .w16)) 2
      [some (.ofBytes #[0b011]), some (.ofBytes #[1, 0, 2, 0, 3, 0])] none unknownCount 1
    c.opened = .ok c ∧ c.validate = .ok () ∧ ∃ n, c.countNulls = .ok n ∧
      (c.withNullCount n).countNulls = .ok n ∧ n ≤ 2 ∧ 0 ≤ n := by
  intro c
  have opened : c.opened = .ok c := by decide +kernel
  have valid : c.validate = .ok () := by decide +kernel
  obtain ⟨n, count, kept, le, negative⟩ := nulls_of_validate (.inr rfl) (by decide) opened valid
  have unknown : ¬ unknownCount < unknownCount := Int.lt_irrefl _
  exact ⟨opened, valid, n, count, kept, le,
    Int.not_lt.1 fun below => unknown (negative.1 below).2⟩

/-- A null count of minus five is kept by both constructors, passes validation and is answered. -/
theorem negative_nulls_of_validate :
    let c := make (.int (.int .w16)) 2 [none, some (.ofBytes #[1, 0, 2, 0])] none (-5) 0
    c = ⟨.int (.int .w16), 2, 0, -5, [none, some (.ofBytes #[1, 0, 2, 0])], none⟩ ∧
      c.opened = .ok c ∧ c.validate = .ok () ∧ c.countNulls = .ok (-5) := by
  decide +kernel

end Columnar.Column
