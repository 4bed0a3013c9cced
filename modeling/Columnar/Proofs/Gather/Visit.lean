import Mathlib.Tactic.Common
import Columnar.Gather.Visit
import Columnar.Proofs.Column.Covered

/-!
# What a position of the indices stands for

A null index stands for a null slot. A valid index is refused when it is negative, when no signed
64-bit word holds it or when it names no slot, by its mathematical value and whatever its kind; any
other one stands for the slot that it names. `visitAt_of_null` and `visitAt_of_index` say so, and
the rest of the theory of gathers rests on them.
-/

namespace Columnar

/-- An index is refused by its value, whatever kind it is of. -/
lemma IntKind.toOffset_eq {k : IntKind} {v : Int} (holds : k.holds v = true) :
    k.toOffset v =
      if v < 0 then .error (.gather (.negativeIndex v))
      else if 2 ^ 63 ≤ v then .error (.gather (.indexTooLarge v))
      else .ok v := by
  obtain ⟨signed, width⟩ := k
  rw [IntKind.holds_iff] at holds
  have word : (IntKind.int .w64).max = 2 ^ 63 - 1 := by decide
  unfold IntKind.toOffset
  rw [word]
  cases signed with
  | true =>
    have le : (IntKind.mk true width).max ≤ 2 ^ 63 - 1 := by cases width <;> decide
    have small : ¬ (2 ^ 63 : Int) ≤ v := by omega
    rw [if_neg small]
    by_cases negative : v < 0
    · rw [if_pos ⟨rfl, negative⟩, if_pos negative]
      rfl
    · rw [if_neg (fun h => negative h.2), if_neg (fun h => h.1 rfl), if_neg negative]
      rfl
  | false =>
    have lo : (IntKind.mk false width).min = 0 := rfl
    have sign : ¬ v < 0 := by omega
    rw [if_neg (fun h => sign h.2), if_neg sign]
    by_cases large : 2 ^ 63 ≤ v
    · rw [if_pos ⟨nofun, by omega⟩, if_pos large]
      rfl
    · rw [if_neg (fun h => large (by omega)), if_neg large]
      rfl

namespace Gather
variable {values indices : Column} {k : IntKind} {p : Nat}

/-- Why an index is refused, by its value and the number of slots. -/
def refusal (length v : Int) : Option GatherError :=
  if v < 0 then some (.negativeIndex v)
  else if 2 ^ 63 ≤ v then some (.indexTooLarge v)
  else if length ≤ v then some (.outOfBounds v length)
  else none

lemma refusal_eq_none {length v : Int} (h : refusal length v = none) : 0 ≤ v ∧ v < length := by
  unfold refusal at h
  split at h
  · cases h
  · split at h
    · cases h
    · split at h
      · cases h
      · omega

lemma refusal_of_inside {length v : Int} (lo : 0 ≤ v) (hi : v < length) (fits : length < 2 ^ 63) :
    refusal length v = none := by
  rw [refusal, if_neg (by omega), if_neg (by omega), if_neg (by omega)]

lemma visitAt_of_null (null : indices.isValid p = .ok false) :
    visitAt values indices k p = .ok (.null p) := by
  unfold visitAt
  rw [null]
  rfl

/-- A valid index is refused, or stands for the slot that it names. -/
lemma visitAt_of_index {v : Int} (valid : indices.isValid p = .ok true)
    (index : indices.integer k p = .ok v) :
    visitAt values indices k p =
      match refusal values.length v with
      | some e => .error (.gather e)
      | none => do
        if ← values.isValid v then return .valid p v.toNat
        return .null p := by
  have offset := IntKind.toOffset_eq (Column.holds_of_integer index)
  unfold visitAt refusal
  simp only [valid, index, Checked.ok_bind, offset, if_true]
  by_cases negative : v < 0
  · simp only [if_pos negative]
    rfl
  · by_cases large : 2 ^ 63 ≤ v
    · simp only [if_neg negative, if_pos large]
      rfl
    · by_cases outside : values.length ≤ v
      · simp only [if_neg negative, if_neg large, if_pos outside, Checked.ok_bind, ge_iff_le]
        rfl
      · simp only [if_neg negative, if_neg large, if_neg outside, Checked.ok_bind, ge_iff_le]
        cases values.isValid v with
        | error e => rfl
        | ok b => cases b <;> rfl

lemma layout_of_int (index : indices.type = .int k) :
    indices.type.layout = .fixed k.width.bytes := by
  rw [index]
  rfl

/-- Where buffers reach over their windows a position stands for something, or its index is
refused. -/
lemma visit_or_refusal (hv : values.Covered) (hi : indices.Covered)
    (index : indices.type = .int k) (hp : p < indices.length) :
    (∃ v, visitAt values indices k p = .ok v) ∨
      ∃ v e, indices.isValid p = .ok true ∧ indices.integer k p = .ok v ∧
        refusal values.length v = some e ∧
        visitAt values indices k p = .error (.gather e) := by
  obtain ⟨b, valid⟩ := hi.exists_isValid hp
  cases b with
  | false => exact .inl ⟨_, visitAt_of_null valid⟩
  | true =>
    obtain ⟨v, integer⟩ := hi.exists_integer (layout_of_int index) hp
    cases refused : refusal values.length v with
    | some e =>
      refine .inr ⟨v, e, valid, integer, refused, ?_⟩
      rw [visitAt_of_index valid integer, refused]
    | none =>
      obtain ⟨lo, lt⟩ := refusal_eq_none refused
      obtain ⟨j, rfl⟩ := Int.eq_ofNat_of_zero_le lo
      obtain ⟨b, named⟩ := hv.exists_isValid lt
      rw [visitAt_of_index valid integer, refused]
      simp only [named, Checked.ok_bind]
      cases b with
      | false => exact .inl ⟨_, rfl⟩
      | true => exact .inl ⟨_, rfl⟩

lemma position_of_visitAt {v : Visit} (h : visitAt values indices k p = .ok v) :
    v.position = p := by
  unfold visitAt at h
  obtain ⟨valid, -, h⟩ := Checked.bind_eq_ok.1 h
  cases valid with
  | false =>
    cases h
    rfl
  | true =>
    obtain ⟨index, -, h⟩ := Checked.bind_eq_ok.1 h
    obtain ⟨offset, -, h⟩ := Checked.bind_eq_ok.1 h
    simp only [Checked.throw_eq_error, Checked.error_bind, Checked.guard_eq_ok] at h
    obtain ⟨b, -, h⟩ := Checked.bind_eq_ok.1 h.2
    cases b with
    | false =>
      cases h
      rfl
    | true =>
      cases h
      rfl

/-- What stands for anything has a null index, or a valid one that can be read. -/
lemma exists_index_of_visitAt {v : Visit} (h : visitAt values indices k p = .ok v) :
    indices.isValid p = .ok false ∨
      ∃ i, indices.isValid p = .ok true ∧ indices.integer k p = .ok i := by
  unfold visitAt at h
  obtain ⟨b, valid, h⟩ := Checked.bind_eq_ok.1 h
  cases b with
  | false => exact .inl valid
  | true =>
    obtain ⟨i, integer, -⟩ := Checked.bind_eq_ok.1 h
    exact .inr ⟨i, valid, integer⟩

/-- What stands for anything is not refused. -/
lemma not_refused_of_visitAt {v : Visit} {i : Int} (valid : indices.isValid p = .ok true)
    (integer : indices.integer k p = .ok i) (h : visitAt values indices k p = .ok v) :
    refusal values.length i = none := by
  rw [visitAt_of_index valid integer] at h
  cases refused : refusal values.length i with
  | none => rfl
  | some e =>
    rw [refused] at h
    cases h

/-- A position that stands for a slot has a valid index that names a valid slot. -/
lemma index_of_visitAt {q j : Nat} (h : visitAt values indices k p = .ok (.valid q j)) :
    q = p ∧ indices.isValid p = .ok true ∧ indices.integer k p = .ok j ∧ (j : Int) < values.length ∧
      values.isValid j = .ok true := by
  rcases exists_index_of_visitAt h with null | ⟨v, valid, integer⟩
  · rw [visitAt_of_null null] at h
    cases h
  · have named := not_refused_of_visitAt valid integer h
    obtain ⟨lo, hi⟩ := refusal_eq_none named
    obtain ⟨j', rfl⟩ := Int.eq_ofNat_of_zero_le lo
    rw [visitAt_of_index valid integer, named] at h
    obtain ⟨b, read, h⟩ := Checked.bind_eq_ok.1 h
    cases b with
    | false => cases h
    | true =>
      cases h
      exact ⟨rfl, valid, integer, hi, read⟩

/-- A position that stands for no slot has a null index, or a valid one that names a null slot. -/
lemma null_of_visitAt {q : Nat} (h : visitAt values indices k p = .ok (.null q)) :
    indices.isValid p = .ok false ∨ ∃ j : Nat, indices.isValid p = .ok true ∧
      indices.integer k p = .ok j ∧ (j : Int) < values.length ∧ values.isValid j = .ok false := by
  rcases exists_index_of_visitAt h with null | ⟨v, valid, integer⟩
  · exact .inl null
  · have named := not_refused_of_visitAt valid integer h
    obtain ⟨lo, hi⟩ := refusal_eq_none named
    obtain ⟨j', rfl⟩ := Int.eq_ofNat_of_zero_le lo
    rw [visitAt_of_index valid integer, named] at h
    obtain ⟨b, read, h⟩ := Checked.bind_eq_ok.1 h
    cases b with
    | true => cases h
    | false => exact .inr ⟨j', valid, integer, hi, read⟩

end Gather

end Columnar
