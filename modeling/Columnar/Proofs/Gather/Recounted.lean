import Mathlib.Tactic.Common
import Columnar.Proofs.Column.Recounted
import Columnar.Proofs.Gather.Congruence

/-!
# Gathers of columns that differ in stored null counts

No kernel of a gather looks at a stored null count but to tell whether a slot is valid, and there
sound columns agree (`visitAt_recounted`). So gathers of columns that differ in stored null counts
are the same computations (`take_recounted`): they ask the pool for the same memory, fail alike, and
make columns that differ at most in the null counts that a shared dictionary stores.
-/

namespace Columnar.Gather
variable {values values' indices indices' : Column} {k : IntKind}

/-- The same positions are visited with the same outcome. -/
lemma visitAt_recounted {p : Nat} (left : values.Recounted values')
    (right : indices.Recounted indices') (hv : values.Sound) (hv' : values'.Sound)
    (hi : indices.Sound) (hi' : indices'.Sound) (index : indices.type = .int k)
    (stored : values.type.layout ≠ .empty) (hp : p < indices.length) :
    visitAt values' indices' k p = visitAt values indices k p := by
  obtain ⟨xs, reads⟩ := hv.exists_reads
  obtain ⟨ys, reads'⟩ := hi.exists_reads
  have same := indicesAgree_of_reads hi index (right.type.trans index) reads'
    (right.reads hi hi' reads')
  have named : NamedAgree values values' indices k :=
    namedAgree_of_reads left.type.symm reads (left.reads hv hv' reads)
  exact (visitAt_of_agree hv hv' hi index stored same named hp).symm

section Kernels

lemma walk_congr {σ : Type} (right : indices.Recounted indices')
    (visits : ∀ p : Nat, p < indices.length →
      visitAt values' indices' k p = visitAt values indices k p)
    (visit : σ → Visit → Checked σ) (start : σ) :
    walk (m := Checked) values' indices' k visit start =
      walk (m := Checked) values indices k visit start := by
  have go (n i : Nat) (inside : n + i ≤ indices.length.toNat) (s : σ) :
      foldPositions (m := Checked)
          (fun s p => do visit s (← ofExcept (visitAt values' indices' k p))) n i s =
        foldPositions (fun s p => do visit s (← ofExcept (visitAt values indices k p))) n i s := by
    induction n generalizing i s with
    | zero => rfl
    | succ n ih =>
      rw [foldPositions, foldPositions, visits i (by omega)]
      exact bind_congr fun t => ih (i + 1) (by omega) t
  rw [walk, walk, Column.foldSlots, Column.foldSlots, right.length]
  exact go _ 0 (by omega) start

lemma holdingValidity_recounted (left : values.Recounted values')
    (right : indices.Recounted indices') (body : Option Buffer → Pooled Column) :
    holdingValidity values' indices' body = holdingValidity values indices body := by
  have needs : needsValidity values' indices' = needsValidity values indices := by
    rw [needsValidity, needsValidity, left.bitmap?, right.bitmap?]
  rw [holdingValidity, holdingValidity, allocateValidity, allocateValidity, needs, right.length]

variable (left : values.Recounted values') (right : indices.Recounted indices')
  (visits : ∀ p : Nat, p < indices.length →
    visitAt values' indices' k p = visitAt values indices k p)
include left right visits

lemma booleanOf_recounted : booleanOf values' indices' k = booleanOf values indices k := by
  have visit : visitBit values' = visitBit values := by cases left <;> rfl
  unfold booleanOf
  rw [holdingValidity_recounted left right, visit, left.type, right.length]
  simp only [walk_congr right visits]

lemma fixedWidthOf_recounted (width : Nat) :
    fixedWidthOf values' indices' width k = fixedWidthOf values indices width k := by
  have visit : visitFixed values' = visitFixed values := by cases left <;> rfl
  unfold fixedWidthOf
  rw [holdingValidity_recounted left right, visit, left.type, right.length]
  simp only [walk_congr right visits]

lemma stringsOf_recounted (w : Width) :
    stringsOf values' indices' w k = stringsOf values indices w k := by
  have sizes : visitSize values' = visitSize values := by cases left <;> rfl
  have copies : visitCopy values' = visitCopy values := by cases left <;> rfl
  unfold stringsOf
  rw [holdingValidity_recounted left right, sizes, copies, left.type, right.length]
  simp only [walk_congr right visits]

end Kernels

section Taking

/-- Keys are gathered alike, and the dictionaries that are shared are those of the values. -/
lemma dictionary_recounted (left : values.Recounted values') (keys : ∀ width,
    fixedWidth values'.keys indices' width = fixedWidth values.keys indices width) :
    Pooled.Matches Column.Recounted (dictionary values indices) (dictionary values' indices') := by
  rw [dictionary, dictionary, left.keys.type, keys, left.type]
  refine .bind (.refl (R := Eq) (fun _ => rfl) _) ?_
  rintro out _ rfl
  refine fun pool => ⟨.ok ?_, rfl⟩
  cases left with
  | plain => exact .plain
  | encoded values => exact .encoded values

variable (left : values.Recounted values') (right : indices.Recounted indices')
include left right

section Layouts
variable (index : indices.type = .int k)
  (visits : ∀ p : Nat, p < indices.length →
    visitAt values' indices' k p = visitAt values indices k p)
include index visits

lemma boolean_recounted : boolean values' indices' = boolean values indices := by
  rw [boolean, boolean, withIndexKind, withIndexKind, right.type, index]
  exact booleanOf_recounted left right visits

lemma fixedWidth_recounted (width : Int) :
    fixedWidth values' indices' width = fixedWidth values indices width := by
  rw [fixedWidth, fixedWidth, withIndexKind, withIndexKind, right.type, index, left.type]
  simp only [fixedWidthOf_recounted left right visits]

lemma strings_recounted (w : Width) : strings values' indices' w = strings values indices w := by
  rw [strings, strings, withIndexKind, withIndexKind, right.type, index]
  exact stringsOf_recounted left right visits w

end Layouts

lemma byLayout_recounted (hv : values.Sound) (hv' : values'.Sound) (hi : indices.Sound)
    (hi' : indices'.Sound) (index : indices.type = .int k) :
    Pooled.Matches Column.Recounted (byLayout values indices) (byLayout values' indices') := by
  by_cases null : values.type = .null
  · rw [byLayout, byLayout, left.type, null]
    exact .refl Column.Recounted.refl _
  have visits (p : Nat) (hp : p < indices.length) :=
    visitAt_recounted left right hv hv' hi hi' index (mt Column.layout_eq_empty.1 null) hp
  cases type : values.type with
  | dictionary kind value ordered =>
    have integer : values.keys.type = .int kind := by rw [Column.keys, type]
    have stored : values.keys.type.layout ≠ .empty := by
      rw [integer]
      rintro ⟨⟩
    have walks (p : Nat) (hp : p < indices.length) :=
      visitAt_recounted left.keys right hv.keys hv'.keys hi hi' index stored hp
    rw [byLayout, byLayout, left.type, type]
    exact dictionary_recounted left (fixedWidth_recounted left.keys right index walks)
  | _ =>
    have same : byLayout values' indices' = byLayout values indices := by
      simp only [byLayout, left.type, type, boolean_recounted left right index visits,
        fixedWidth_recounted left right index visits, strings_recounted left right index visits]
    rw [same]
    exact .refl Column.Recounted.refl _

/-- Gathers of columns that differ in stored null counts do the same to every pool, and fail alike
or make columns that differ in the null counts of their dictionaries at most. -/
lemma take_recounted (hv : values.Sound) (hv' : values'.Sound) (hi : indices.Sound)
    (hi' : indices'.Sound) :
    Pooled.Matches Column.Recounted (take values indices) (take values' indices') := by
  rw [take, take, right.type]
  by_cases integer : ∃ k, indices.type = .int k
  · obtain ⟨k, index⟩ := integer
    have accepted := not_not.2 (DataType.isInteger_iff.2 ⟨k, index⟩)
    rw [if_neg accepted, if_neg accepted]
    exact .bind (byLayout_recounted left right hv hv' hi hi' index) fun _ _ same =>
      .checked same.opened
  · have refused := mt DataType.isInteger_iff.1 integer
    rw [if_pos refused, if_pos refused]
    exact fun _ => ⟨.error _, rfl⟩

end Taking

end Columnar.Gather
