import Mathlib.Tactic.Common
import Columnar.Proofs.Gather.Gathers

/-!
# A gather refines its reference

The reference of a gather is defined slot by slot: nothing where the index is null, and the slot
that the index names where it is valid. Whatever kernel runs, however the inputs are sliced and
whatever the pool does, a gather that ends well makes a column whose slots are those of the
reference (`take_refines`).
-/

namespace Columnar.Gather
variable {values indices out : Column} {k : IntKind} {p : Nat}

/-- Slot `p` of a gather by its definition. -/
def reference (values indices : Column) (k : IntKind) (p : Nat) : Checked (Option Cell) := do
  if ← indices.isValid p then
    let index ← indices.integer k p
    values.slot index
  else return none

/-- What a gather of the values by indices of kind `k` is like. -/
structure Refines (values indices out : Column) (k : IntKind) : Prop where
  type : out.type = values.type
  offset : out.offset = 0
  length : out.length = indices.length
  /-- A valid index names a slot. -/
  named : ∀ p : Nat, p < indices.length → indices.isValid p = .ok true →
    ∃ v, indices.integer k p = .ok v ∧ 0 ≤ v ∧ v < values.length
  /-- Every slot is that of the reference. -/
  slots : ∀ p : Nat, p < indices.length →
    ∃ s, reference values indices k p = .ok s ∧ out.slot p = .ok s
  /-- Null slots are cleared. -/
  cleared : ∀ p : Nat, p < indices.length → out.slot p = .ok none →
    out.cell p = .ok (.cleared values.type.layout)
  nullCount : out.nullCount = out.nullSlots
  bitmap : out.bitmap?.isSome = (values.bitmap?.isSome || indices.bitmap?.isSome)
  dictionary : values.type.isDictionary = true → out.dictionary = values.dictionary

/-- What a position names is the slot of the reference. -/
lemma Names.reference {s : Option Cell} (h : Names values indices k p s) :
    reference values indices k p = .ok s := by
  cases h with
  | null null =>
    rw [Gather.reference, null, Checked.ok_bind, if_neg nofun]
    rfl
  | slot valid index named slot =>
    rw [Gather.reference, valid, Checked.ok_bind, if_pos rfl, index, Checked.ok_bind, slot]

section Whole
variable {n : Nat} {xs : List (Option Cell)}

/-- A walk that comes to its end has a visit for each position. -/
lemma exists_visit (values : Column) (length : indices.length = n)
    (ending : (trace values indices k).ending = .ok ()) (hp : p < n) :
    ∃ v, (trace values indices k).visits[p]? = some v ∧ visitAt values indices k p = .ok v := by
  have total := (length_visits values k length).2 ending
  have here := List.getElem?_eq_getElem (l := (trace values indices k).visits) (total ▸ hp)
  exact ⟨_, here, (visitAt_of_trace here).2⟩

/-- The slots that a whole walk picks are those of the reference. -/
lemma reference_of_selects (length : indices.length = n)
    (ending : (trace values indices k).ending = .ok ())
    (selects : Visit.Selects values 0 (trace values indices k).visits xs) (hp : p < n) :
    ∃ s, xs[p]? = some s ∧ reference values indices k p = .ok s := by
  have gathers := gathers_of_trace length ending selects
  obtain ⟨s, here, names⟩ := gathers.exists_names (p := p) (by have := gathers.length; omega)
  exact ⟨s, here, names.reference⟩

/-- Valid indices of a whole walk name slots. -/
lemma named_of_ending (length : indices.length = n)
    (ending : (trace values indices k).ending = .ok ())
    (hp : p < n) (valid : indices.isValid p = .ok true) :
    ∃ v, indices.integer k p = .ok v ∧ 0 ≤ v ∧ v < values.length := by
  obtain ⟨v, -, visit⟩ := exists_visit values length ending hp
  cases v with
  | valid q j =>
    obtain ⟨-, -, integer, hj, -⟩ := index_of_visitAt visit
    exact ⟨j, integer, Int.natCast_nonneg j, hj⟩
  | null q =>
    rcases null_of_visitAt visit with
      null | ⟨j, -, integer, hj, -⟩
    · rw [valid] at null
      cases null
    · exact ⟨j, integer, Int.natCast_nonneg j, hj⟩

end Whole

/-- A gather of sound columns that ends well is the reference. -/
theorem take_refines {pool : Pool} (hv : values.Sound) (hi : indices.Sound)
    (run : ((take values indices).run pool).1 = .ok out) :
    ∃ k, indices.type = .int k ∧ Refines values indices out k := by
  -- A gather that ended well is known outright: it is its picks laid out.
  obtain ⟨k, xs, index, gatherable, -, ending, selects, holds, rfl⟩ := gathered_of_run hv hi run
  obtain ⟨offset, n, -, length, -⟩ := hi.exists_window
  have total := selects.length.trans ((length_visits values k length).2 ending)
  refine ⟨k, index, rfl, rfl, ?_, ?_, ?_, ?_, ?_, ?_, ?_⟩
  · exact (congrArg Int.ofNat total).trans length.symm
  · intro p hp valid
    exact named_of_ending length ending (by omega) valid
  · intro p hp
    obtain ⟨s, here, ref⟩ :=
      reference_of_selects length ending selects (p := p) (by omega)
    exact ⟨s, ref, Column.slot_laidOut holds here⟩
  · intro p hp null
    obtain ⟨s, here, -⟩ :=
      reference_of_selects length ending selects (p := p) (by omega)
    have read := (Column.slot_laidOut (d := sharedDictionary values) holds here).symm.trans null
    cases read
    exact Column.cell_laidOut holds here
  · exact (Column.nullSlots_laidOut holds).symm
  · exact Column.bitmap?_laidOut holds.stored
  · intro dictionary
    exact if_pos dictionary

/-- Three slots out of a window of two, the first of which is null. -/
theorem take_refines_window :
    Column.Sound { Column.ofInts (.int .w16) [some 1, none, some 3] with
      offset := 1, length := 2, nullCount := -1 } ∧
    Column.Sound (.ofInts (.uint .w8) [some 1, some 0, none]) ∧
    ∃ k, Refines
      { Column.ofInts (.int .w16) [some 1, none, some 3] with
        offset := 1, length := 2, nullCount := -1 }
      (.ofInts (.uint .w8) [some 1, some 0, none])
      (.ofInts (.int .w16) [some 3, none, none]) k := by
  have hv : Column.Sound { Column.ofInts (.int .w16) [some 1, none, some 3] with
      offset := 1, length := 2, nullCount := -1 } := by decide +kernel
  have hi : Column.Sound (.ofInts (.uint .w8) [some 1, some 0, none]) := by decide +kernel
  have run : ((take { Column.ofInts (.int .w16) [some 1, none, some 3] with
      offset := 1, length := 2, nullCount := -1 }
      (.ofInts (.uint .w8) [some 1, some 0, none])).run .system).1 =
        .ok (.ofInts (.int .w16) [some 3, none, none]) := by decide +kernel
  obtain ⟨k, -, refines⟩ := take_refines hv hi run
  exact ⟨hv, hi, k, refines⟩

end Columnar.Gather
