import Mathlib.Tactic.Common
import Columnar.Proofs.Gather.Picked

/-!
# Gathers position by position

Slots are those of a gather when each position of the indices names the slot there, which
`Gathers` says without any walk. It is the same as a trace that comes to its end and picks these
slots (`gathers_of_trace`, `Gathers.trace`), so a gather that ends well has made a column of slots
that its indices name, and whatever its indices name a gather makes a column of.
-/

namespace Columnar

namespace Gather
variable {values indices : Column} {k : IntKind} {n p : Nat} {s : Option Cell}
  {xs : List (Option Cell)}

/-- What position `p` of the indices names: nothing if its index is null, and else a slot of the
values. -/
inductive Names (values indices : Column) (k : IntKind) (p : Nat) : Option Cell → Prop
  | null (null : indices.isValid p = .ok false) : Names values indices k p none
  | slot {j : Nat} {s : Option Cell} (valid : indices.isValid p = .ok true)
    (index : indices.integer k p = .ok j) (named : refusal values.length j = none)
    (slot : values.slot j = .ok s) : Names values indices k p s

/-- Whether slots are those that indices of kind `k` name, position by position. -/
structure Gathers (values indices : Column) (k : IntKind) (xs : List (Option Cell)) : Prop where
  length : indices.length = xs.length
  names : ∀ (p : Nat) s, xs[p]? = some s → Names values indices k p s

lemma names_of_valid {q j : Nat} {c : Cell}
    (visit : visitAt values indices k p = .ok (.valid q j)) (cell : values.cell j = .ok c) :
    Names values indices k p (some c) := by
  obtain ⟨-, valid, index, -, named⟩ := index_of_visitAt visit
  exact .slot valid index (not_refused_of_visitAt valid index visit)
    (Column.slot_eq_ok.2 (.inr ⟨c, named, cell, rfl⟩))

lemma names_of_null {q : Nat} (visit : visitAt values indices k p = .ok (.null q)) :
    Names values indices k p none := by
  rcases null_of_visitAt visit with null | ⟨j, valid, index, -, named⟩
  · exact .null null
  · exact .slot valid index (not_refused_of_visitAt valid index visit)
      (Column.slot_eq_ok.2 (.inl ⟨named, rfl⟩))

namespace Names

/-- What a position names is what it stands for. -/
lemma visit (h : Names values indices k p s) :
    (∃ (j : Nat) (c : Cell), visitAt values indices k p = .ok (.valid p j) ∧
      values.cell j = .ok c ∧ s = some c) ∨
    (visitAt values indices k p = .ok (.null p) ∧ s = none) := by
  cases h with
  | null null => exact .inr ⟨visitAt_of_null null, rfl⟩
  | @slot j s valid index named slot =>
    rw [visitAt_of_index valid index, named]
    rcases Column.slot_eq_ok.1 slot with ⟨null, e⟩ | ⟨c, valid, cell, e⟩
    · simp only [null, Checked.ok_bind]
      exact .inr ⟨rfl, e⟩
    · simp only [valid, Checked.ok_bind]
      exact .inl ⟨j, c, rfl, cell, e⟩

/-- A position names one thing only. -/
lemma unique {t : Option Cell} (h : Names values indices k p s) (h' : Names values indices k p t) :
    s = t := by
  rcases h.visit with ⟨j, c, visit, cell, rfl⟩ | ⟨visit, rfl⟩
  · rcases h'.visit with ⟨j', c', visit', cell', rfl⟩ | ⟨visit', rfl⟩
    · cases visit.symm.trans visit'
      rw [Except.ok.inj (cell.symm.trans cell')]
    · cases visit.symm.trans visit'
  · rcases h'.visit with ⟨j', c', visit', cell', rfl⟩ | ⟨visit', rfl⟩
    · cases visit.symm.trans visit'
    · rfl

end Names

/-- A trace that comes to its end picks what the indices name. -/
lemma gathers_of_trace (length : indices.length = n)
    (ending : (trace values indices k).ending = .ok ())
    (selects : Visit.Selects values 0 (trace values indices k).visits xs) :
    Gathers values indices k xs := by
  have total := (length_visits values k length).2 ending
  refine ⟨by rw [length, selects.length, total], fun p s here => ?_⟩
  rcases selects.getElem? here with ⟨j, c, visited, cell, rfl⟩ | ⟨visited, rfl⟩
  · exact names_of_valid (visitAt_of_trace visited).2 cell
  · exact names_of_null (visitAt_of_trace visited).2

namespace Gathers

lemma exists_names (h : Gathers values indices k xs) (hp : p < xs.length) :
    ∃ s, xs[p]? = some s ∧ Names values indices k p s :=
  ⟨_, List.getElem?_eq_getElem hp, h.names p _ (List.getElem?_eq_getElem hp)⟩

/-- What the indices name is picked by a trace that comes to its end. -/
lemma trace (h : Gathers values indices k xs) : (trace values indices k).ending = .ok () ∧
    Visit.Selects values 0 (trace values indices k).visits xs := by
  have find : ∀ q < xs.length, ∃ v, visitAt values indices k q = .ok v := by
    intro q hq
    obtain ⟨s, -, names⟩ := h.exists_names hq
    rcases names.visit with ⟨j, c, visit, -, -⟩ | ⟨visit, -⟩
    · exact ⟨_, visit⟩
    · exact ⟨_, visit⟩
  have visited := le_length_visits h.length (Nat.le_refl _) find
  have ending : (Gather.trace values indices k).ending = .ok () := by
    have spec := ending_trace values k h.length
    cases ending : (Gather.trace values indices k).ending with
    | ok u => rfl
    | error e =>
      rw [ending] at spec
      exact absurd spec.1 (by omega)
  -- Whatever is picked is named too, so it is the same at each position.
  obtain ⟨ys, selects⟩ :
      ∃ ys, Visit.Selects values 0 (Gather.trace values indices k).visits ys := by
    refine exists_picks fun p q j visited => ?_
    obtain ⟨lt, visit⟩ := visitAt_of_trace visited
    obtain ⟨s, -, names⟩ := h.exists_names (p := p) (by rw [h.length] at lt; omega)
    rcases names.visit with ⟨j', c, visit', cell, -⟩ | ⟨visit', -⟩
    · cases visit.symm.trans visit'
      exact ⟨c, cell⟩
    · cases visit.symm.trans visit'
  have picked := gathers_of_trace h.length ending selects
  have same : xs = ys := by
    apply List.ext_getElem?
    intro p
    by_cases hp : p < xs.length
    · obtain ⟨s, here, names⟩ := h.exists_names hp
      obtain ⟨s', here', names'⟩ := picked.exists_names (p := p)
        (by have total := h.length.symm.trans picked.length; omega)
      rw [here, here', names.unique names']
    · have total := h.length.symm.trans picked.length
      rw [List.getElem?_eq_none (by omega), List.getElem?_eq_none (by omega)]
  rw [same]
  exact ⟨ending, selects⟩

end Gathers

/-- A gather that ends well has made a column of what its indices name. -/
lemma gathers_of_run {pool : Pool} {out : Column} (hv : values.Readable)
    (length : indices.length = n) (fits : n < 2 ^ 63)
    (run : ((take values indices).run pool).1 = .ok out) :
    ∃ k xs, indices.type = .int k ∧ values.type.Gatherable ∧ Gathers values indices k xs ∧
      checks values.type n (Column.contents values.type xs).length (.ok ()) = .ok () ∧
      Column.Holds values.type xs (needsValidity values indices) ∧
      out = gathered values indices xs := by
  obtain ⟨k, xs, index, gatherable, passed, selects, holds, made⟩ :=
    gathered_of_readable hv length fits run
  obtain ⟨ending, -⟩ := of_checks passed
  rw [ending] at passed
  exact ⟨k, xs, index, gatherable, gathers_of_trace length ending selects, passed, holds, made⟩

namespace Gathers

lemma holds (h : Gathers values indices k xs) (gatherable : values.type.Gatherable)
    (passed : checks values.type n (Column.contents values.type xs).length (.ok ()) = .ok ()) :
    Column.Holds values.type xs (needsValidity values indices) :=
  holds_of_selects (stored_of_gatherable gatherable) h.trace.2 (of_checks passed).2

/-- Where every request is granted a gather of what its indices name comes to its checks for
room. -/
lemma result {pool : Pool} (h : Gathers values indices k xs) (grants : pool.Grants)
    (index : indices.type = .int k) (gatherable : values.type.Gatherable)
    (encoded : values.type.isDictionary = true → values.dictionary.isSome = true)
    (fits : xs.length < 2 ^ 63) :
    ((take values indices).run pool).1 = (do
      checks values.type xs.length (Column.contents values.type xs).length (.ok ())
      return gathered values indices xs) := by
  obtain ⟨ending, selects⟩ := h.trace
  have settles := settles_take index h.length fits gatherable encoded selects
  rw [ending] at settles
  exact settles.result grants

/-- Where every request is granted a gather makes a column of what its indices name, if there is
room for it. -/
lemma run_eq_ok {pool : Pool} (h : Gathers values indices k xs) (grants : pool.Grants)
    (index : indices.type = .int k) (gatherable : values.type.Gatherable)
    (encoded : values.type.isDictionary = true → values.dictionary.isSome = true)
    (fits : xs.length < 2 ^ 63)
    (passed : checks values.type xs.length (Column.contents values.type xs).length (.ok ()) =
      .ok ()) :
    ((take values indices).run pool).1 = .ok (gathered values indices xs) := by
  rw [h.result grants index gatherable encoded fits, passed]
  rfl

end Gathers

end Gather

end Columnar
