import Mathlib.Tactic.Common
import Columnar.Proofs.Column.Sound
import Columnar.Proofs.Gather.Take

/-!
# What sound columns pick

The trace of a gather of sound columns picks slots that can all be read, and a column can be laid
out of them. A gather that ends well has laid them out.
-/

namespace Columnar.Gather
variable {values indices : Column} {k : IntKind} {xs : List (Option Cell)}

/-- The visits of a trace pick slots if every slot of the values can be read. -/
lemma exists_selects (indices : Column) (k : IntKind)
    (cells : ∀ j : Nat, j < values.length → ∃ x, values.cell j = .ok x) :
    ∃ xs, Visit.Selects values 0 (trace values indices k).visits xs := by
  refine exists_picks fun p q j h => ?_
  obtain ⟨hp, visit⟩ := visitAt_of_trace h
  obtain ⟨-, -, -, hj, -⟩ := index_of_visitAt visit
  exact cells j hj

/-- Where nothing is null nothing null is picked. -/
lemma full_of_selects (selects : Visit.Selects values 0 (trace values indices k).visits xs)
    (valid : ∀ p : Nat, p < indices.length → indices.isValid p = .ok true)
    (named : ∀ j : Nat, j < values.length → values.isValid j = .ok true) : none ∉ xs := by
  intro mem
  obtain ⟨p, hp⟩ := List.mem_iff_getElem?.1 mem
  rcases selects.getElem? hp with ⟨j, c, -, -, e⟩ | ⟨visited, -⟩
  · cases e
  · obtain ⟨lt, visit⟩ := visitAt_of_trace visited
    rw [Nat.zero_add] at visit
    rcases null_of_visitAt visit with null | ⟨j, -, -, hj, null⟩
    · rw [valid p lt] at null
      cases null
    · rw [named j hj] at null
      cases null

/-- Without bitmaps everything that is picked is valid, or everything is null. -/
lemma nulls_of_selects (selects : Visit.Selects values 0 (trace values indices k).visits xs)
    (needs : needsValidity values indices = false) : none ∉ xs ∨ ∀ s ∈ xs, s = none := by
  rw [needsValidity, Bool.or_eq_false_iff, Option.isSome_eq_false_iff,
    Option.isSome_eq_false_iff, Option.isNone_iff_eq_none, Option.isNone_iff_eq_none] at needs
  have valid := Column.isValid_of_no_bitmap needs.2
  have named := Column.isValid_of_no_bitmap needs.1
  cases hi : indices.storedCount != indices.length with
  | true =>
    cases hv : values.storedCount != values.length with
    | true =>
      exact .inl (full_of_selects selects (fun p _ => hi ▸ valid p) fun j _ => hv ▸ named j)
    | false =>
      refine .inr fun s hs => ?_
      obtain ⟨p, hp⟩ := List.mem_iff_getElem?.1 hs
      rcases selects.getElem? hp with ⟨j, c, visited, -, -⟩ | ⟨-, e⟩
      · obtain ⟨-, -, -, -, here⟩ := index_of_visitAt (visitAt_of_trace visited).2
        rw [named, hv] at here
        cases here
      · exact e
  | false =>
    refine .inr fun s hs => ?_
    obtain ⟨p, hp⟩ := List.mem_iff_getElem?.1 hs
    rcases selects.getElem? hp with ⟨j, c, visited, -, -⟩ | ⟨-, e⟩
    · obtain ⟨-, here, -, -, -⟩ := index_of_visitAt (visitAt_of_trace visited).2
      rw [valid, hi] at here
      cases here
    · exact e

/-- Slots that are picked can be laid out, if strings are not too long in all. -/
lemma holds_of_selects (stored : values.type.layout ≠ .empty)
    (selects : Visit.Selects values 0 (trace values indices k).visits xs)
    (fits : ∀ w, values.type.layout = .strings w →
      ((Column.contents values.type xs).length : Int) ≤ (IntKind.int w).max) :
    Column.Holds values.type xs (needsValidity values indices) where
  stored := stored
  cells _ hc := selects.fits hc
  nulls := nulls_of_selects selects
  strings := fits

/-- Checks that are passed leave the walk at its end and strings that are not too long in all. -/
lemma of_checks {t : DataType} {n total : Nat} {ending : Checked Unit}
    (passed : checks t n total ending = .ok ()) : ending = .ok () ∧
      ∀ w, t.layout = .strings w → (total : Int) ≤ (IntKind.int w).max := by
  unfold checks at passed
  cases layout : t.layout with
  | empty =>
    rw [layout] at passed
    exact ⟨passed, nofun⟩
  | bits =>
    rw [layout] at passed
    exact ⟨passed, nofun⟩
  | fixed w =>
    rw [layout] at passed
    exact ⟨(Checked.check_bind_eq_ok.1 passed).2, nofun⟩
  | strings w =>
    rw [layout] at passed
    obtain ⟨-, passed⟩ := Checked.check_bind_eq_ok.1 passed
    obtain ⟨fit, passed⟩ := Checked.check_bind_eq_ok.1 passed
    obtain ⟨ending, -⟩ := Checked.check_bind_eq_ok.1 passed
    refine ⟨ending, fun w' same => ?_⟩
    cases same
    rw [sizesFit, Checked.guard_eq_ok] at fit
    omega

/-- Checks that are passed leave slots whose values or offsets have a size that is a 64-bit word. -/
lemma reach_of_checks {t : DataType} {n total : Nat} {ending : Checked Unit} (fits : n < 2 ^ 63)
    (passed : checks t n total ending = .ok ()) : t.layout.reach n < 2 ^ 63 := by
  unfold checks at passed
  cases layout : t.layout with
  | empty => exact Int.pow_pos (by decide)
  | bits =>
    rw [Layout.reach]
    omega
  | fixed w =>
    rw [layout] at passed
    have room := Buffer.room_eq_ok.1 (Checked.check_bind_eq_ok.1 passed).1
    unfold Buffer.maxSize at room
    rw [Layout.reach]
    omega
  | strings w =>
    rw [layout] at passed
    have room := Buffer.room_eq_ok.1 (Checked.check_bind_eq_ok.1 passed).1
    unfold Buffer.maxSize at room
    rw [Layout.reach]
    omega

/-- A gather that ends well had integer indices and values that are supported. -/
lemma of_run {pool : Pool} {out : Column}
    (run : ((take values indices).run pool).1 = .ok out) :
    (∃ k, indices.type = .int k) ∧ values.type.Gatherable := by
  have integer : indices.type.isInteger = true := by
    by_contra h
    rw [run_take_of_not_integer (Bool.eq_false_iff.2 h)] at run
    cases run
  obtain ⟨k, index⟩ := DataType.isInteger_iff.1 integer
  refine ⟨⟨k, index⟩, ?_⟩
  by_contra h
  rw [run_take_of_not_gatherable index h] at run
  cases run

lemma stored_of_gatherable {t : DataType} (gatherable : t.Gatherable) : t.layout ≠ .empty :=
  fun e => gatherable.1 (Column.layout_eq_empty.1 e)

/-- A gather that ends well has come to the end of its trace and has laid out what the trace picks,
whatever its indices are. -/
lemma gathered_of_readable {n : Nat} {pool : Pool} {out : Column} (hv : values.Readable)
    (length : indices.length = n) (fits : n < 2 ^ 63)
    (run : ((take values indices).run pool).1 = .ok out) :
    ∃ k xs, indices.type = .int k ∧ values.type.Gatherable ∧
      checks values.type n (Column.contents values.type xs).length
        (trace values indices k).ending = .ok () ∧
      Visit.Selects values 0 (trace values indices k).visits xs ∧
      Column.Holds values.type xs (needsValidity values indices) ∧
      out = gathered values indices xs := by
  obtain ⟨⟨k, index⟩, gatherable⟩ := of_run run
  have stored := stored_of_gatherable gatherable
  obtain ⟨xs, selects⟩ := exists_selects indices k (hv.cell stored)
  have settles := settles_take index length fits gatherable hv.encoded selects
  obtain ⟨passed, made⟩ := Checked.check_bind_eq_ok.1 (settles.eq_ok run)
  obtain ⟨-, room⟩ := of_checks passed
  cases made
  exact ⟨k, xs, index, gatherable, passed, selects, holds_of_selects stored selects room, rfl⟩

/-- A gather of sound columns that ends well has come to the end of its trace and has laid out what
the trace picks, in sizes that are 64-bit words. -/
lemma gathered_of_run {pool : Pool} {out : Column} (hv : values.Sound) (hi : indices.Sound)
    (run : ((take values indices).run pool).1 = .ok out) :
    ∃ k xs, indices.type = .int k ∧ values.type.Gatherable ∧
      values.type.layout.reach indices.length < 2 ^ 63 ∧
      (trace values indices k).ending = .ok () ∧
      Visit.Selects values 0 (trace values indices k).visits xs ∧
      Column.Holds values.type xs (needsValidity values indices) ∧
      out = gathered values indices xs := by
  obtain ⟨offset, n, -, length, lt⟩ := hi.exists_window
  obtain ⟨k, xs, index, gatherable, passed, selects, holds, made⟩ :=
    gathered_of_readable hv.shaped.readable length (by omega) run
  exact ⟨k, xs, index, gatherable, length ▸ reach_of_checks (by omega) passed,
    (of_checks passed).1, selects, holds, made⟩

end Columnar.Gather
