import Mathlib.Tactic.Common
import Mathlib.Algebra.Ring.Int.Defs
import Mathlib.Order.Nat
import Columnar.Proofs.Gather.Picked

/-!
# When a gather fails

A position refuses when its valid index names no slot, or when the strings selected up to it are too
long in all. Where buffers reach over their windows, selected strings have lengths that an offset
can say and every request for memory is granted, the earliest position that refuses decides how a
gather ends; without one it fails only for want of room for its strings (`take_fails`). A length
that no offset can say is taken for a negative one, and memory is asked for accordingly
(`take_fails_unlike`).
-/

namespace Columnar

/-- Whether a computation failed with a report of a code. -/
def Checked.HasCode {α : Type} (r : Checked α) (code : Code) : Prop :=
  ∃ f : Failure, r = .error (.failure f) ∧ f.report.code = code

namespace Gather
variable {values indices : Column} {k : IntKind} {w : Width} {n p : Nat}

/-- Strings that are selected have lengths that an offset can say. -/
def SelectedFit (values indices : Column) (k : IntKind) : Prop :=
  ∀ (w : Width) (q : Nat) (v : Int), values.type.layout = .strings w → q < indices.length →
    indices.isValid q = .ok true → indices.integer k q = .ok v → refusal values.length v = none →
    values.isValid v = .ok true → values.LengthFits w v

/-- All strings of a shaped column have lengths that an offset can say. -/
lemma selectedFit_of_shaped (hv : values.Shaped) : SelectedFit values indices k := by
  intro w q v layout _ _ _ named _
  obtain ⟨lo, hj⟩ := refusal_eq_none named
  obtain ⟨j, rfl⟩ := Int.eq_ofNat_of_zero_le lo
  exact hv.lengthFits layout hj

/-- The length of the string that position `q` selects, zero if it selects none. Offsets are
subtracted as integers. -/
def selectedLength (values indices : Column) (k : IntKind) (w : Width) (q : Nat) : Checked Int := do
  if ← indices.isValid q then
    let index ← indices.integer k q
    if ← values.isValid index then
      let start ← values.stringOffset w index
      return (← values.stringOffset w (index + 1)) - start
  return 0

/-- The length of all strings that the first `m` positions select. -/
def selectedTotal (values indices : Column) (k : IntKind) (w : Width) (m : Nat) : Int :=
  ((List.range m).map fun q => (selectedLength values indices k w q).toOption.getD 0).sum

/-- Why position `p` refuses. -/
inductive Refuses (values indices : Column) (k : IntKind) (p : Nat) : GatherError → Prop
  | index {v : Int} {e : GatherError} (valid : indices.isValid p = .ok true)
    (index : indices.integer k p = .ok v) (refused : refusal values.length v = some e) :
    Refuses values indices k p e
  | total {w : Width} {v : Int} (layout : values.type.layout = .strings w)
    (valid : indices.isValid p = .ok true) (index : indices.integer k p = .ok v)
    (named : refusal values.length v = none) (selected : values.isValid v = .ok true)
    (large : (IntKind.int w).max < selectedTotal values indices k w (p + 1)) :
    Refuses values indices k p (.offsetsExhausted values.type (IntKind.int w).max)

lemma selectedTotal_succ (m : Nat) : selectedTotal values indices k w (m + 1) =
    selectedTotal values indices k w m +
      (selectedLength values indices k w m).toOption.getD 0 := by
  rw [selectedTotal, List.range_succ, List.map_append, List.sum_append, List.map_singleton,
    List.sum_singleton]
  rfl

section Positions

/-- A position that does not refuse stands for something. -/
lemma exists_visit_of_not_refuses (hv : values.Covered) (hi : indices.Covered)
    (index : indices.type = .int k) (hp : p < indices.length)
    (h : ∀ e, ¬ Refuses values indices k p e) : ∃ v, visitAt values indices k p = .ok v := by
  rcases visit_or_refusal hv hi index hp with
    found | ⟨v, e, valid, integer, refused, -⟩
  · exact found
  · exact absurd (.index valid integer refused) (h e)

/-- A position that stands for nothing ends the walk, if those before it stand for something. -/
lemma ending_of_error {e : Fault} (length : indices.length = n) (hp : p < n)
    (find : ∀ q < p, ∃ v, visitAt values indices k q = .ok v)
    (failed : visitAt values indices k p = .error e) :
    (trace values indices k).visits.length = p ∧ (trace values indices k).ending = .error e := by
  have le := le_length_visits length (Nat.le_of_lt hp) find
  have spec := ending_trace values k length
  have ge : (trace values indices k).visits.length ≤ p := by
    by_contra more
    have here := List.getElem?_eq_getElem (Nat.lt_of_not_le more)
    rw [(visitAt_of_trace here).2] at failed
    cases failed
  cases ending : (trace values indices k).ending with
  | ok u =>
    rw [ending] at spec
    exact absurd spec (by omega)
  | error e' =>
    rw [ending, Nat.le_antisymm ge le, failed] at spec
    cases spec.2
    exact ⟨Nat.le_antisymm ge le, rfl⟩

/-- A position without a slot selects no string. -/
lemma selectedLength_of_null {q : Nat} (visit : visitAt values indices k p = .ok (.null q)) :
    selectedLength values indices k w p = .ok 0 := by
  rcases null_of_visitAt visit with null | ⟨j, valid, integer, -, null⟩
  · rw [selectedLength, null, Checked.ok_bind, if_neg nofun]
    rfl
  · rw [selectedLength, valid, Checked.ok_bind, if_pos rfl, integer, Checked.ok_bind, null,
      Checked.ok_bind, if_neg nofun]
    rfl

/-- A position that stands for a slot of a column of strings selects a length that is right. -/
lemma exists_length_of_visit {q j : Nat} (hv : values.Covered) (fit : SelectedFit values indices k)
    (layout : values.type.layout = .strings w) (hp : p < indices.length)
    (visit : visitAt values indices k p = .ok (.valid q j)) :
    ∃ (a : Int) (m : Nat), values.stringOffset w j = .ok a ∧
      values.stringOffset w (j + 1) = .ok (a + m) ∧ values.stringLength w j = .ok m := by
  obtain ⟨-, valid, integer, hj, named⟩ := index_of_visitAt visit
  exact hv.exists_stringLength layout hj
    (fit w p j layout hp valid integer (not_refused_of_visitAt valid integer visit) named)

/-- The length that a visited position selects. -/
lemma selectedLength_of_visit {ns : List (Option Nat)} {s : Option Nat} (hv : values.Covered)
    (fit : SelectedFit values indices k) (layout : values.type.layout = .strings w)
    (measures : Visit.Measures values w 0 (trace values indices k).visits ns)
    (here : ns[p]? = some s) : selectedLength values indices k w p = .ok (s.getD 0 : Nat) := by
  rcases measures.getElem? here with ⟨j, m, visited, length, rfl⟩ | ⟨visited, rfl⟩
  · obtain ⟨hp, visit⟩ := visitAt_of_trace visited
    rw [Nat.zero_add] at visit
    obtain ⟨-, valid, integer, -, named⟩ := index_of_visitAt visit
    obtain ⟨a, n, first, second, length'⟩ := exists_length_of_visit hv fit layout hp visit
    have same : (n : Int) = m := Except.ok.inj (length'.symm.trans length)
    have apart : a + n - a = m := by omega
    rw [selectedLength, valid, Checked.ok_bind, if_pos rfl, integer, Checked.ok_bind, named,
      Checked.ok_bind, if_pos rfl, first, second]
    exact congrArg Except.ok apart
  · obtain ⟨-, visit⟩ := visitAt_of_trace visited
    rw [Nat.zero_add] at visit
    exact selectedLength_of_null visit

/-- The lengths that a trace picks add up to what its positions select. -/
lemma selectedTotal_eq {ns : List (Option Nat)} {m : Nat} (hv : values.Covered)
    (fit : SelectedFit values indices k) (layout : values.type.layout = .strings w)
    (measures : Visit.Measures values w 0 (trace values indices k).visits ns)
    (hm : m ≤ ns.length) :
    selectedTotal values indices k w m = (((lengths ns).take m).sum : Nat) := by
  induction m with
  | zero => rfl
  | succ m ih =>
    have here := List.getElem?_eq_getElem (l := ns) hm
    have next : (lengths ns)[m]? = some (ns[m].getD 0) := by
      rw [lengths, List.getElem?_map, here]
      rfl
    rw [selectedTotal_succ, ih (by omega), selectedLength_of_visit hv fit layout measures here,
      List.take_add_one, next, List.sum_append, Option.toList_some, List.sum_singleton,
      Int.natCast_add]
    rfl

/-- Whether strings that are picked have a total length, which none of them makes any less. -/
def Totals (values indices : Column) (k : IntKind) (total : Nat) : Prop :=
  ∀ w, values.type.layout = .strings w →
    total = selectedTotal values indices k w (trace values indices k).visits.length ∧
    ∀ m ≤ (trace values indices k).visits.length, selectedTotal values indices k w m ≤ total

/-- The lengths that a trace picks have their sum as total. -/
lemma totals_of_measures {ns : List (Option Nat)} (hv : values.Covered)
    (fit : SelectedFit values indices k) (layout : values.type.layout = .strings w)
    (measures : Visit.Measures values w 0 (trace values indices k).visits ns) :
    Totals values indices k (lengths ns).sum := by
  intro w' same
  cases layout.symm.trans same
  rw [← measures.length]
  constructor
  · rw [selectedTotal_eq hv fit layout measures (Nat.le_refl _),
      List.take_of_length_le (by rw [lengths, List.length_map])]
  · intro m hm
    have whole := congrArg List.sum (List.take_append_drop m (lengths ns))
    rw [List.sum_append] at whole
    rw [selectedTotal_eq hv fit layout measures hm]
    omega

/-- The slots that a trace picks have the length of their bytes as total. -/
lemma totals_of_selects {xs : List (Option Cell)} (hv : values.Covered)
    (fit : SelectedFit values indices k)
    (selects : Visit.Selects values 0 (trace values indices k).visits xs) :
    Totals values indices k (Column.contents values.type xs).length := by
  intro w layout
  have totals := totals_of_measures hv fit layout (selects.measures layout)
  rw [lengths_eq_sizes layout, Column.sum_sizes] at totals
  exact totals w layout

/-- Strings selected before the first position that refuses are not too long in all. -/
lemma selectedTotal_le (hv : values.Covered) (hi : indices.Covered) (index : indices.type = .int k)
    (layout : values.type.layout = .strings w) (hp : p ≤ indices.length)
    (before : ∀ q < p, ∀ e, ¬ Refuses values indices k q e) :
    selectedTotal values indices k w p ≤ (IntKind.int w).max := by
  induction p with
  | zero =>
    change 0 ≤ _
    cases w <;> decide
  | succ p ih =>
    have le := ih (by omega) fun q hq => before q (by omega)
    obtain ⟨v, visit⟩ := exists_visit_of_not_refuses hv hi index (p := p) (by omega)
      (before p (by omega))
    rw [selectedTotal_succ]
    cases v with
    | valid q j =>
      obtain ⟨-, valid, integer, hj, named⟩ := index_of_visitAt visit
      rw [← selectedTotal_succ]
      by_contra large
      exact before p (by omega) _ (.total layout valid integer
        (not_refused_of_visitAt valid integer visit) named (by omega))
    | null q =>
      rw [selectedLength_of_null visit]
      change selectedTotal values indices k w p + 0 ≤ _
      omega

end Positions

section Outcomes

/-- How a gather ends where buffers reach over their windows: as its checks do, and then well, or
astray if bytes of a string do not exist. -/
lemma settles_covered (hv : values.Covered) (index : indices.type = .int k)
    (fit : SelectedFit values indices k) (gatherable : values.type.Gatherable)
    (length : indices.length = n) (fits : n < 2 ^ 63) :
    ∃ (total : Nat) (body : Checked Column),
      ((take values indices).Settles do
        checks values.type n total (trace values indices k).ending
        body) ∧
      Totals values indices k total ∧
      (body = .error .stray ∨ ∃ out, body = .ok out) ∧
      ((∃ xs, Visit.Selects values 0 (trace values indices k).visits xs) →
        ∃ out, body = .ok out) := by
  by_cases readable : ∃ xs, Visit.Selects values 0 (trace values indices k).visits xs
  · obtain ⟨xs, selects⟩ := readable
    exact ⟨_, _, settles_take index length fits gatherable hv.encoded selects,
      totals_of_selects hv fit selects, .inr ⟨_, rfl⟩, fun _ => ⟨_, rfl⟩⟩
  · cases layout : values.type.layout with
    | empty => exact absurd (Column.layout_eq_empty.1 layout) gatherable.1
    | bits =>
      exact absurd (exists_selects indices k fun j hj => hv.exists_cell (w := 0) (.inl layout) hj)
        readable
    | fixed w =>
      exact absurd (exists_selects indices k fun j hj => hv.exists_cell (.inr layout) hj) readable
    | strings w =>
      obtain ⟨ns, measures⟩ :
          ∃ ns, Visit.Measures values w 0 (trace values indices k).visits ns := by
        refine exists_picks fun p q j h => ?_
        obtain ⟨hp, visit⟩ := visitAt_of_trace h
        obtain ⟨-, m, -, -, length⟩ := exists_length_of_visit hv fit layout hp visit
        exact ⟨m, length⟩
      exact ⟨_, _, settles_take_stray index length fits layout measures readable,
        totals_of_measures hv fit layout measures, .inl rfl, fun h => absurd h readable⟩

/-- There is room for the slots of a short gather. -/
lemma room_of_short {b : Nat} (short : n < 2 ^ 58) (hb : b ≤ 16) :
    Buffer.room (n * b) = .ok () ∧ Buffer.room ((n + 1) * b) = .ok () := by
  have le : n * b ≤ n * 16 := Nat.mul_le_mul_left n hb
  have next : (n + 1) * b ≤ (n + 1) * 16 := Nat.mul_le_mul_left (n + 1) hb
  rw [Buffer.room_eq_ok, Buffer.room_eq_ok, ← Int.natCast_succ, ← Int.natCast_mul,
    ← Int.natCast_mul, Nat.succ_eq_add_one, Buffer.maxSize]
  omega

/-- A walk that ends early ends a short gather, if the strings before are not too long. -/
lemma checks_of_error {t : DataType} {total : Nat} {ending : Checked Unit} {e : Fault}
    (short : n < 2 ^ 58) (failed : ending = .error e)
    (fits : ∀ w, t.layout = .strings w → (total : Int) ≤ (IntKind.int w).max) :
    checks t n total ending = .error e := by
  subst failed
  unfold checks
  cases layout : t.layout with
  | empty => rfl
  | bits => rfl
  | fixed b =>
    simp only [(room_of_short short (DataType.width_le layout)).1]
    rfl
  | strings w =>
    have room := (room_of_short (b := w.bytes) short (by cases w <;> decide)).2
    have fit : sizesFit t w total = .ok () := if_neg (Int.not_lt.2 (fits w layout))
    simp only [room, fit]
    rfl

/-- Strings that are too long end a short gather. -/
lemma checks_of_large {t : DataType} {total : Nat} {ending : Checked Unit} (short : n < 2 ^ 58)
    (layout : t.layout = .strings w) (large : (IntKind.int w).max < total) :
    checks t n total ending =
      .error (.gather (.offsetsExhausted t (IntKind.int w).max)) := by
  have room := (room_of_short (b := w.bytes) short (by cases w <;> decide)).2
  have fit : sizesFit t w total = _ := if_pos large
  rw [checks_strings layout, room, fit]
  rfl

/-- Whether there is room for strings of a total length, if the type has strings. -/
def roomForStrings (t : DataType) (total : Width → Int) : Checked Unit :=
  match t.layout with
  | .strings w => Buffer.room (total w)
  | _ => .ok ()

/-- Without a failure before, a short gather needs room for its strings only. -/
lemma checks_of_ok {t : DataType} {total : Nat} (short : n < 2 ^ 58)
    (fits : ∀ w, t.layout = .strings w → (total : Int) ≤ (IntKind.int w).max) :
    checks t n total (.ok ()) = roomForStrings t fun _ => total := by
  unfold checks roomForStrings
  cases layout : t.layout with
  | empty => rfl
  | bits => rfl
  | fixed b =>
    simp only [(room_of_short short (DataType.width_le layout)).1]
    rfl
  | strings w =>
    have room := (room_of_short (b := w.bytes) short (by cases w <;> decide)).2
    have fit : sizesFit t w total = .ok () := if_neg (Int.not_lt.2 (fits w layout))
    simp only [room, fit]
    rfl

section Earliest

/-- Positions before the first one that refuses stand for something. -/
lemma find_of_before (hv : values.Covered) (hi : indices.Covered) (index : indices.type = .int k)
    (hp : p ≤ indices.length) (before : ∀ q < p, ∀ e, ¬ Refuses values indices k q e) :
    ∀ q < p, ∃ v, visitAt values indices k q = .ok v := fun q hq =>
  exists_visit_of_not_refuses hv hi index (by omega) (before q hq)

/-- The earliest position that refuses decides how the checks of a short gather end. -/
lemma checks_of_refuses {e : GatherError} {total : Nat} (hv : values.Covered) (hi : indices.Covered)
    (index : indices.type = .int k) (totals : Totals values indices k total)
    (length : indices.length = n) (short : n < 2 ^ 58) (hp : p < n)
    (before : ∀ q < p, ∀ e, ¬ Refuses values indices k q e)
    (refuses : Refuses values indices k p e) :
    checks values.type n total (trace values indices k).ending = .error (.gather e) := by
  have find := find_of_before hv hi index (by omega) before
  cases refuses with
  | @index v _ valid integer refused =>
    have failed : visitAt values indices k p = .error (.gather e) := by
      rw [visitAt_of_index valid integer, refused]
    obtain ⟨place, ending⟩ := ending_of_error length hp find failed
    refine checks_of_error short ending fun w layout => ?_
    rw [(totals w layout).1, place]
    exact selectedTotal_le hv hi index layout (by omega) before
  | @total w v layout valid integer named selected large =>
    -- The position itself stands for a slot. It is the sum up to it that is too large, and the
    -- sizing pass notices before anything that the walk would find later.
    obtain ⟨lo, hj⟩ := refusal_eq_none named
    have visit : visitAt values indices k p = .ok (.valid p v.toNat) := by
      rw [visitAt_of_index valid integer, named]
      simp only [selected, Checked.ok_bind]
      rfl
    have upTo : ∀ q < p + 1, ∃ v, visitAt values indices k q = .ok v := by
      intro q hq
      rcases Nat.lt_succ_iff_lt_or_eq.1 hq with lt | e
      · exact find q lt
      · exact ⟨_, e ▸ visit⟩
    have visited := le_length_visits length hp upTo
    have le := (totals w layout).2 (p + 1) visited
    exact checks_of_large short layout (by omega)

/-- Without a position that refuses the checks of a short gather are for room for its strings. -/
lemma checks_of_not_refuses {total : Nat} (hv : values.Covered) (hi : indices.Covered)
    (index : indices.type = .int k) (totals : Totals values indices k total)
    (length : indices.length = n) (short : n < 2 ^ 58)
    (none : ∀ p < n, ∀ e, ¬ Refuses values indices k p e) :
    checks values.type n total (trace values indices k).ending =
        roomForStrings values.type (fun w => selectedTotal values indices k w n) ∧
      ∀ w, values.type.layout = .strings w → total = selectedTotal values indices k w n := by
  have find := find_of_before hv hi index (by omega) none
  have visited := le_length_visits length (Nat.le_refl n) find
  obtain ⟨le, whole⟩ := length_visits values k length
  have spec := ending_trace values k length
  have ending : (trace values indices k).ending = .ok () := by
    cases ending : (trace values indices k).ending with
    | ok u => rfl
    | error e =>
      rw [ending] at spec
      exact absurd spec.1 (by omega)
  have same : ∀ w, values.type.layout = .strings w →
      total = selectedTotal values indices k w n := fun w layout => by
    rw [(totals w layout).1, whole ending]
  refine ⟨?_, same⟩
  rw [ending, checks_of_ok short fun w layout => by
    rw [same w layout]
    exact selectedTotal_le hv hi index layout (by omega) none]
  unfold roomForStrings
  cases layout : values.type.layout with
  | strings w => rw [same w layout]
  | _ => rfl

/-- An index that names no slot is an index error. -/
lemma code_of_refusal {v length : Int} {e : GatherError} (refused : refusal length v = some e) :
    e.report.code = .indexError := by
  unfold refusal at refused
  split at refused
  · cases refused
    rfl
  · split at refused
    · cases refused
      rfl
    · split at refused
      · cases refused
        rfl
      · cases refused

/-- A position refuses with an index error or a capacity error. -/
lemma code_of_refuses {e : GatherError} (refuses : Refuses values indices k p e) :
    e.report.code = .indexError ∨ e.report.code = .capacityError := by
  cases refuses with
  | index valid integer refused => exact .inl (code_of_refusal refused)
  | total => exact .inr rfl

/-- Slots that valid indices name in range can be picked if they can be read. -/
lemma exists_selects_of_readable
    (readable : ∀ (p : Nat) v, p < indices.length → indices.isValid p = .ok true →
      indices.integer k p = .ok v → values.isValid v = .ok true → ∃ x, values.cell v = .ok x) :
    ∃ xs, Visit.Selects values 0 (trace values indices k).visits xs := by
  refine exists_picks fun p q j h => ?_
  obtain ⟨hp, visit⟩ := visitAt_of_trace h
  obtain ⟨-, valid, integer, -, named⟩ := index_of_visitAt visit
  exact readable p j hp valid integer named

section Short
variable {pool : Pool} (grants : pool.Grants) (hv : values.Covered) (hi : indices.Covered)
  (index : indices.type = .int k) (fit : SelectedFit values indices k)
  (gatherable : values.type.Gatherable) (length : indices.length = n) (short : n < 2 ^ 58)
include hv hi index fit gatherable length short

/-- The earliest position that refuses decides how a short gather ends. -/
lemma settles_of_refuses {e : GatherError} (hp : p < n)
    (before : ∀ q < p, ∀ e, ¬ Refuses values indices k q e)
    (refuses : Refuses values indices k p e) :
    (take values indices).Settles (.error (.gather e)) := by
  obtain ⟨total, body, settles, totals, -, -⟩ :=
    settles_covered hv index fit gatherable length (by omega)
  rw [checks_of_refuses hv hi index totals length short hp before refuses] at settles
  exact settles

/-- Without a position that refuses a short gather ends for want of room for its strings, or as its
body does. -/
lemma settles_of_not_refuses (none : ∀ p < n, ∀ e, ¬ Refuses values indices k p e) :
    ∃ body : Checked Column,
      ((take values indices).Settles do
        roomForStrings values.type fun w => selectedTotal values indices k w n
        body) ∧
      (body = .error .stray ∨ ∃ out, body = .ok out) ∧
      ((∃ xs, Visit.Selects values 0 (trace values indices k).visits xs) →
        ∃ out, body = .ok out) := by
  obtain ⟨total, body, settles, totals, either, readable⟩ :=
    settles_covered hv index fit gatherable length (by omega)
  rw [(checks_of_not_refuses hv hi index totals length short none).1] at settles
  exact ⟨body, settles, either, readable⟩

include grants

/-- How a short gather of supported values by integers can end. -/
lemma result_cases :
    (∃ p e, Refuses values indices k p e ∧
      ((take values indices).run pool).1 = .error (.gather e)) ∨
    (∃ size, ((take values indices).run pool).1 =
      .error (.allocation (.bufferTooLarge size))) ∨
    ((take values indices).run pool).1 = .error .stray ∨
    ∃ out, ((take values indices).run pool).1 = .ok out := by
  -- Refusing is not decided by a function here, so the earliest refusal is found classically.
  classical
  by_cases some : ∃ p, p < n ∧ ∃ e, Refuses values indices k p e
  · obtain ⟨hp, e, refuses⟩ := Nat.find_spec some
    have before : ∀ q < Nat.find some, ∀ e, ¬ Refuses values indices k q e := by
      intro q hq e refuses
      exact Nat.find_min some hq ⟨by omega, e, refuses⟩
    have settles := settles_of_refuses hv hi index fit gatherable length short hp before refuses
    exact .inl ⟨_, e, refuses, settles.result grants⟩
  · have none : ∀ p < n, ∀ e, ¬ Refuses values indices k p e := fun p hp e refuses =>
      some ⟨p, hp, e, refuses⟩
    obtain ⟨body, settles, either, -⟩ :=
      settles_of_not_refuses hv hi index fit gatherable length short none
    rw [settles.result grants]
    cases room : roomForStrings values.type fun w => selectedTotal values indices k w n with
    | error e =>
      unfold roomForStrings Buffer.room at room
      split at room
      · split at room
        · cases room
          exact .inr (.inl ⟨_, rfl⟩)
        · cases room
      · cases room
    | ok u =>
      rcases either with rfl | ⟨out, rfl⟩
      · exact .inr (.inr (.inl rfl))
      · exact .inr (.inr (.inr ⟨out, rfl⟩))

/-- A short gather of supported values by integers fails with an index error or a capacity error. -/
lemma code_of_take {code : Code}
    (failed : Checked.HasCode ((take values indices).run pool).1 code) :
    code = .indexError ∨ code = .capacityError := by
  obtain ⟨f, run, rfl⟩ := failed
  rcases result_cases grants hv hi index fit gatherable length short with
    ⟨p, e, refuses, same⟩ | ⟨size, same⟩ | same | ⟨out, same⟩
  · rw [run] at same
    cases same
    exact code_of_refuses refuses
  · rw [run] at same
    cases same
    exact .inr rfl
  · rw [run] at same
    cases same
  · rw [run] at same
    cases same

/-- Strings that no position refuses may still be too large for a buffer. -/
lemma run_of_no_room (none : ∀ p < n, ∀ e, ¬ Refuses values indices k p e)
    (layout : values.type.layout = .strings w)
    (large : Buffer.maxSize < selectedTotal values indices k w n) :
    ((take values indices).run pool).1 =
      .error (.allocation (.bufferTooLarge (selectedTotal values indices k w n))) := by
  obtain ⟨body, settles, -, -⟩ :=
    settles_of_not_refuses hv hi index fit gatherable length short none
  have room : roomForStrings values.type (fun w => selectedTotal values indices k w n) =
      .error (.allocation (.bufferTooLarge (selectedTotal values indices k w n))) := by
    rw [roomForStrings, layout]
    exact if_pos large
  rw [settles.result grants, room]
  rfl

/-- A short gather that nothing speaks against ends well. -/
lemma exists_run_eq_ok (none : ∀ p < n, ∀ e, ¬ Refuses values indices k p e)
    (fits : ∀ w, values.type.layout = .strings w →
      selectedTotal values indices k w n ≤ Buffer.maxSize)
    (readable : ∀ (p : Nat) v, p < n → indices.isValid p = .ok true →
      indices.integer k p = .ok v → values.isValid v = .ok true → ∃ x, values.cell v = .ok x) :
    ∃ out, ((take values indices).run pool).1 = .ok out := by
  obtain ⟨body, settles, -, fine⟩ :=
    settles_of_not_refuses hv hi index fit gatherable length short none
  have room : roomForStrings values.type (fun w => selectedTotal values indices k w n) =
      .ok () := by
    unfold roomForStrings
    cases layout : values.type.layout with
    | strings w => exact Buffer.room_eq_ok.2 (fits w layout)
    | _ => rfl
  obtain ⟨out, made⟩ := fine (exists_selects_of_readable fun p v hp =>
    readable p v (by omega))
  exact ⟨out, by rw [settles.result grants, room, made]; rfl⟩

end Short

end Earliest

section Codes
variable {pool : Pool}

/-- A short gather fails with a type error exactly when its indices are not integers. -/
lemma typeError_iff (grants : pool.Grants) (hv : values.Covered) (hi : indices.Covered)
    (fit : ∀ k, indices.type = .int k → SelectedFit values indices k)
    (length : indices.length = n) (short : n < 2 ^ 58) :
    Checked.HasCode ((take values indices).run pool).1 .typeError ↔
      indices.type.isInteger = false := by
  constructor
  · intro failed
    by_contra integer
    obtain ⟨k, index⟩ := DataType.isInteger_iff.1 (Bool.eq_true_of_not_eq_false integer)
    by_cases gatherable : values.type.Gatherable
    · rcases code_of_take grants hv hi index (fit k index) gatherable length short failed with e | e
      · cases e
      · cases e
    · obtain ⟨f, run, code⟩ := failed
      rw [run_take_of_not_gatherable index gatherable] at run
      cases run
      cases code
  · intro other
    rw [run_take_of_not_integer other]
    exact ⟨_, rfl, rfl⟩

/-- A short gather by integers is not implemented exactly when its values are not supported. -/
lemma notImplemented_iff (grants : pool.Grants) (hv : values.Covered) (hi : indices.Covered)
    (fit : ∀ k, indices.type = .int k → SelectedFit values indices k)
    (length : indices.length = n) (short : n < 2 ^ 58) (integer : indices.type.isInteger = true) :
    Checked.HasCode ((take values indices).run pool).1 .notImplemented ↔
      ¬ values.type.Gatherable := by
  obtain ⟨k, index⟩ := DataType.isInteger_iff.1 integer
  constructor
  · intro failed gatherable
    rcases code_of_take grants hv hi index (fit k index) gatherable length short failed with e | e
    · cases e
    · cases e
  · intro unsupported
    rw [run_take_of_not_gatherable index unsupported]
    exact ⟨_, rfl, rfl⟩

end Codes

end Outcomes

/-- The failures of a gather in their order: of the index type, of the value type, and of the
earliest position that refuses. Without any of them the gather ends well if there is room for its
strings and they exist. The strings that are selected have to have lengths that an offset can say,
as they do where the first offset is not negative: `take_fails_unlike` is a string that has not. -/
theorem take_fails {pool : Pool} (grants : pool.Grants) (hv : values.Covered)
    (hi : indices.Covered) (fit : ∀ k, indices.type = .int k → SelectedFit values indices k)
    (length : indices.length = n) (short : n < 2 ^ 58) :
    (Checked.HasCode ((take values indices).run pool).1 .typeError ↔
      indices.type.isInteger = false) ∧
    (indices.type.isInteger = true →
      (Checked.HasCode ((take values indices).run pool).1 .notImplemented ↔
        ¬ values.type.Gatherable)) ∧
    ∀ k, indices.type = .int k → values.type.Gatherable →
      (∀ p < n, ∀ e, (∀ q < p, ∀ e, ¬ Refuses values indices k q e) →
        Refuses values indices k p e →
        ((take values indices).run pool).1 = .error (.gather e)) ∧
      ((∀ p < n, ∀ e, ¬ Refuses values indices k p e) →
        (∀ w, values.type.layout = .strings w →
          Buffer.maxSize < selectedTotal values indices k w n →
          ((take values indices).run pool).1 =
            .error (.allocation (.bufferTooLarge (selectedTotal values indices k w n)))) ∧
        ((∀ w, values.type.layout = .strings w →
          selectedTotal values indices k w n ≤ Buffer.maxSize) →
          (∀ (p : Nat) v, p < n → indices.isValid p = .ok true → indices.integer k p = .ok v →
            values.isValid v = .ok true → ∃ x, values.cell v = .ok x) →
          ∃ out, ((take values indices).run pool).1 = .ok out)) := by
  refine ⟨typeError_iff grants hv hi fit length short,
    notImplemented_iff grants hv hi fit length short,
    fun k index gatherable => ⟨?_, fun none => ⟨?_, ?_⟩⟩⟩
  · intro p hp e before refuses
    exact (settles_of_refuses hv hi index (fit k index) gatherable length short hp before
      refuses).result grants
  · intro w layout large
    exact run_of_no_room grants hv hi index (fit k index) gatherable length short none layout large
  · intro fits readable
    exact exists_run_eq_ok grants hv hi index (fit k index) gatherable length short none fits
      readable

/-- The first of two bad indices is the one that is reported. -/
theorem take_fails_first :
    Pool.Grants ⟨[], .generous, true, {}, fun _ => 0⟩ ∧
    Column.Covered (.ofInts (.uint .w16) [some 5, none]) ∧
    Column.Covered (.ofInts (.int .w8) [some 2, some (-1)]) ∧
    ((take (.ofInts (.uint .w16) [some 5, none]) (.ofInts (.int .w8) [some 2, some (-1)])).run
      ⟨[], .generous, true, {}, fun _ => 0⟩).1 = .error (.gather (.outOfBounds 2 2)) := by
  have grants : Pool.Grants ⟨[], .generous, true, {}, fun _ => 0⟩ := fun _ _ => rfl
  have hv : Column.Sound (.ofInts (.uint .w16) [some 5, none]) := by decide +kernel
  have hi : Column.Sound (.ofInts (.int .w8) [some 2, some (-1)]) := by decide +kernel
  have fit : ∀ k, Column.type (.ofInts (.int .w8) [some 2, some (-1)]) = .int k →
      SelectedFit (.ofInts (.uint .w16) [some 5, none])
        (.ofInts (.int .w8) [some 2, some (-1)]) k :=
    fun _ _ _ _ _ strings => nomatch strings
  obtain ⟨-, -, earliest⟩ := take_fails grants hv.covered hi.covered fit (n := 2) rfl (by decide)
  refine ⟨grants, hv.covered, hi.covered, ?_⟩
  refine (earliest (.int .w8) rfl (by decide)).1 0 (by decide) _ nofun ?_
  exact .index (v := 2) (by decide +kernel) (by decide +kernel) (by decide)

/-- A string whose offsets are minus one and the largest offset. The position that selects it
refuses by the length that these offsets have in integers, but the gather subtracts them in their
type, takes the string for one of negative length and asks for as much memory. -/
theorem take_fails_unlike :
    let values : Column := ⟨.string, 1, 0, 0,
      [none, some (.ofBytes #[255, 255, 255, 255, 255, 255, 255, 127]), some (.ofBytes #[])], none⟩
    let indices : Column := .ofInts (.int .w8) [some 0]
    values.Covered ∧ indices.Covered ∧ values.type.Gatherable ∧
      Refuses values indices (.int .w8) 0 (.offsetsExhausted .string (2 ^ 31 - 1)) ∧
      ((take values indices).run ⟨[], .generous, true, {}, fun _ => 0⟩).1 =
        .error (.allocation (.negativeBuffer (-2 ^ 31))) := by
  intro values indices
  have hi : indices.Sound := by decide +kernel
  have covered : values.Covered := ⟨by decide, by decide, nofun, by decide +kernel,
    by decide +kernel, nofun⟩
  refine ⟨covered, hi.covered, by decide, ?_, by decide +kernel⟩
  exact .total (w := .w32) (v := 0) rfl (by decide +kernel) (by decide +kernel) (by decide)
    (by decide +kernel) (by decide +kernel)

end Gather

end Columnar
