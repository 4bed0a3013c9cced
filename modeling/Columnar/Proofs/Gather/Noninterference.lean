import Mathlib.Tactic.Common
import Columnar.Proofs.Gather.Picked

/-!
# What a gather does not depend on

Two gathers whose indices say the same and whose values agree on the slots that are named end in
the same way and lay out the same bytes (`take_noninterference`). What lies behind a null, a slot
that is not named, the place of a window and the kind of the indices make no difference.
-/

namespace Columnar.Gather
variable {values values' indices indices' : Column} {k k' : IntKind} {p j : Nat}

/-- Whether two columns of indices say the same, each in its own kind. -/
structure SameIndices (indices indices' : Column) (k k' : IntKind) : Prop where
  length : indices.length = indices'.length
  bitmap : indices.bitmap?.isSome = indices'.bitmap?.isSome
  valid : ∀ p : Nat, p < indices.length → indices.isValid p = indices'.isValid p
  index : ∀ p : Nat, p < indices.length → indices.isValid p = .ok true →
    indices.integer k p = indices'.integer k' p

/-- Whether two columns of values agree on the slots that indices name. -/
structure SameNamed (values values' indices : Column) (k : IntKind) : Prop where
  type : values.type = values'.type
  length : values.length = values'.length
  bitmap : values.bitmap?.isSome = values'.bitmap?.isSome
  slot : ∀ p j : Nat, p < indices.length → indices.isValid p = .ok true →
    indices.integer k p = .ok j → j < values.length → values.slot j = values'.slot j

section Agreement

/-- Whether two columns of indices have the same nulls and the same indices, each in its own kind,
with bitmaps or without. -/
structure IndicesAgree (indices indices' : Column) (k k' : IntKind) : Prop where
  length : indices.length = indices'.length
  valid : ∀ p : Nat, p < indices.length → indices.isValid p = indices'.isValid p
  index : ∀ p : Nat, p < indices.length → indices.isValid p = .ok true →
    indices.integer k p = indices'.integer k' p

/-- Whether two columns of values agree on the slots that indices name, with bitmaps or without. -/
structure NamedAgree (values values' indices : Column) (k : IntKind) : Prop where
  type : values.type = values'.type
  length : values.length = values'.length
  slot : ∀ p j : Nat, p < indices.length → indices.isValid p = .ok true →
    indices.integer k p = .ok j → j < values.length → values.slot j = values'.slot j

lemma SameIndices.agree (same : SameIndices indices indices' k k') :
    IndicesAgree indices indices' k k' := ⟨same.length, same.valid, same.index⟩

lemma SameNamed.agree (named : SameNamed values values' indices k) :
    NamedAgree values values' indices k := ⟨named.type, named.length, named.slot⟩

/-- Sound columns that agree on a slot agree on its validity, and on its cell where it is valid. -/
lemma agree_of_slot (hv : values.Sound) (hv' : values'.Sound) (stored : values.type.layout ≠ .empty)
    (type : values.type = values'.type) (length : values.length = values'.length)
    (hj : j < values.length) (slot : values.slot j = values'.slot j) :
    values.isValid j = values'.isValid j ∧
      (values.isValid j = .ok true → values.cell j = values'.cell j) := by
  obtain ⟨b, valid⟩ := hv.covered.exists_isValid hj
  obtain ⟨b', valid'⟩ := hv'.covered.exists_isValid (i := j) (length ▸ hj)
  obtain ⟨x, cell⟩ := hv.exists_cell stored hj
  obtain ⟨x', cell'⟩ := hv'.exists_cell (type ▸ stored) (i := j) (length ▸ hj)
  simp only [Column.slot, valid, valid', cell, cell', Checked.ok_bind] at slot
  rw [valid, valid', cell, cell']
  cases b with
  | false =>
    cases b' with
    | false =>
      refine ⟨rfl, fun valid => ?_⟩
      cases valid
    | true => cases slot
  | true =>
    cases b' with
    | false => cases slot
    | true =>
      cases slot
      exact ⟨rfl, fun _ => rfl⟩

/-- The same index stands for the same. -/
lemma visitAt_of_agree (hv : values.Sound) (hv' : values'.Sound) (hi : indices.Sound)
    (index : indices.type = .int k) (stored : values.type.layout ≠ .empty)
    (same : IndicesAgree indices indices' k k') (named : NamedAgree values values' indices k)
    (hp : p < indices.length) :
    visitAt values indices k p = visitAt values' indices' k' p := by
  obtain ⟨b, valid⟩ := hi.covered.exists_isValid hp
  have valid' := (same.valid p hp).symm.trans valid
  cases b with
  | false => rw [visitAt_of_null valid, visitAt_of_null valid']
  | true =>
    obtain ⟨v, integer⟩ := hi.covered.exists_integer (layout_of_int index) hp
    have integer' := (same.index p hp valid).symm.trans integer
    rw [visitAt_of_index valid integer, visitAt_of_index valid' integer', named.length]
    cases refused : refusal values'.length v with
    | some e => rfl
    | none =>
      obtain ⟨lo, lt⟩ := refusal_eq_none refused
      obtain ⟨j, rfl⟩ := Int.eq_ofNat_of_zero_le lo
      rw [← named.length] at lt
      have slot := named.slot p j hp valid integer lt
      rw [(agree_of_slot hv hv' stored named.type named.length lt slot).1]

lemma trace_of_agree (hv : values.Sound) (hv' : values'.Sound) (hi : indices.Sound)
    (index : indices.type = .int k) (stored : values.type.layout ≠ .empty)
    (same : IndicesAgree indices indices' k k') (named : NamedAgree values values' indices k) :
    trace values indices k = trace values' indices' k' := by
  rw [trace, trace, ← same.length]
  exact Trace.ofPositions_congr fun p _ hp =>
    visitAt_of_agree hv hv' hi index stored same named (by omega)

/-- The same slots are picked. -/
lemma selects_of_agree {xs : List (Option Cell)} (hv : values.Sound) (hv' : values'.Sound)
    (hi : indices.Sound) (index : indices.type = .int k) (stored : values.type.layout ≠ .empty)
    (same : IndicesAgree indices indices' k k') (named : NamedAgree values values' indices k)
    (selects : Visit.Selects values 0 (trace values indices k).visits xs) :
    Visit.Selects values' 0 (trace values' indices' k').visits xs := by
  rw [← trace_of_agree hv hv' hi index stored same named]
  apply selects.congr
  intro p q j x visited cell
  obtain ⟨hp, visit⟩ := visitAt_of_trace visited
  obtain ⟨-, valid, integer, hj, here⟩ := index_of_visitAt visit
  have slot := named.slot p j hp valid integer hj
  rw [← (agree_of_slot hv hv' stored named.type named.length hj slot).2 here]
  exact cell

lemma trace_eq (hv : values.Sound) (hv' : values'.Sound) (hi : indices.Sound)
    (index : indices.type = .int k) (stored : values.type.layout ≠ .empty)
    (same : SameIndices indices indices' k k') (named : SameNamed values values' indices k) :
    trace values indices k = trace values' indices' k' :=
  trace_of_agree hv hv' hi index stored same.agree named.agree

lemma selects_of_same {xs : List (Option Cell)} (hv : values.Sound) (hv' : values'.Sound)
    (hi : indices.Sound) (index : indices.type = .int k) (stored : values.type.layout ≠ .empty)
    (same : SameIndices indices indices' k k') (named : SameNamed values values' indices k)
    (selects : Visit.Selects values 0 (trace values indices k).visits xs) :
    Visit.Selects values' 0 (trace values' indices' k').visits xs :=
  selects_of_agree hv hv' hi index stored same.agree named.agree selects

end Agreement

section Failing

/-- A walk over indices that can be read ends early at a failure only. -/
lemma failure_of_ending {e : Fault} (hv : values.Covered) (hi : indices.Covered)
    (index : indices.type = .int k) (failed : (trace values indices k).ending = .error e) :
    ∃ f, e = .failure f := by
  obtain ⟨n, length⟩ := Int.eq_ofNat_of_zero_le hi.length_nonneg
  have spec := ending_trace values k length
  rw [failed] at spec
  obtain ⟨lt, visit⟩ := spec
  rcases visit_or_refusal hv hi index (Int.ofNat_lt.2 lt |>.trans_eq length.symm)
    with ⟨v, found⟩ | ⟨v, g, -, -, -, refused⟩
  · rw [visit] at found
    cases found
  · rw [visit] at refused
    cases refused
    exact ⟨_, rfl⟩

/-- The checks of a gather fail with a failure if its walk does. -/
lemma failure_of_checks {t : DataType} {n total : Nat} {ending : Checked Unit} {e : Fault}
    (walk : ∀ e, ending = .error e → ∃ f, e = .failure f)
    (failed : checks t n total ending = .error e) : ∃ f, e = .failure f := by
  have room : ∀ {size : Int} {e}, Buffer.room size = .error e → ∃ f, e = .failure f := by
    intro size e h
    unfold Buffer.room at h
    split at h
    · cases h
      exact ⟨_, rfl⟩
    · cases h
  unfold checks at failed
  split at failed
  · rcases Checked.bind_eq_error.1 failed with h | ⟨_, -, h⟩
    · exact room h
    · exact walk e h
  · rcases Checked.bind_eq_error.1 failed with h | ⟨_, -, h⟩
    · exact room h
    · rcases Checked.bind_eq_error.1 h with h | ⟨_, -, h⟩
      · unfold sizesFit at h
        split at h
        · cases h
          exact ⟨_, rfl⟩
        · cases h
      · rcases Checked.bind_eq_error.1 h with h | ⟨_, -, h⟩
        · exact walk e h
        · exact room h
  · exact walk e failed

end Failing

/-- Where every request is granted, gathers of the same slots by the same indices fail alike or lay
out the same bytes. -/
theorem take_noninterference {pool pool' : Pool} (grants : pool.Grants) (grants' : pool'.Grants)
    (hv : values.Sound) (hv' : values'.Sound) (hi : indices.Sound) (index : indices.type = .int k)
    (index' : indices'.type = .int k')
    (same : SameIndices indices indices' k k') (named : SameNamed values values' indices k) :
    (∃ f : Failure, ((take values indices).run pool).1 = .error (.failure f) ∧
      ((take values' indices').run pool').1 = .error (.failure f)) ∨
    ∃ out out', ((take values indices).run pool).1 = .ok out ∧
      ((take values' indices').run pool').1 = .ok out' ∧
      out = { out' with dictionary := out.dictionary } ∧
      (values.type.isDictionary = true →
        out.dictionary = values.dictionary ∧ out'.dictionary = values'.dictionary) := by
  by_cases gatherable : values.type.Gatherable
  · have stored : values.type.layout ≠ .empty := fun e =>
      gatherable.1 (Column.layout_eq_empty.1 e)
    obtain ⟨offset, n, -, length, lt⟩ := hi.exists_window
    obtain ⟨xs, selects⟩ := exists_selects indices k fun j hj =>
      hv.exists_cell stored hj
    -- Both gathers settle as the same checks over the same picks.
    have run := (settles_take index length (by omega) gatherable hv.encoded selects).result grants
    have run' := (settles_take index' (same.length ▸ length) (by omega) (named.type ▸ gatherable)
      hv'.encoded (selects_of_same hv hv' hi index stored same named selects)).result grants'
    rw [← trace_eq hv hv' hi index stored same named, ← named.type] at run'
    rw [run, run']
    cases passed : checks values.type n (Column.contents values.type xs).length
        (trace values indices k).ending with
    | error e =>
      obtain ⟨f, rfl⟩ := failure_of_checks
        (fun e => failure_of_ending hv.covered hi.covered index) passed
      exact .inl ⟨f, rfl, rfl⟩
    | ok u =>
      refine .inr ⟨_, _, rfl, rfl, ?_, fun dictionary => ⟨if_pos dictionary, ?_⟩⟩
      · have bitmap : needsValidity values' indices' = needsValidity values indices := by
          rw [needsValidity, needsValidity, named.bitmap, same.bitmap]
        rw [gathered, gathered, bitmap, ← named.type]
        rfl
      · exact if_pos (named.type ▸ dictionary)
  · rw [run_take_of_not_gatherable index gatherable,
      run_take_of_not_gatherable index' (named.type ▸ gatherable), ← named.type]
    exact .inl ⟨_, rfl, rfl⟩

/-- A slot that is not named, in gathers by indices of different kinds. -/
theorem take_noninterference_unnamed :
    Column.Sound (.ofInts (.int .w16) [some 7, some 3]) ∧
    Column.Sound (.ofInts (.int .w16) [some 7, none]) ∧
    Column.Sound (.ofInts (.uint .w8) [some 0, none]) ∧
    SameIndices (.ofInts (.uint .w8) [some 0, none]) (.ofInts (.int .w64) [some 0, none])
      (.uint .w8) (.int .w64) ∧
    SameNamed (.ofInts (.int .w16) [some 7, some 3]) (.ofInts (.int .w16) [some 7, none])
      (.ofInts (.uint .w8) [some 0, none]) (.uint .w8) ∧
    ∃ out out', ((take (.ofInts (.int .w16) [some 7, some 3])
        (.ofInts (.uint .w8) [some 0, none])).run ⟨[], .generous, true, {}, fun _ => 1⟩).1 =
          .ok out ∧
      ((take (.ofInts (.int .w16) [some 7, none]) (.ofInts (.int .w64) [some 0, none])).run
        ⟨[], .generous, true, {}, fun _ => 2⟩).1 = .ok out' ∧
      out = { out' with dictionary := out.dictionary } := by
  have hv : Column.Sound (.ofInts (.int .w16) [some 7, some 3]) := by decide +kernel
  have hv' : Column.Sound (.ofInts (.int .w16) [some 7, none]) := by decide +kernel
  have hi : Column.Sound (.ofInts (.uint .w8) [some 0, none]) := by decide +kernel
  have valid : ∀ p < 2, Column.isValid (.ofInts (.uint .w8) [some 0, none]) (p : Nat) =
      Column.isValid (.ofInts (.int .w64) [some 0, none]) (p : Nat) := by decide +kernel
  have index : ∀ p < 2,
      Column.integer (.ofInts (.uint .w8) [some 0, none]) (.uint .w8) (p : Nat) = .ok 0 ∧
      Column.integer (.ofInts (.int .w64) [some 0, none]) (.int .w64) (p : Nat) = .ok 0 := by
    decide +kernel
  have same : SameIndices (.ofInts (.uint .w8) [some 0, none])
      (.ofInts (.int .w64) [some 0, none]) (.uint .w8) (.int .w64) := by
    refine ⟨rfl, by decide +kernel, fun p hp => valid p (Int.ofNat_lt.1 hp), fun p hp _ => ?_⟩
    obtain ⟨first, second⟩ := index p (Int.ofNat_lt.1 hp)
    exact first.trans second.symm
  have named : SameNamed (.ofInts (.int .w16) [some 7, some 3])
      (.ofInts (.int .w16) [some 7, none]) (.ofInts (.uint .w8) [some 0, none]) (.uint .w8) := by
    refine ⟨rfl, rfl, by decide +kernel, fun p j hp _ integer _ => ?_⟩
    have zero := Except.ok.inj ((index p (Int.ofNat_lt.1 hp)).1.symm.trans integer)
    rw [← zero]
    decide +kernel
  have first : Pool.Grants ⟨[], .generous, true, {}, fun _ => 1⟩ := fun _ _ => rfl
  have second : Pool.Grants ⟨[], .generous, true, {}, fun _ => 2⟩ := fun _ _ => rfl
  refine ⟨hv, hv', hi, same, named, ?_⟩
  rcases take_noninterference first second hv hv' hi rfl rfl same named with
    ⟨f, failed, -⟩ | ⟨out, out', run, run', e, -⟩
  · have fine : ((take (.ofInts (.int .w16) [some 7, some 3])
        (.ofInts (.uint .w8) [some 0, none])).run ⟨[], .generous, true, {}, fun _ => 1⟩).1 =
          .ok (.ofInts (.int .w16) [some 7, none]) := by decide +kernel
    rw [fine] at failed
    cases failed
  · exact ⟨out, out', run, run', e⟩

end Columnar.Gather
