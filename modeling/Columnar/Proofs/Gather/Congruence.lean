import Mathlib.Tactic.Common
import Columnar.Proofs.Column.Equal
import Columnar.Proofs.Gather.Noninterference
import Columnar.Proofs.Gather.WellFormed

/-!
# Gathers of equal columns

Gathers of equal values by equal indices fail alike or make columns with the same slots
(`take_alike`). Such columns are equal too, unless they are longer than what they were gathered from
and show a difference that was not looked at there: equal dictionary columns without slots may have
dictionaries that differ, and so may what is gathered from them (`take_congr`).
-/

namespace Columnar.Gather
variable {values values' indices indices' : Column} {k : IntKind} {xs ys : List (Option Cell)}

section Agreeing

/-- Indices with the same slots say the same. -/
lemma indicesAgree_of_reads (hi : indices.Sound) (index : indices.type = .int k)
    (index' : indices'.type = .int k) (left : indices.Reads xs) (right : indices'.Reads xs) :
    IndicesAgree indices indices' k k := by
  have same := (Column.sameSlots_iff left right).2 rfl
  refine ⟨same.length, same.valid, fun p hp valid => ?_⟩
  obtain ⟨v, integer⟩ := hi.covered.exists_integer (layout_of_int index) hp
  obtain ⟨x, cell, spelled⟩ := (Column.integer_eq_ok (layout_of_int index)).1 integer
  rw [same.cell p hp valid] at cell
  rw [integer, (Column.integer_eq_ok (layout_of_int index')).2 ⟨x, cell, spelled⟩]

/-- Values of a type with the same slots agree on all slots that could be named. -/
lemma namedAgree_of_reads (typed : values.type = values'.type) (left : values.Reads xs)
    (right : values'.Reads xs) : NamedAgree values values' indices k := by
  refine ⟨typed, left.length.trans right.length.symm, fun p j _ _ _ hj => ?_⟩
  rw [left.length] at hj
  have here := List.getElem?_eq_getElem (Int.ofNat_lt.1 hj)
  rw [left.slot j _ here, right.slot j _ here]

end Agreeing

section Gathered

/-- A gather of sound columns that passes its checks lays out a sound column of the slots that it
picks. -/
lemma gathered_of_checks {n : Nat} (hv : values.Sound) (hi : indices.Sound)
    (index : indices.type = .int k) (gatherable : values.type.Gatherable)
    (length : indices.length = n)
    (selects : Visit.Selects values 0 (trace values indices k).visits xs)
    (passed : checks values.type n (Column.contents values.type xs).length
      (trace values indices k).ending = .ok ()) :
    (gathered values indices xs).Sound ∧ (gathered values indices xs).Reads xs := by
  obtain ⟨ending, room⟩ := of_checks passed
  have short := length_le_of_sound hi index length
  have reach : values.type.layout.reach indices.length < 2 ^ 63 :=
    length ▸ reach_of_checks (by omega) passed
  have holds := holds_of_selects (stored_of_gatherable gatherable) selects room
  exact ⟨sound_gathered hv hi index gatherable reach ending selects holds,
    rfl, fun _ _ here => Column.slot_laidOut holds here⟩

/-- A gather of a column that is sound with all its dictionaries makes another one. -/
lemma deeplySound_gathered (hv : values.DeeplySound) (sound : (gathered values indices xs).Sound) :
    (gathered values indices xs).DeeplySound := by
  refine .intro sound fun encoded d found => hv.dictionary encoded ?_
  have shared : (gathered values indices xs).dictionary = values.dictionary :=
    dictionary_gathered encoded
  exact shared.symm.trans found

/-- Columns with the same slots that were gathered from values of a type are equal if they have no
slots or the dictionaries of the values are equal. -/
lemma equal_gathered_iff (hl : (gathered values indices xs).DeeplySound)
    (hr : (gathered values' indices' xs).DeeplySound) (typed : values.type = values'.type)
    (left : (gathered values indices xs).Reads xs)
    (right : (gathered values' indices' xs).Reads xs) :
    (gathered values indices xs).Equal (gathered values' indices' xs) ↔
      (values.type.isDictionary = true → xs ≠ [] →
        Column.dictionariesEqual false values values' = .ok true) := by
  have some : xs ≠ [] ↔ 0 < (gathered values indices xs).length := by
    rw [left.length, ← List.length_pos_iff]
    exact Int.natCast_pos.symm
  have shared (encoded : values.type.isDictionary = true) :
      Column.dictionariesEqual false (gathered values indices xs) (gathered values' indices' xs) =
        Column.dictionariesEqual false values values' :=
    Column.dictionariesEqual_congr (dictionary_gathered encoded)
      (dictionary_gathered (typed ▸ encoded))
  rw [hl.equal_iff_sameSlots hr, some]
  constructor
  · rintro ⟨-, -, dictionaries⟩ encoded pos
    exact (shared encoded).symm.trans (dictionaries encoded pos)
  · exact fun dictionaries => ⟨typed, (Column.sameSlots_iff left right).2 rfl,
      fun encoded pos => (shared encoded).trans (dictionaries encoded pos)⟩

end Gathered

/-- Where every request is granted, gathers of the same slots of one type by indices with the same
slots fail alike or lay out columns of the same slots. -/
lemma take_alike {pool pool' : Pool} (grants : pool.Grants) (grants' : pool'.Grants)
    (hv : values.Sound) (hv' : values'.Sound) (hi : indices.Sound) (hi' : indices'.Sound)
    (typed : values.type = values'.type) (typed' : indices.type = indices'.type)
    (left : values.Reads xs) (right : values'.Reads xs) (first : indices.Reads ys)
    (second : indices'.Reads ys) :
    (∃ f : Failure, ((take values indices).run pool).1 = .error (.failure f) ∧
      ((take values' indices').run pool').1 = .error (.failure f)) ∨
    ∃ zs : List (Option Cell), zs.length = ys.length ∧
      ((take values indices).run pool).1 = .ok (gathered values indices zs) ∧
      ((take values' indices').run pool').1 = .ok (gathered values' indices' zs) ∧
      ((gathered values indices zs).Sound ∧ (gathered values indices zs).Reads zs) ∧
      (gathered values' indices' zs).Sound ∧ (gathered values' indices' zs).Reads zs := by
  by_cases integer : ∃ k, indices.type = .int k
  · obtain ⟨k, index⟩ := integer
    have index' := typed'.symm.trans index
    by_cases gatherable : values.type.Gatherable
    · have gatherable' := typed ▸ gatherable
      have stored := stored_of_gatherable gatherable
      have same := indicesAgree_of_reads hi index index' first second
      have named : NamedAgree values values' indices k := namedAgree_of_reads typed left right
      obtain ⟨zs, selects⟩ := exists_selects indices k fun j hj => hv.exists_cell stored hj
      have selects' := selects_of_agree hv hv' hi index stored same named selects
      have fits : ys.length < 2 ^ 63 := by
        obtain ⟨_, n, -, length, lt⟩ := hi.exists_window
        have total := first.length
        omega
      -- The walks are the same, so both gathers make the same checks and the same picks.
      have walks := trace_of_agree hv hv' hi index stored same named
      have run := (settles_take index first.length fits gatherable hv.encoded selects).result grants
      have run' := (settles_take index' second.length fits gatherable' hv'.encoded
        selects').result grants'
      rw [run, run']
      cases passed : checks values.type ys.length (Column.contents values.type zs).length
          (trace values indices k).ending with
      | error e =>
        obtain ⟨f, rfl⟩ := failure_of_checks
          (fun e => failure_of_ending hv.covered hi.covered index) passed
        rw [← walks, ← typed, passed]
        exact .inl ⟨f, rfl, rfl⟩
      | ok u =>
        have passed' := passed
        rw [walks, typed] at passed'
        rw [passed']
        have total := (length_visits values k first.length).2 (of_checks passed).1
        exact .inr ⟨zs, selects.length.trans total, rfl, rfl,
          gathered_of_checks hv hi index gatherable first.length selects passed,
          gathered_of_checks hv' hi' index' gatherable' second.length selects' passed'⟩
    · rw [run_take_of_not_gatherable index gatherable,
        run_take_of_not_gatherable index' (typed ▸ gatherable), ← typed]
      exact .inl ⟨_, rfl, rfl⟩
  · have refused := Bool.eq_false_iff.2 (mt DataType.isInteger_iff.1 integer)
    rw [run_take_of_not_integer refused, run_take_of_not_integer (typed' ▸ refused), ← typed']
    exact .inl ⟨_, rfl, rfl⟩

/-- What gathers of equal columns come to. Where every request is granted, gathers of equal values
by equal indices fail alike, or make columns that are equal exactly if there are no indices or the
dictionaries of the values, where they have any, are equal. Those are equal unless the values are
dictionary columns without slots, which are equal whatever their dictionaries are. -/
theorem take_congr {pool pool' : Pool} (grants : pool.Grants) (grants' : pool'.Grants)
    (hv : values.DeeplySound) (hv' : values'.DeeplySound) (hi : indices.DeeplySound)
    (hi' : indices'.DeeplySound) (equal : Column.equals false values values' = .ok true)
    (equal' : Column.equals false indices indices' = .ok true) :
    (∃ f : Failure, ((take values indices).run pool).1 = .error (.failure f) ∧
      ((take values' indices').run pool').1 = .error (.failure f)) ∨
    ∃ out out', ((take values indices).run pool).1 = .ok out ∧
      ((take values' indices').run pool').1 = .ok out' ∧
      (Column.equals false out out' = .ok true ↔ (values.type.isDictionary = true →
        0 < indices.length → Column.dictionariesEqual false values values' = .ok true)) ∧
      ((values.type.isDictionary = true → 0 < values.length) →
        Column.equals false out out' = .ok true) := by
  rw [hv.equals_iff_equal hv'] at equal
  rw [hi.equals_iff_equal hi'] at equal'
  obtain ⟨xs, left⟩ := hv.sound.exists_reads
  obtain ⟨ys, first⟩ := hi.sound.exists_reads
  rcases take_alike grants grants' hv.sound hv'.sound hi.sound hi'.sound equal.type equal'.type
      left (equal.parts left).1 first (equal'.parts first).1 with
    failed | ⟨zs, total, run, run', ⟨sound, reads⟩, sound', reads'⟩
  · exact .inl failed
  · have deep := deeplySound_gathered hv sound
    have deep' := deeplySound_gathered hv' sound'
    have some : zs ≠ [] ↔ 0 < indices.length := by
      rw [first.length, ← total, ← List.length_pos_iff]
      exact Int.natCast_pos.symm
    have decides := equal_gathered_iff deep deep' equal.type reads reads'
    rw [some] at decides
    refine .inr ⟨_, _, run, run', ?_, fun slots => ?_⟩
    · rw [deep.equals_iff_equal deep', decides]
    · rw [deep.equals_iff_equal deep', decides]
      intro encoded _
      exact ((hv.equal_iff_sameSlots hv').1 equal).2.2 encoded (slots encoded)

/-- A window over a dictionary column and one that begins at its first slot, gathered by indices
with a bitmap and by indices without one. -/
theorem take_congr_window :
    let dict := Column.laidOut .string [some (.bytes #[97]), some (.bytes #[98])] false none
    let type := DataType.dictionary (.int .w8) .string false
    let keys := Column.ofInts (.int .w8) [some 0, some 1, none]
    let v := { Column.encoded type keys dict with offset := 1, length := 2, nullCount := -1 }
    let v' : Column := ⟨type, 2, 0, 1, [some (.ofBytes #[1]), some (.ofBytes #[1, 9])], some dict⟩
    let i := Column.ofInts (.int .w16) [some 1, some 0, some 0]
    let i' := Column.laidOut (.int (.int .w16))
      [some (.bytes #[1, 0]), some (.bytes #[0, 0]), some (.bytes #[0, 0])] false none
    let pool : Pool := ⟨[], .generous, true, {}, fun _ => 0⟩
    pool.Grants ∧ v.DeeplySound ∧ v'.DeeplySound ∧ i.DeeplySound ∧ i'.DeeplySound ∧
      Column.equals false v v' = .ok true ∧ Column.equals false i i' = .ok true ∧
      ∃ out out', ((take v i).run pool).1 = .ok out ∧ ((take v' i').run pool).1 = .ok out' ∧
        Column.equals false out out' = .ok true := by
  intro dict type keys v v' i i' pool
  have grants : pool.Grants := fun _ _ => rfl
  have hd : dict.DeeplySound := .intro (by decide +kernel) nofun
  have hv : v.DeeplySound := .intro (by decide +kernel) fun _ _ found => Option.some.inj found ▸ hd
  have hv' : v'.DeeplySound :=
    .intro (by decide +kernel) fun _ _ found => Option.some.inj found ▸ hd
  have hi : i.DeeplySound := .intro (by decide +kernel) nofun
  have hi' : i'.DeeplySound := .intro (by decide +kernel) nofun
  have equal : Column.equals false v v' = .ok true := by decide +kernel
  have equal' : Column.equals false i i' = .ok true := by decide +kernel
  refine ⟨grants, hv, hv', hi, hi', equal, equal', ?_⟩
  rcases take_congr grants grants hv hv' hi hi' equal equal' with
    ⟨f, failed, -⟩ | ⟨out, out', run, run', -, same⟩
  · have fine : ((take v i).run pool).1.isOk = true := by decide +kernel
    rw [failed] at fine
    cases fine
  · exact ⟨out, out', run, run', same fun _ => by decide⟩

/-- Dictionary columns without slots are equal although their dictionaries are not, which are looked
at only where there are slots. A null index gathers a slot from each, and these columns are rightly
not equal. -/
theorem take_not_congr_of_empty :
    let type := DataType.dictionary (.int .w8) .string false
    let v := Column.laidOut type [] false
      (some (Column.laidOut .string [some (.bytes #[97])] false none))
    let v' := Column.laidOut type [] false
      (some (Column.laidOut .string [some (.bytes #[98])] false none))
    let i := Column.ofInts (.int .w8) [none]
    let pool : Pool := ⟨[], .generous, true, {}, fun _ => 0⟩
    pool.Grants ∧ v.WellFormed ∧ v'.WellFormed ∧ i.WellFormed ∧
      Column.equals false v v' = .ok true ∧ Column.equals false i i = .ok true ∧
      ∃ out out', ((take v i).run pool).1 = .ok out ∧ ((take v' i).run pool).1 = .ok out' ∧
        Column.equals false out out' = .ok false := by
  intro type v v' i pool
  have grants : pool.Grants := fun _ _ => rfl
  have hv : v.WellFormed := .encoded (by decide +kernel) rfl rfl
    (.plain (by decide +kernel) rfl) (Column.keysBelow_of_checkKeys (by decide +kernel))
  have hv' : v'.WellFormed := .encoded (by decide +kernel) rfl rfl
    (.plain (by decide +kernel) rfl) (Column.keysBelow_of_checkKeys (by decide +kernel))
  refine ⟨grants, hv, hv', .plain (by decide +kernel) rfl, by decide +kernel, by decide +kernel,
    Column.laidOut type [none] true v.dictionary, Column.laidOut type [none] true v'.dictionary,
    by decide +kernel, by decide +kernel, by decide +kernel⟩

end Columnar.Gather
