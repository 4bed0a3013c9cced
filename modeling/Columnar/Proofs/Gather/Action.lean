import Mathlib.Tactic.Common
import Columnar.Proofs.Column.Equality
import Columnar.Proofs.Gather.Failure
import Columnar.Proofs.Gather.Gathers
import Columnar.Proofs.Gather.WellFormed
import Columnar.Proofs.Workspace.Sharing

/-!
# Gathers act on columns

Gathering by indices that count the slots of a column makes a column that equals it
(`take_of_counts`). Gathering twice is gathering once, by the indices that the second gather picks
from those of the first (`take_comp`). Dictionaries are shared and not looked at, so the first makes
a column that cannot be compared where the dictionary cannot be read (`take_action_unreadable`).
-/

namespace Columnar

namespace Column

/-- A column is short when its length and the sizes of its buffers are. -/
structure Short (c : Column) : Prop where
  length : c.length < 2 ^ 58
  buffers : ∀ b, some b ∈ c.buffers → b.size < 2 ^ 58

/-- Whether the slots of a column of integers of kind `k` are the numbers below `n`. -/
structure Counts (c : Column) (k : IntKind) (n : Nat) : Prop where
  type : c.type = .int k
  length : c.length = n
  valid : ∀ p < n, c.isValid p = .ok true
  integer : ∀ p < n, c.integer k p = .ok p

end Column

namespace Gather
variable {v i j w out : Column} {k l : IntKind} {n m p : Nat} {s : Option Cell}
  {ws xs ys : List (Option Cell)}

section Gathered

/-- The slots of a gathered column are those that were picked. -/
lemma slot_gathered (holds : Column.Holds v.type ws (needsValidity v i)) {q : Nat}
    (here : ws[q]? = some s) : (gathered v i ws).slot q = .ok s :=
  Column.slot_laidOut holds here

lemma readable_gathered (hv : v.Readable) (holds : Column.Holds v.type ws (needsValidity v i)) :
    (gathered v i ws).Readable where
  cell _ _ hq := ⟨_, Column.cell_laidOut holds (List.getElem?_eq_getElem (Int.ofNat_lt.1 hq))⟩
  encoded := (isSome_sharedDictionary hv.encoded).trans

lemma bitmap?_gathered (stored : v.type.layout ≠ .empty) :
    (gathered v i ws).bitmap?.isSome = needsValidity v i := Column.bitmap?_laidOut stored

/-- In both orders the same slots are laid out with the same bitmap and dictionary. -/
lemma gathered_comp (values : v.type.layout ≠ .empty) (indices : i.type.layout ≠ .empty) :
    gathered v (gathered i j ys) xs = gathered (gathered v i ws) j xs := by
  have bitmap : needsValidity v (gathered i j ys) = needsValidity (gathered v i ws) j := by
    unfold needsValidity
    rw [bitmap?_gathered indices, bitmap?_gathered values]
    exact (Bool.or_assoc ..).symm
  have shared : sharedDictionary (gathered v i ws) = sharedDictionary v := by
    change (if v.type.isDictionary then sharedDictionary v else none) = sharedDictionary v
    unfold sharedDictionary
    split
    · rfl
    · rfl
  rw [gathered, bitmap, ← shared]
  rfl

end Gathered

/-- What an index into gathered slots names is what it names through the first indices. -/
lemma Names.comp (index : i.type = .int k) (first : Gathers v i k ws)
    (holds : Column.Holds v.type ws (needsValidity v i))
    (h : Names (gathered v i ws) j l p s) :
    ∃ y, Names i j l p y ∧
      ∀ x : Column, x.type = i.type → x.slot p = .ok y → Names v x k p s := by
  have layout := layout_of_int index
  cases h with
  | null null =>
    refine ⟨none, .null null, fun x _ slot => ?_⟩
    rcases Column.slot_eq_ok.1 slot with ⟨null, -⟩ | ⟨c, -, -, e⟩
    · exact .null null
    · cases e
  | @slot q s valid integer named slot =>
    have same : (gathered v i ws).length = i.length := first.length.symm
    rw [same] at named
    obtain ⟨-, hq⟩ := refusal_eq_none named
    obtain ⟨t, here, names⟩ := first.exists_names (p := q) (by rw [first.length] at hq; omega)
    cases (slot_gathered holds here).symm.trans slot
    cases names with
    | null null =>
      refine ⟨none, .slot valid integer named (Column.slot_eq_ok.2 (.inl ⟨null, rfl⟩)),
        fun x _ slot => ?_⟩
      rcases Column.slot_eq_ok.1 slot with ⟨null, -⟩ | ⟨c, -, -, e⟩
      · exact .null null
      · cases e
    | @slot a _ valid' integer' named' slot' =>
      -- The index that the second gather copies spells the same number where it is copied to.
      obtain ⟨c, cell, spelled⟩ := (Column.integer_eq_ok layout).1 integer'
      refine ⟨some (.bytes c), .slot valid integer named
        (Column.slot_eq_ok.2 (.inr ⟨_, valid', cell, rfl⟩)), fun x typed slot => ?_⟩
      rcases Column.slot_eq_ok.1 slot with ⟨-, e⟩ | ⟨c', valid'', cell', e⟩
      · cases e
      · cases e
        have integer'' := (Column.integer_eq_ok (c := x) (by rw [typed]; exact layout)).2
          ⟨c, cell', spelled⟩
        exact .slot valid'' integer'' named' slot'

/-- Gathering from what was gathered is gathering by gathered indices. -/
lemma Gathers.comp (index : i.type = .int k) (first : Gathers v i k ws)
    (holds : Column.Holds v.type ws (needsValidity v i))
    (second : Gathers (gathered v i ws) j l xs) :
    ∃ ys, Gathers i j l ys ∧ Column.Holds i.type ys (needsValidity i j) ∧
      Gathers v (gathered i j ys) k xs := by
  have steps : ∀ p < xs.length, ∃ y, Names i j l p y ∧ ∀ x : Column, x.type = i.type →
      x.slot p = .ok y → ∀ s, xs[p]? = some s → Names v x k p s := by
    intro p hp
    obtain ⟨s, here, names⟩ := second.exists_names hp
    obtain ⟨y, named, through⟩ := names.comp index first holds
    refine ⟨y, named, fun x typed slot t here' => ?_⟩
    cases here.symm.trans here'
    exact through x typed slot
  obtain ⟨ys, length, picked⟩ := exists_list steps
  have gathers : Gathers i j l ys :=
    ⟨by rw [second.length, length], fun p y here => (picked p y here).1⟩
  have layout := layout_of_int index
  have holds' := holds_of_selects (by rw [layout]; exact Layout.noConfusion) gathers.trace.2
    fun w strings => by rw [layout] at strings; cases strings
  refine ⟨ys, gathers, holds', ?_, fun p s here => ?_⟩
  · exact congrArg Int.ofNat length
  · obtain ⟨y, there, -⟩ := gathers.exists_names (p := p) (by
      have lt := (List.getElem?_eq_some_iff.1 here).1
      omega)
    exact (picked p y there).2 (gathered i j ys) rfl (slot_gathered holds' there) s here

/-- There is room for a short gather of integers. -/
lemma checks_of_int (index : i.type = .int k) (short : n < 2 ^ 58) (total : Nat) :
    checks i.type n total (.ok ()) = .ok () := by
  have layout := layout_of_int index
  have fits : ∀ w, i.type.layout = .strings w → (total : Int) ≤ (IntKind.int w).max := by
    intro w strings
    rw [layout] at strings
    cases strings
  rw [checks_of_ok short fits, roomForStrings, layout]

/-- Where two gathers in a row end well, the second indices gather the first ones well if there is
room, and the values by those indices end in the same column. -/
lemma take_comp {pool pool₁ pool₂ : Pool} (grants : pool.Grants) (hv : v.Readable)
    (hn : i.length = n) (fits : n < 2 ^ 63) (hm : j.length = m) (fits' : m < 2 ^ 63)
    (room : ∀ total, checks i.type m total (.ok ()) = .ok ())
    (first : ((take v i).run pool₁).1 = .ok w) (second : ((take w j).run pool₂).1 = .ok out) :
    ∃ x, ((take i j).run pool).1 = .ok x ∧ ((take v x).run pool).1 = .ok out := by
  obtain ⟨k, ws, index, gatherable, gathers, -, holds, rfl⟩ := gathers_of_run hv hn fits first
  obtain ⟨l, xs, index', -, gathers', passed, -, rfl⟩ :=
    gathers_of_run (readable_gathered hv holds) hm fits' second
  obtain ⟨ys, picks, -, through⟩ := gathers.comp index holds gathers'
  have many : ys.length = m := by have := picks.length; omega
  have whole : xs.length = m := by have := gathers'.length; omega
  have gatherable' : i.type.Gatherable := by
    rw [index]
    exact ⟨nofun, nofun, nofun⟩
  have run := picks.run_eq_ok grants index' gatherable'
    (fun dictionary => by rw [index] at dictionary; cases dictionary) (by omega)
    (many ▸ room _)
  refine ⟨_, run, ?_⟩
  rw [← gathered_comp (stored_of_gatherable gatherable) (stored_of_gatherable gatherable')]
  exact through.run_eq_ok grants index gatherable hv.encoded (by omega) (whole ▸ passed)

section Identity

variable {ids : Column}

/-- What the slots of a column count up to is the column. -/
lemma gathers_of_counts (h : ids.Counts k xs.length) (fits : xs.length < 2 ^ 63)
    (reads : v.Reads xs) : Gathers v ids k xs where
  length := h.length
  names p s here := by
    have hp := (List.getElem?_eq_some_iff.1 here).1
    have length := reads.length
    exact .slot (h.valid p hp) (h.integer p hp)
      (refusal_of_inside (by omega) (by omega) (by omega)) (reads.slot p s here)

/-- There is room for all slots of a short column. -/
lemma checks_of_reads (sound : v.Sound) (short : v.Short) (reads : v.Reads xs) :
    checks v.type xs.length (Column.contents v.type xs).length (.ok ()) = .ok () := by
  have length := short.length
  rw [reads.length] at length
  rw [checks_of_ok (by omega) fun w layout => (reads.length_contents_le sound layout).1]
  unfold roomForStrings
  cases layout : v.type.layout with
  | strings w =>
    have inside := (reads.length_contents_le sound layout).2
    have data : ((v.buffer? 2).map Buffer.size).getD 0 < 2 ^ 58 := by
      cases found : v.buffer? 2 with
      | none => exact Nat.two_pow_pos 58
      | some b => exact short.buffers b (List.mem_of_getElem? (Option.join_eq_some_iff.1 found))
    have room : ((Column.contents v.type xs).length : Int) ≤ Buffer.maxSize := by
      unfold Buffer.maxSize
      omega
    exact Buffer.room_eq_ok.2 room
  | _ => rfl

/-- All slots of a sound column, laid out by themselves, are a sound column. -/
lemma sound_gathered_of_reads (hv : v.Sound) (gatherable : v.type.Gatherable) (short : v.Short)
    (reads : v.Reads xs) (holds : Column.Holds v.type xs (needsValidity v ids)) :
    (gathered v ids xs).Sound := by
  have length := short.length
  rw [reads.length] at length
  have reach := reach_of_checks (by omega) (checks_of_reads hv short reads)
  refine Column.sound_laidOut holds (by omega) reach (fun needs mem => ?_)
    (validateDictionary_gathered hv)
  obtain ⟨p, here⟩ := List.mem_iff_getElem?.1 mem
  have hp := (List.getElem?_eq_some_iff.1 here).1
  rw [needsValidity, Bool.or_eq_false_iff, Option.isSome_eq_false_iff,
    Option.isNone_iff_eq_none] at needs
  have valid := hv.valid_of_no_bitmap gatherable.1 needs.1 (i := p) (by rw [reads.length]; omega)
  have null := Column.isValid_of_slot (reads.slot p _ here)
  rw [valid] at null
  cases null

/-- A gather by indices that count the slots makes a column that equals the values, if their
dictionaries can be compared. -/
lemma take_of_counts {pool : Pool} {n : Nat} (grants : pool.Grants) (hv : v.Sound)
    (gatherable : v.type.Gatherable) (short : v.Short) (length : v.length = n)
    (counts : ids.Counts k n) : ∃ out, ((take v ids).run pool).1 = .ok out ∧
      (v.DeeplySound → ∀ same, Column.equals same out v = .ok true) := by
  obtain ⟨xs, reads⟩ := hv.exists_reads
  obtain rfl : n = xs.length := Int.ofNat_inj.1 (length.symm.trans reads.length)
  have fits : xs.length < 2 ^ 63 := by have := short.length; omega
  have gathers := gathers_of_counts counts fits reads
  have passed := checks_of_reads hv short reads
  have holds := gathers.holds gatherable passed
  have run := gathers.run_eq_ok grants counts.type gatherable hv.encoded fits passed
  refine ⟨_, run, fun deep same => ?_⟩
  refine Column.equals_of_reads (sound_gathered_of_reads hv gatherable short reads holds) deep
    rfl ⟨rfl, fun p s here => slot_gathered holds here⟩ reads fun encoded => ?_
  exact if_pos encoded

end Identity

/-- Gathers act on columns: indices that count the slots make a column that equals the values, and
gathered indices make the very column that two gathers in a row make, with the very same
dictionary. Columns of dictionary types can be compared if their dictionaries are sound too. -/
theorem take_action {pool : Pool} (grants : pool.Grants) (hv : v.Sound) :
    (v.type.Gatherable → v.Short →
      ∀ (k : IntKind) (ids : Column) (n : Nat), v.length = n → ids.Counts k n →
        ∃ out, ((take v ids).run pool).1 = .ok out ∧
          (v.DeeplySound → ∀ same, Column.equals same out v = .ok true)) ∧
    (∀ (i j w out : Column) (pool₁ pool₂ : Pool), i.Sound → j.Sound → j.length < 2 ^ 58 →
      ((take v i).run pool₁).1 = .ok w → ((take w j).run pool₂).1 = .ok out →
      ∃ x, ((take i j).run pool).1 = .ok x ∧ ((take v x).run pool).1 = .ok out) ∧
    ∀ (s : Workspace) (v i j : Nat) (same : Bool), s.WellFormed →
      ((do
        let a ← Session.take v i
        let b ← Session.take a j
        let x ← Session.take i j
        let c ← Session.take v x
        Session.sameDictionary b c : Session Bool).run s).1 = .ok same → same = true := by
  refine ⟨fun gatherable short k ids n length counts => ?_,
    fun i j w out pool₁ pool₂ hi hj few first second => ?_,
    fun s v i j same h run => (Session.keeps_sameDictionary_take h).2 same run⟩
  · exact take_of_counts grants hv gatherable short length counts
  · obtain ⟨offset, n, -, hn, fits⟩ := hi.exists_window
    obtain ⟨-, m, -, hm, -⟩ := hj.exists_window
    obtain ⟨⟨k, index⟩, -⟩ := of_run first
    exact take_comp grants hv.shaped.readable hn (by omega) hm (by omega)
      (checks_of_int index (by omega)) first second

/-- A window over strings is counted, and gathered twice with nulls of all three columns. -/
theorem take_action_window :
    let v := { Column.laidOut .string [some (.bytes #[97]), some (.bytes #[98, 99]), none] true none
      with offset := 1, length := 2, nullCount := -1 }
    let ids := Column.ofInts (.uint .w64) [some 0, some 1]
    let i := Column.ofInts (.int .w8) [some 1, none, some 0]
    let j := Column.ofInts (.uint .w16) [some 2, some 0, none, some 1]
    let pool : Pool := ⟨[], .generous, true, {}, fun _ => 0⟩
    pool.Grants ∧ v.DeeplySound ∧ v.Short ∧ ids.Counts (.uint .w64) 2 ∧ i.Sound ∧ j.Sound ∧
    (∃ out, ((take v ids).run pool).1 = .ok out ∧ Column.equals false out v = .ok true) ∧
    ∃ x, ((take i j).run pool).1 = .ok x ∧ ((take v x).run pool).1 =
      .ok (.laidOut .string [some (.bytes #[98, 99]), none, none, none] true none) := by
  intro v ids i j pool
  have hv : v.DeeplySound := .intro (by decide +kernel) nofun
  have grants : pool.Grants := fun _ _ => rfl
  have small : (2 : Int) < 2 ^ 58 ∧ (4 : Int) < 2 ^ 58 := by omega
  have sizes : ∀ x ∈ v.buffers, ∀ b ∈ x, b.size < 2 ^ 58 := by decide +kernel
  have short : v.Short := ⟨small.1, fun b mem => sizes _ mem b rfl⟩
  have counts : ids.Counts (.uint .w64) 2 := ⟨rfl, rfl, by decide +kernel, by decide +kernel⟩
  have hi : i.Sound := by decide +kernel
  have hj : j.Sound := by decide +kernel
  let w := Column.laidOut .string [none, none, some (.bytes #[98, 99])] true none
  have first : ((take v i).run pool).1 = .ok w := by decide +kernel
  have second : ((take w j).run pool).1 =
      .ok (.laidOut .string [some (.bytes #[98, 99]), none, none, none] true none) := by
    decide +kernel
  obtain ⟨identity, composed, -⟩ := take_action grants hv.sound
  obtain ⟨out, run, equal⟩ := identity (by decide) short (.uint .w64) ids 2 rfl counts
  exact ⟨grants, hv, short, counts, hi, hj, ⟨out, run, equal hv false⟩,
    composed i j _ _ _ _ hi hj small.2 first second⟩

/-- A dictionary column that passes validation over a dictionary that does not: one string and no
buffers. It can be gathered, but not compared with what was gathered. -/
theorem take_action_unreadable :
    let d : Column := ⟨.string, 1, 0, 0, [none, none, none], none⟩
    let v : Column := ⟨.dictionary (.int .w8) .string false, 1, 0, 0,
      [none, some (.ofBytes #[0])], some d⟩
    let ids := Column.ofInts (.int .w8) [some 0]
    let pool : Pool := ⟨[], .generous, true, {}, fun _ => 0⟩
    pool.Grants ∧ v.Sound ∧ v.type.Gatherable ∧ v.Short ∧ ids.Counts (.int .w8) 1 ∧
      ∃ out, ((take v ids).run pool).1 = .ok out ∧ Column.equals false out v = .error .stray := by
  intro d v ids pool
  have small : (1 : Int) < 2 ^ 58 := by omega
  have sizes : ∀ x ∈ v.buffers, ∀ b ∈ x, b.size < 2 ^ 58 := by decide +kernel
  have run : ((take v ids).run pool).1 =
      .ok (.laidOut v.type [some (.bytes #[0])] true (some d)) := by decide +kernel
  exact ⟨fun _ _ => rfl, by decide +kernel, by decide, ⟨small, fun b mem => sizes _ mem b rfl⟩,
    ⟨rfl, rfl, by decide +kernel, by decide +kernel⟩, _, run, by decide +kernel⟩

end Gather

end Columnar
