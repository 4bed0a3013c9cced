import Mathlib.Tactic.Common
import Columnar.Proofs.Column.Equality
import Columnar.Proofs.DataType.Text

/-!
# What it means for columns to be equal

`Column.Equal` is equality of columns without the order of the comparison: the same type, the same
slots and, unless there are none, equal dictionaries. It is an equivalence of columns that are sound
with all their dictionaries, and the comparison decides it (`DeeplySound.equals_eq`). Where the
window lies, whether there is a bitmap, which null count is stored and what lies behind a null slot
take no part in it.
-/

namespace Columnar.Column
variable {l m r : Column} {xs ys : List (Option Cell)}

/-- Columns of one type with the same slots and, if they are dictionary columns with any slots,
equal dictionaries. -/
inductive Equal : Column → Column → Prop
  | intro {l r : Column} {xs : List (Option Cell)} (type : l.type = r.type) (left : l.Reads xs)
    (right : r.Reads xs)
    (dictionary : l.type.isDictionary = true → xs ≠ [] → ∀ d e, l.dictionary = some d →
      r.dictionary = some e → Equal d e) : Equal l r

/-- Columns of the same length with the same valid slots and the same cells in them. -/
structure SameSlots (l r : Column) : Prop where
  length : l.length = r.length
  valid : ∀ i : Nat, i < l.length → l.isValid i = r.isValid i
  cell : ∀ i : Nat, i < l.length → l.isValid i = .ok true → l.cell i = r.cell i

section Slots

/-- Slots of one type agree validity first, and then cell by cell. -/
lemma sameSlots_iff (left : l.Reads xs) (right : r.Reads ys) : l.SameSlots r ↔ xs = ys := by
  constructor
  · intro same
    refine left.unique ⟨same.length.trans right.length, fun p s here => ?_⟩
    have hp : (p : Int) < l.length := by
      obtain ⟨lt, -⟩ := List.getElem?_eq_some_iff.1 here
      rw [same.length, right.length]
      exact Int.ofNat_lt.2 lt
    rcases slot_eq_ok.1 (right.slot p s here) with ⟨valid, rfl⟩ | ⟨x, valid, cell, rfl⟩
    · exact slot_eq_ok.2 (.inl ⟨(same.valid p hp).trans valid, rfl⟩)
    · have valid' := (same.valid p hp).trans valid
      exact slot_eq_ok.2 (.inr ⟨x, valid', (same.cell p hp valid').trans cell, rfl⟩)
  · rintro rfl
    have read : ∀ i : Nat, i < l.length → ∃ s, l.slot i = .ok s ∧ r.slot i = .ok s := by
      intro i hi
      rw [left.length] at hi
      have here := List.getElem?_eq_getElem (Int.ofNat_lt.1 hi)
      exact ⟨_, left.slot i _ here, right.slot i _ here⟩
    refine ⟨left.length.trans right.length.symm, fun i hi => ?_, fun i hi valid => ?_⟩
    · obtain ⟨s, first, second⟩ := read i hi
      rw [isValid_of_slot first, isValid_of_slot second]
    · obtain ⟨s, first, second⟩ := read i hi
      rcases slot_eq_ok.1 first with ⟨null, -⟩ | ⟨x, -, cell, rfl⟩
      · cases valid.symm.trans null
      · rcases slot_eq_ok.1 second with ⟨-, none⟩ | ⟨y, -, cell', same⟩
        · cases none
        · cases same
          exact cell.trans cell'.symm

end Slots

section Recounting
variable {c : Column} {n : Int}

lemma DeeplySound.recount (h : c.DeeplySound) (right : c.Admits n) :
    DeeplySound { c with nullCount := n } :=
  .intro (h.sound.recount right) fun encoded _ found => h.dictionary encoded found

end Recounting

namespace Equal

lemma type (h : l.Equal r) : l.type = r.type := by
  cases h with
  | intro type => exact type

/-- Equal columns are equal by any slots that one of them is known to have. -/
lemma parts (h : l.Equal r) (left : l.Reads xs) : r.Reads xs ∧
    (l.type.isDictionary = true → xs ≠ [] → ∀ d e, l.dictionary = some d →
      r.dictionary = some e → Equal d e) := by
  cases h with
  | intro _ left' right dictionary =>
    cases left.unique left'
    exact ⟨right, dictionary⟩

lemma refl (h : l.DeeplySound) : l.Equal l := by
  induction h with
  | intro sound _ ih =>
    obtain ⟨xs, reads⟩ := sound.exists_reads
    refine .intro rfl reads reads fun encoded _ d e found found' => ?_
    cases found.symm.trans found'
    exact ih encoded d found

lemma symm (h : l.Equal r) : r.Equal l := by
  induction h with
  | intro type left right _ ih =>
    exact .intro type.symm right left fun encoded some d e found found' =>
      ih (type ▸ encoded) some e d found' found

lemma comm : l.Equal r ↔ r.Equal l := ⟨symm, symm⟩

/-- The dictionary in the middle is the one that both others are equal to. -/
lemma trans (h : l.Equal m) (h' : m.Equal r) (deep : m.DeeplySound) : l.Equal r := by
  induction h generalizing r with
  | @intro l m xs type left middle _ ih =>
    obtain ⟨right, dictionary⟩ := h'.parts middle
    refine .intro (type.trans h'.type) left right fun encoded some d e found found' => ?_
    have encoded' := type ▸ encoded
    obtain ⟨b, between, values⟩ := deep.exists_dictionary encoded'
    exact ih encoded some d b found between (dictionary encoded' some b e between found') values

/-- A null count that may be stored makes no difference to what a column is equal to. -/
lemma recount {n : Int} (h : r.DeeplySound) (right : r.Admits n) :
    r.Equal { r with nullCount := n } := by
  obtain ⟨xs, reads⟩ := h.sound.exists_reads
  refine .intro rfl reads (h.sound.reads_recount right reads)
    fun encoded _ d e found found' => ?_
  cases found.symm.trans found'
  exact refl (h.dictionary encoded found)

end Equal

section Deciding

/-- A column that is sound with all its dictionaries can be opened, which makes an equal one. -/
lemma DeeplySound.exists_opened (h : r.DeeplySound) :
    ∃ c, r.opened = .ok c ∧ c.DeeplySound ∧ r.Equal c :=
  ⟨_, opened_eq h.sound.encoded, h.recount h.sound.admits_storedCount,
    Equal.recount h h.sound.admits_storedCount⟩

/-- Sound columns of a type are equal if they have the same slots and, unless there are none, equal
dictionaries, where `b` says whether these are. -/
lemma equal_iff_of_reads {b : Bool} (hl : l.Sound) (hr : r.Sound) (typed : l.type = r.type)
    (left : l.Reads xs) (right : r.Reads ys)
    (decides : l.type.isDictionary = true → ∀ d e, l.dictionary = some d → r.dictionary = some e →
      (b = true ↔ d.Equal e)) :
    l.Equal r ↔ xs = ys ∧ (l.type.isDictionary = true → xs ≠ [] → b = true) := by
  constructor
  · intro equal
    obtain ⟨right', dictionary⟩ := equal.parts left
    refine ⟨right'.unique right, fun encoded some => ?_⟩
    obtain ⟨d, found⟩ := Option.isSome_iff_exists.1 (hl.encoded encoded)
    obtain ⟨e, found'⟩ := Option.isSome_iff_exists.1 (hr.encoded (typed ▸ encoded))
    rw [decides encoded d e found found']
    exact dictionary encoded some d e found found'
  · rintro ⟨rfl, equal⟩
    refine .intro typed left right fun encoded some d e found found' => ?_
    exact (decides encoded d e found found').1 (equal encoded some)

/-- The comparison decides equality if the dictionaries, where there are any, are compared for
equality. -/
lemma wholeAgrees_iff {dictionaries : Checked Bool} {b : Bool} (hl : l.Sound) (hr : r.Sound)
    (compared : l.type.isDictionary = true → l.type = r.type → dictionaries = .ok b ∧
      ∀ d e, l.dictionary = some d → r.dictionary = some e → (b = true ↔ d.Equal e)) :
    ∃ a, wholeAgrees false l r dictionaries = .ok a ∧ (a = true ↔ l.Equal r) := by
  obtain ⟨xs, left⟩ := hl.exists_reads
  obtain ⟨ys, right⟩ := hr.exists_reads
  by_cases typed : l.type = r.type
  · refine ⟨_, wholeAgrees_eq hl hr typed left right
      fun encoded => (compared encoded typed).1, ?_⟩
    rw [decide_eq_true_iff, equal_iff_of_reads hl hr typed left right
      fun encoded => (compared encoded typed).2]
  · -- Lengths and null counts come first, but types that differ decide in the end.
    have differ : l.type.equals r.type = false :=
      Bool.eq_false_iff.2 (mt DataType.equals_iff.1 typed)
    refine ⟨false, ?_, iff_of_false Bool.false_ne_true fun equal => typed equal.type⟩
    rw [wholeAgrees, hl.countNulls_eq, hr.countNulls_eq, rangeAgrees, differ]
    simp

/-- The comparison of columns that are sound with all their dictionaries comes to an end, and
decides whether they are equal. -/
lemma DeeplySound.equals_eq (hl : l.DeeplySound) (hr : r.DeeplySound) :
    ∃ b, equals false l r = .ok b ∧ (b = true ↔ l.Equal r) := by
  induction hl generalizing r with
  | @intro l sound dictionaries ih =>
    obtain ⟨t, n, o, k, bs, found⟩ := l
    cases found with
    | none =>
      rw [equals]
      exact wholeAgrees_iff (b := false) sound hr.sound fun encoded =>
        absurd (sound.encoded encoded) Bool.false_ne_true
    | some d =>
      rw [equals]
      by_cases both : t.isDictionary = true ∧ t = r.type
      · obtain ⟨encoded, typed⟩ := both
        obtain ⟨e, found, deep⟩ := hr.exists_dictionary (typed ▸ encoded)
        obtain ⟨_, opened, -⟩ := (dictionaries encoded d rfl).exists_opened
        obtain ⟨e', opened', deep', equal⟩ := deep.exists_opened
        obtain ⟨b, compared, decides⟩ := ih encoded d rfl deep'
        refine wholeAgrees_iff (b := b) sound hr.sound fun _ _ => ⟨?_, fun d' e₀ here here' => ?_⟩
        · rw [openDictionary, found, opened]
          simp only [opened', Checked.ok_bind]
          exact compared
        · cases here
          cases found.symm.trans here'
          rw [decides]
          exact ⟨fun h => h.trans equal.symm deep', fun h => h.trans equal deep⟩
      · exact wholeAgrees_iff (b := false) sound hr.sound
          fun encoded typed => absurd ⟨encoded, typed⟩ both

lemma dictionariesEqual_congr {l' r' : Column} {same : Bool} (left : l.dictionary = l'.dictionary)
    (right : r.dictionary = r'.dictionary) :
    dictionariesEqual same l r = dictionariesEqual same l' r' := by
  simp only [dictionariesEqual, openDictionary, left, right]

/-- Dictionaries that are sound with all their dictionaries are opened and compared. -/
lemma DeeplySound.dictionariesEqual_eq {d e : Column} (hd : d.DeeplySound) (he : e.DeeplySound)
    (left : l.dictionary = some d) (right : r.dictionary = some e) :
    ∃ b, dictionariesEqual false l r = .ok b ∧ (b = true ↔ d.Equal e) := by
  obtain ⟨d', opened, deep, equal⟩ := hd.exists_opened
  obtain ⟨e', opened', deep', equal'⟩ := he.exists_opened
  obtain ⟨b, compared, decides⟩ := deep.equals_eq deep'
  refine ⟨b, ?_, ?_⟩
  · rw [dictionariesEqual, openDictionary, openDictionary, left, right]
    simp only [opened, opened', Checked.ok_bind]
    exact compared
  · rw [decides]
    exact ⟨fun h => (equal.trans h deep).trans equal'.symm deep',
      fun h => (equal.symm.trans h hd).trans equal' he⟩

lemma DeeplySound.equals_iff_equal (hl : l.DeeplySound) (hr : r.DeeplySound) :
    equals false l r = .ok true ↔ l.Equal r := by
  obtain ⟨b, compared, decides⟩ := hl.equals_eq hr
  rw [compared, Except.ok.injEq]
  exact decides

/-- Sound columns that are in no dictionary are equal if they are of one type and have the same
slots, whether or not they are known to be one column. -/
lemma Sound.equals_iff_sameSlots {same : Bool} (hl : l.Sound) (hr : r.Sound)
    (plain : l.type.isDictionary = false) (one : same = true → l = r) :
    equals same l r = .ok true ↔ l.type = r.type ∧ l.SameSlots r := by
  obtain ⟨xs, left⟩ := hl.exists_reads
  obtain ⟨ys, right⟩ := hr.exists_reads
  have none (encoded : l.type.isDictionary = true) : False :=
    absurd (plain.symm.trans encoded) Bool.false_ne_true
  cases same with
  | true =>
    cases one rfl
    exact iff_of_true (WellFormed.plain hl plain).deeplySound.equals_self
      ⟨rfl, (sameSlots_iff left left).2 rfl⟩
  | false =>
    have decides : equals false l r = .ok true ↔ l.Equal r := by
      obtain ⟨t, n, o, k, bs, found⟩ := l
      cases found with
      | none | some d =>
        rw [equals]
        obtain ⟨a, compared, decides⟩ := wholeAgrees_iff (b := false) hl hr
          fun encoded => (none encoded).elim
        rw [compared, Except.ok.injEq, decides]
    rw [decides, sameSlots_iff left right]
    constructor
    · intro equal
      exact ⟨equal.type, (equal.parts left).1.unique right⟩
    · rintro ⟨typed, rfl⟩
      exact .intro typed left right fun encoded => (none encoded).elim

end Deciding

section Meaning

/-- Equality is agreement of types, slots and, where there are slots, dictionaries. -/
lemma DeeplySound.equal_iff_sameSlots (hl : l.DeeplySound) (hr : r.DeeplySound) :
    l.Equal r ↔ l.type = r.type ∧ l.SameSlots r ∧ (l.type.isDictionary = true → 0 < l.length →
      dictionariesEqual false l r = .ok true) := by
  obtain ⟨xs, left⟩ := hl.sound.exists_reads
  obtain ⟨ys, right⟩ := hr.sound.exists_reads
  have some : xs ≠ [] ↔ 0 < l.length := by
    rw [left.length, ← List.length_pos_iff]
    exact Int.natCast_pos.symm
  rw [sameSlots_iff left right]
  constructor
  · intro equal
    obtain ⟨right', dictionary⟩ := equal.parts left
    refine ⟨equal.type, right'.unique right, fun encoded pos => ?_⟩
    obtain ⟨d, found, deep⟩ := hl.exists_dictionary encoded
    obtain ⟨e, found', deep'⟩ := hr.exists_dictionary (equal.type ▸ encoded)
    obtain ⟨b, compared, decides⟩ := deep.dictionariesEqual_eq deep' found found'
    rw [compared, decides.2 (dictionary encoded (some.2 pos) d e found found')]
  · rintro ⟨typed, rfl, dictionary⟩
    refine .intro typed left right fun encoded pos d e found found' => ?_
    obtain ⟨b, compared, decides⟩ := (hl.dictionary encoded found).dictionariesEqual_eq
      (hr.dictionary (typed ▸ encoded) found') found found'
    exact decides.1 (Except.ok.inj (compared.symm.trans (dictionary encoded (some.1 pos))))

lemma DeeplySound.equals_comm (hl : l.DeeplySound) (hr : r.DeeplySound) :
    equals false r l = equals false l r := by
  obtain ⟨a, compared, decides⟩ := hl.equals_eq hr
  obtain ⟨b, compared', decides'⟩ := hr.equals_eq hl
  have same : a = true ↔ b = true := by rw [decides, decides', Equal.comm]
  rw [compared, compared', Bool.eq_iff_iff.2 same]

/-- What is equal to a column compares like it. -/
lemma DeeplySound.equals_congr {l' : Column} (hl : l.DeeplySound) (hl' : l'.DeeplySound)
    (hr : r.DeeplySound) (equal : l'.Equal l) : equals false l' r = equals false l r := by
  obtain ⟨a, compared, decides⟩ := hl.equals_eq hr
  obtain ⟨b, compared', decides'⟩ := hl'.equals_eq hr
  have same : a = true ↔ b = true := by
    rw [decides, decides']
    exact ⟨fun h => equal.trans h hl, fun h => equal.symm.trans h hl'⟩
  rw [compared, compared', Bool.eq_iff_iff.2 same]

/-- What equality of columns means. The comparison comes to an end, and comes out true exactly for
columns of the same type, of the same length and with the same slots, whose dictionaries are equal
if there are any slots. It is reflexive whether or not both sides are known to be one column,
symmetric and transitive. A column with the same slots and the same dictionary compares alike,
whatever its window, its bitmap and the bytes behind its null slots are. -/
theorem equals_meaning (hl : l.DeeplySound) (hr : r.DeeplySound) :
    (∃ b, equals false l r = .ok b) ∧
    (equals false l r = .ok true ↔ l.type = r.type ∧ l.SameSlots r ∧
      (l.type.isDictionary = true → 0 < l.length → dictionariesEqual false l r = .ok true)) ∧
    (∀ same, equals same l l = .ok true) ∧
    equals false r l = equals false l r ∧
    (∀ m, DeeplySound m → equals false l r = .ok true → equals false r m = .ok true →
      equals false l m = .ok true) ∧
    (∀ l', DeeplySound l' → l'.type = l.type → l'.SameSlots l → l'.dictionary = l.dictionary →
      equals false l' r = equals false l r) := by
  refine ⟨?_, ?_, fun _ => hl.equals_self, hl.equals_comm hr, fun m hm => ?_,
    fun l' hl' typed same shared => ?_⟩
  · obtain ⟨b, compared, -⟩ := hl.equals_eq hr
    exact ⟨b, compared⟩
  · rw [hl.equals_iff_equal hr, hl.equal_iff_sameSlots hr]
  · rw [hl.equals_iff_equal hr, hr.equals_iff_equal hm, hl.equals_iff_equal hm]
    exact fun h h' => h.trans h' hr
  · obtain ⟨xs, reads⟩ := hl.sound.exists_reads
    obtain ⟨ys, reads'⟩ := hl'.sound.exists_reads
    cases (sameSlots_iff reads' reads).1 same
    refine hl.equals_congr hl' hr (.intro typed reads' reads fun encoded _ d e found found' => ?_)
    cases (found.symm.trans shared).trans found'
    exact .refl (hl'.dictionary encoded found)

/-- A window over a dictionary column against one that begins at its first slot, with another key
behind its null slot. -/
theorem equals_meaning_window :
    let values := laidOut .string [some (.bytes #[97]), some (.bytes #[98])] false none
    let type := DataType.dictionary (.int .w8) .string false
    let keys := ofInts (.int .w8) [some 0, some 1, none]
    let l := { encoded type keys values with offset := 1, length := 2, nullCount := -1 }
    let r : Column :=
      ⟨type, 2, 0, 1, [some (.ofBytes #[1]), some (.ofBytes #[1, 9])], some values⟩
    l.DeeplySound ∧ r.DeeplySound ∧ equals false l r = .ok true ∧ l.type = r.type ∧
      l.SameSlots r ∧ (0 < l.length → dictionariesEqual false l r = .ok true) ∧
      equals false r l = .ok true ∧ equals false r r = .ok true := by
  intro values type keys l r
  have hv : values.DeeplySound := .intro (by decide +kernel) nofun
  have hl : l.DeeplySound := .intro (by decide +kernel) fun _ _ found => Option.some.inj found ▸ hv
  have hr : r.DeeplySound := .intro (by decide +kernel) fun _ _ found => Option.some.inj found ▸ hv
  have equal : equals false l r = .ok true := by decide +kernel
  obtain ⟨-, decides, -, comm, -⟩ := equals_meaning hl hr
  obtain ⟨-, -, same, -⟩ := equals_meaning hr hr
  obtain ⟨typed, slots, dictionaries⟩ := decides.1 equal
  exact ⟨hl, hr, equal, typed, slots, dictionaries rfl, comm.trans equal, same false⟩

end Meaning

end Columnar.Column
