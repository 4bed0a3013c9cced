import Mathlib.Tactic.Common
import Columnar.Proofs.Column.Equal
import Columnar.Proofs.Column.Recounted
import Columnar.Proofs.Column.Slice

/-!
# Ranges and slices compare alike

A range of two columns is compared in place. Its slots and dictionaries are compared as those of its
slices are (`rangeAgrees_window`), but the short cuts before that differ: a range of a column and
itself is equal if both begin at one slot, and slices are compared in length and null count first.
Both decide whether the slices are equal (`rangeEquals_slices`).
-/

namespace Columnar.Column
variable {c l l' r r' s : Column} {place i j : Nat} {start stop other : Int} {same : Bool}

section Windows

/-- The keys of a part are a part of the keys. -/
lemma PartOf.keys (h : s.PartOf c place) : s.keys.Within c.keys place := by
  have part := s.alike_keys
  have whole := c.alike_keys
  refine ⟨?_, ?_, ?_, ?_, ?_⟩
  · rw [part.layout, whole.layout, h.layout]
  · rw [part.buffers, whole.buffers, h.buffers]
  · rw [part.offset, whole.offset, h.offset]
  · rw [part.length]
    exact h.length_nonneg
  · rw [part.length, whole.length]
    exact h.inside

/-- Slots agree as they do where they come from. -/
lemma slotsAgree_within (left : l'.Within l i) (right : r'.Within r j) {p q : Int}
    (valid : l'.isValid p = l.isValid (i + p)) (valid' : r'.isValid q = r.isValid (j + q)) :
    slotsAgree l' r' p q = slotsAgree l r (i + p) (j + q) := by
  simp only [slotsAgree, cellsAgree, lengthsAgree, valid, valid', left.layout, left.stringLength,
    right.stringLength, left.cell, right.cell]

/-- Windows agree as they do where they come from. -/
lemma windowsAgree_within (left : l'.Within l i) (right : r'.Within r j) {n : Nat}
    (valid : ∀ p : Nat, p < n → l'.isValid p = l.isValid (i + p))
    (valid' : ∀ p : Nat, p < n → r'.isValid p = r.isValid (j + p)) :
    windowsAgree l' r' 0 0 n = windowsAgree l r i j n := by
  have run (m p : Nat) (whole : p + m = n) :
      windowsAgree l' r' p p m = windowsAgree l r (i + p) (j + p) m := by
    induction m generalizing p with
    | zero => rfl
    | succ m ih =>
      rw [windowsAgree, windowsAgree,
        slotsAgree_within left right (valid p (by omega)) (valid' p (by omega)), Int.add_assoc,
        Int.add_assoc]
      have rest := ih (p + 1) (by omega)
      rw [Int.natCast_add, Int.natCast_one] at rest
      rw [rest]
  have whole := run n 0 (Nat.zero_add n)
  rwa [Int.natCast_zero, Int.add_zero, Int.add_zero] at whole

/-- A range of two columns that are not known to be one, or do not begin at one place, agrees as the
windows of it do. -/
lemma rangeAgrees_window {dictionaries : Checked Bool}
    (distinct : ¬ (same = true ∧ (i : Int) = j)) (left : l'.WindowOf l i) (right : r'.WindowOf r j)
    (length : l'.length = r'.length) :
    rangeAgrees same l r i (i + l'.length) j dictionaries =
      rangeAgrees false l' r' 0 l'.length 0 dictionaries := by
  have width : (i : Int) + l'.length - i = l'.length := by omega
  have valid (p : Nat) (hp : p < l'.length.toNat) : l'.isValid p = l.isValid (i + p) :=
    left.isValid p (by omega)
  have valid' (p : Nat) (hp : p < l'.length.toNat) : r'.isValid p = r.isValid (j + p) :=
    right.isValid p (by omega)
  have cells := windowsAgree_within left.toWithin right.toWithin valid valid'
  have keys := windowsAgree_within left.keys right.keys
    (fun p hp => by rw [l'.alike_keys.isValid, l.alike_keys.isValid, valid p hp])
    fun p hp => by rw [r'.alike_keys.isValid, r.alike_keys.isValid, valid' p hp]
  rw [rangeAgrees, rangeAgrees, if_neg distinct, if_neg (mt And.left Bool.false_ne_true),
    left.type, right.type, width, Int.sub_zero, cells, keys]

end Windows

section Deciding

/-- A range that is the whole of two columns decides whether they are equal, if the dictionaries,
where there are any, are compared for equality. -/
lemma rangeAgrees_iff {dictionaries : Checked Bool} {b : Bool} (hl : l.Sound) (hr : r.Sound)
    (length : l.length = r.length)
    (compared : l.type.isDictionary = true → l.type = r.type → dictionaries = .ok b ∧
      ∀ d e, l.dictionary = some d → r.dictionary = some e → (b = true ↔ d.Equal e)) :
    ∃ a, rangeAgrees false l r 0 l.length 0 dictionaries = .ok a ∧ (a = true ↔ l.Equal r) := by
  obtain ⟨xs, left⟩ := hl.exists_reads
  obtain ⟨ys, right⟩ := hr.exists_reads
  by_cases typed : l.type = r.type
  · have as_many : xs.length = ys.length := by
      rw [left.length, right.length] at length
      exact Int.ofNat_inj.1 length
    refine ⟨_, rangeAgrees_eq typed left right as_many
      fun encoded => (compared encoded typed).1, ?_⟩
    rw [decide_eq_true_iff, equal_iff_of_reads hl hr typed left right
      fun encoded => (compared encoded typed).2]
  · refine ⟨false, ?_, iff_of_false Bool.false_ne_true fun equal => typed equal.type⟩
    rw [rangeAgrees, if_neg (mt And.left Bool.false_ne_true),
      if_pos (mt DataType.equals_iff.1 typed)]
    rfl

/-- The dictionaries of columns of a type are compared for equality, also if the columns are known
to be one. -/
lemma exists_dictionariesEqual (hl : l.DeeplySound) (hr : r.DeeplySound)
    (one : same = true → l = r) (encoded : l.type.isDictionary = true) (typed : l.type = r.type) :
    ∃ b, dictionariesEqual same l r = .ok b ∧
      ∀ d e, l.dictionary = some d → r.dictionary = some e → (b = true ↔ d.Equal e) := by
  obtain ⟨d, found, deep⟩ := hl.exists_dictionary encoded
  obtain ⟨e, found', deep'⟩ := hr.exists_dictionary (typed ▸ encoded)
  cases same with
  | false =>
    obtain ⟨b, compared, decides⟩ := deep.dictionariesEqual_eq deep' found found'
    refine ⟨b, compared, fun d' e' here here' => ?_⟩
    cases found.symm.trans here
    cases found'.symm.trans here'
    exact decides
  | true =>
    obtain rfl := one rfl
    obtain ⟨d', opened, -⟩ := deep.exists_opened
    refine ⟨true, ?_, fun d₁ d₂ here here' => ?_⟩
    · rw [dictionariesEqual, openDictionary, found]
      simp only [opened, Checked.ok_bind, equals_same]
    · cases found.symm.trans here
      cases found.symm.trans here'
      exact iff_of_true rfl (.refl deep)

/-- A range decides whether the windows of it are equal, if the columns are not known to be one or
it does not begin at one place. -/
lemma exists_rangeEquals (hl : l.DeeplySound) (hr : r.DeeplySound)
    (one : same = true → l = r) (distinct : ¬ (same = true ∧ (i : Int) = j))
    (left : l'.WindowOf l i) (right : r'.WindowOf r j) (sound : l'.Sound) (sound' : r'.Sound)
    (length : l'.length = r'.length) :
    ∃ a, rangeEquals same l r i (i + l'.length) j = .ok a ∧ (a = true ↔ l'.Equal r') := by
  rw [rangeEquals, rangeAgrees_window distinct left right length]
  by_cases both : l.type.isDictionary = true ∧ l.type = r.type
  · obtain ⟨b, compared, decides⟩ := exists_dictionariesEqual hl hr one both.1 both.2
    refine rangeAgrees_iff sound sound' length fun _ _ => ⟨compared, ?_⟩
    rw [left.dictionary, right.dictionary]
    exact decides
  · refine rangeAgrees_iff (b := false) sound sound' length
      fun encoded typed => absurd ⟨?_, ?_⟩ both
    · rw [← left.type]
      exact encoded
    · rw [← left.type, ← right.type, typed]

end Deciding

/-- A range of two columns compares as the slices of it do, also where the columns are known to be
one, where the range is empty and where they are dictionary columns. -/
theorem rangeEquals_slices (hl : l.DeeplySound) (hr : r.DeeplySound)
    (one : same = true → l = r) (lo : 0 ≤ start) (order : start ≤ stop) (hi : stop ≤ l.length)
    (lo' : 0 ≤ other) (hi' : other + (stop - start) ≤ r.length) :
    ∃ l' r' b, l.slice start (stop - start) = .ok l' ∧ r.slice other (stop - start) = .ok r' ∧
      rangeEquals same l r start stop other = .ok b ∧ equals false l' r' = .ok b := by
  obtain ⟨l', run⟩ := l.exists_slice start (stop - start) (by omega)
  obtain ⟨r', run'⟩ := r.exists_slice other (stop - start) (by omega)
  have deep := hl.slice lo (by omega) run
  have deep' := hr.slice lo' (by omega) run'
  obtain ⟨b, equal, decides⟩ := deep.equals_eq deep'
  refine ⟨l', r', b, run, run', ?_, equal⟩
  by_cases whole : same = true ∧ start = other
  · obtain ⟨rfl, rfl⟩ := whole
    obtain rfl := one rfl
    cases run.symm.trans run'
    rw [rangeEquals, rangeAgrees, if_pos ⟨rfl, rfl⟩, decides.2 (.refl deep)]
    rfl
  · have left := hl.sound.windowOf_of_slice lo (by omega) run
    have right := hr.sound.windowOf_of_slice lo' (by omega) run'
    have length := length_of_slice run
    have length' := length_of_slice run'
    obtain ⟨i, rfl⟩ := Int.eq_ofNat_of_zero_le lo
    obtain ⟨j, rfl⟩ := Int.eq_ofNat_of_zero_le lo'
    obtain rfl : stop = i + l'.length := by omega
    obtain ⟨a, compared, decides'⟩ := exists_rangeEquals hl hr one whole left right deep.sound
      deep'.sound (by omega)
    have same_answer : a = true ↔ b = true := by rw [decides, decides']
    rw [compared, Bool.eq_iff_iff.2 same_answer]

/-- Two ranges of a window over one dictionary column that repeat its slots, and two that do not. -/
theorem rangeEquals_slices_repeated :
    let values := laidOut .string [some (.bytes #[97]), some (.bytes #[98])] false none
    let type := DataType.dictionary (.int .w8) .string false
    let keys := ofInts (.int .w8) [some 0, some 1, none, some 0, some 1, none]
    let c := { encoded type keys values with offset := 1, length := 5, nullCount := -1 }
    c.DeeplySound ∧
      (∃ s t, c.slice 0 2 = .ok s ∧ c.slice 3 2 = .ok t ∧ rangeEquals true c c 0 2 3 = .ok true ∧
        equals false s t = .ok true) ∧
      ∃ s t, c.slice 0 2 = .ok s ∧ c.slice 2 2 = .ok t ∧ rangeEquals true c c 0 2 2 = .ok false ∧
        equals false s t = .ok false := by
  intro values type keys c
  have hv : values.DeeplySound := .intro (by decide +kernel) nofun
  have hc : c.DeeplySound := .intro (by decide +kernel) fun _ _ found => Option.some.inj found ▸ hv
  have repeats : rangeEquals true c c 0 2 3 = .ok true := by decide +kernel
  have differs : rangeEquals true c c 0 2 2 = .ok false := by decide +kernel
  obtain ⟨s, t, b, first, second, range, whole⟩ := @rangeEquals_slices c c 0 2 3 true hc hc
    (fun _ => rfl) (by decide) (by decide) (by decide) (by decide) (by decide)
  obtain ⟨s', t', b', first', second', range', whole'⟩ := @rangeEquals_slices c c 0 2 2 true hc hc
    (fun _ => rfl) (by decide) (by decide) (by decide) (by decide) (by decide)
  cases repeats.symm.trans range
  cases differs.symm.trans range'
  exact ⟨hc, ⟨s, t, first, second, repeats, whole⟩, s', t', first', second', differs, whole'⟩

end Columnar.Column
