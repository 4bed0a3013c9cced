import Mathlib.Tactic.Common
import Columnar.Column.Equality
import Columnar.Proofs.Column.Reads
import Columnar.Proofs.Column.WellFormed

/-!
# What equality of columns decides

Sound columns of one type are equal exactly when they have the same slots and, if they are
dictionary-encoded and not empty, equal dictionaries (`wholeAgrees_eq`). A column that is sound with
all its dictionaries therefore equals itself, and also what it is once it is opened
(`DeeplySound.equals_recount`).
-/

namespace Columnar

lemma DataType.equals_self (t : DataType) : t.equals t = true := by
  rw [equals, beq_self_eq_true, beq_self_eq_true]
  rfl

namespace Column
variable {c l r : Column} {i j : Int} {xs ys : List (Option Cell)} {s t : Option Cell}

section Agreeing

/-- Cells agree if they are the same. -/
lemma cellsAgree_eq {x y : Cell} (layout : l.type.layout = r.type.layout) (hl : l.cell i = .ok x)
    (hr : r.cell j = .ok y) : cellsAgree l r i j = .ok (decide (x = y)) := by
  have cells : ((do return (← l.cell i) == (← r.cell j)) : Checked Bool) =
      .ok (decide (x = y)) := by
    rw [hl, hr]
    rfl
  unfold cellsAgree
  cases e : l.type.layout with
  | strings w =>
    obtain ⟨-, b, -, length, -, rfl⟩ := string_of_cell e hl
    obtain ⟨-, b', -, length', -, rfl⟩ := string_of_cell (layout ▸ e) hr
    have lengths : lengthsAgree l r w i j = .ok ((b.size : Int) == b'.size) := by
      rw [lengthsAgree, length, length']
      rfl
    by_cases same : (b.size : Int) = b'.size
    · simp only [lengths, same, beq_self_eq_true, Checked.ok_bind, not_true_eq_false, if_false]
      exact cells
    · have differ : ¬ Cell.bytes b = Cell.bytes b' := by
        intro e
        cases e
        exact same rfl
      simp only [lengths, beq_eq_false_iff_ne.2 same, Checked.ok_bind, differ]
      rfl
  | _ => exact cells

/-- Slots agree if they are the same. -/
lemma slotsAgree_eq (layout : l.type.layout = r.type.layout) (hl : l.slot i = .ok s)
    (hr : r.slot j = .ok t) : slotsAgree l r i j = .ok (decide (s = t)) := by
  rw [slotsAgree, isValid_of_slot hl, isValid_of_slot hr]
  rcases slot_eq_ok.1 hl with ⟨-, rfl⟩ | ⟨x, -, cell, rfl⟩
  · cases t with
    | none => rfl
    | some y => rfl
  · rcases slot_eq_ok.1 hr with ⟨-, rfl⟩ | ⟨y, -, cell', rfl⟩
    · rfl
    · have same : decide (some x = some y) = decide (x = y) :=
        decide_eq_decide.2 Option.some_inj
      rw [same]
      exact cellsAgree_eq layout cell cell'

/-- Windows agree if they have the same slots. -/
lemma windowsAgree_eq (layout : l.type.layout = r.type.layout) (same : xs.length = ys.length)
    (hl : ∀ (p : Nat) s, xs[p]? = some s → l.slot (i + p) = .ok s)
    (hr : ∀ (p : Nat) s, ys[p]? = some s → r.slot (j + p) = .ok s) :
    windowsAgree l r i j xs.length = .ok (decide (xs = ys)) := by
  induction xs generalizing ys i j with
  | nil =>
    obtain rfl : ys = [] := List.length_eq_zero_iff.1 same.symm
    rfl
  | cons s xs ih =>
    obtain ⟨t, ys, rfl⟩ := List.exists_cons_of_length_eq_add_one same.symm
    have first := hl 0 s rfl
    have first' := hr 0 t rfl
    rw [Int.natCast_zero, Int.add_zero] at first first'
    rw [List.length_cons, windowsAgree, slotsAgree_eq layout first first']
    by_cases e : s = t
    · subst e
      rw [decide_eq_true rfl, Checked.ok_bind, if_pos rfl,
        ih (Nat.succ.inj same)
          (fun p u here => by
            rw [Int.add_assoc, Int.add_comm 1]
            exact hl (p + 1) u here)
          fun p u here => by
            rw [Int.add_assoc, Int.add_comm 1]
            exact hr (p + 1) u here]
      exact congrArg Except.ok (decide_eq_decide.2 (by rw [List.cons_inj_right]))
    · have differ : ¬ s :: xs = t :: ys := fun h => e (List.cons.inj h).1
      rw [decide_eq_false e, decide_eq_false differ]
      rfl

lemma windowsAgree_whole (layout : l.type.layout = r.type.layout) (left : l.Reads xs)
    (right : r.Reads ys) (same : xs.length = ys.length) :
    windowsAgree l r 0 0 xs.length = .ok (decide (xs = ys)) := by
  refine windowsAgree_eq layout same (fun p s here => ?_) fun p s here => ?_
  · rw [Int.zero_add]
    exact left.slot p s here
  · rw [Int.zero_add]
    exact right.slot p s here

/-- Ranges that are whole columns of a type agree if they have the same slots, and dictionaries that
agree unless there are no slots. -/
lemma rangeAgrees_eq {dictionaries : Checked Bool} {b : Bool} (typed : l.type = r.type)
    (left : l.Reads xs) (right : r.Reads ys) (same : xs.length = ys.length)
    (compared : l.type.isDictionary = true → dictionaries = .ok b) :
    rangeAgrees false l r 0 l.length 0 dictionaries =
      .ok (decide (xs = ys ∧ (l.type.isDictionary = true → xs ≠ [] → b = true))) := by
  have layout : l.type.layout = r.type.layout := by rw [typed]
  have width : (l.length - 0).toNat = xs.length := by
    rw [left.length, Int.sub_zero]
    rfl
  rw [rangeAgrees, if_neg nofun, if_neg (by rw [typed, DataType.equals_self]; nofun)]
  by_cases empty : xs = []
  · subst empty
    obtain rfl : ys = [] := List.length_eq_zero_iff.1 same.symm
    rw [if_pos (by rw [left.length]; rfl)]
    exact congrArg Except.ok (decide_eq_true ⟨rfl, fun _ h => absurd rfl h⟩).symm
  · have some : ¬ l.length - 0 = 0 := by
      have pos := List.length_pos_iff.2 empty
      rw [left.length]
      omega
    rw [if_neg some]
    cases type : l.type with
    | null =>
      have all : xs = ys := by rw [left.of_null type, right.of_null (typed ▸ type), same]
      exact congrArg Except.ok (decide_eq_true ⟨all, nofun⟩).symm
    | dictionary k value ordered =>
      have keys := l.alike_keys
      have keys' := r.alike_keys
      have windows := windowsAgree_whole (keys.layout.trans (layout.trans keys'.layout.symm))
        (left.of_alike keys) (right.of_alike keys') same
      simp only [compared (by rw [type]; rfl), Checked.ok_bind, width, windows]
      cases b with
      | false => exact congrArg Except.ok (decide_eq_false fun h => nomatch h.2 rfl empty).symm
      | true =>
        exact congrArg Except.ok (decide_eq_decide.2 ⟨fun h => ⟨h, fun _ _ => rfl⟩, And.left⟩)
    | _ =>
      simp only [width, windowsAgree_whole layout left right same]
      exact congrArg Except.ok (decide_eq_decide.2 ⟨fun h => ⟨h, nofun⟩, And.left⟩)

/-- Whole columns of a type agree if they have the same slots, and dictionaries that agree unless
there are no slots. -/
lemma wholeAgrees_eq {dictionaries : Checked Bool} {b : Bool} (hl : l.Sound) (hr : r.Sound)
    (typed : l.type = r.type) (left : l.Reads xs) (right : r.Reads ys)
    (compared : l.type.isDictionary = true → dictionaries = .ok b) :
    wholeAgrees false l r dictionaries =
      .ok (decide (xs = ys ∧ (l.type.isDictionary = true → xs ≠ [] → b = true))) := by
  have nulls : l.countNulls = .ok (xs.countP Option.isNone : Nat) := by
    rw [hl.countNulls_eq, left.nullSlots]
  have nulls' : r.countNulls = .ok (ys.countP Option.isNone : Nat) := by
    rw [hr.countNulls_eq, right.nullSlots]
  have differ : xs ≠ ys → (.ok false : Checked Bool) =
      .ok (decide (xs = ys ∧ (l.type.isDictionary = true → xs ≠ [] → b = true))) :=
    fun ne => congrArg Except.ok (decide_eq_false fun h => ne h.1).symm
  rw [wholeAgrees, if_neg nofun, nulls, nulls']
  by_cases length : l.length = r.length
  · rw [if_neg (not_not.2 length)]
    have same : xs.length = ys.length := by
      rw [left.length, right.length] at length
      exact Int.ofNat_inj.1 length
    by_cases count : xs.countP Option.isNone = ys.countP Option.isNone
    · simp only [Checked.ok_bind, count, ne_eq, not_true_eq_false, if_false]
      exact rangeAgrees_eq typed left right same compared
    · simp only [Checked.ok_bind, ne_eq, Int.ofNat_inj, count, not_false_eq_true, if_true]
      exact differ fun e => count (by rw [e])
  · rw [if_pos length]
    exact differ fun e => length (by rw [left.length, right.length, e])

end Agreeing

section Whole

/-- A column that is sound with all its dictionaries. -/
inductive DeeplySound : Column → Prop
  | intro {c : Column} (sound : c.Sound)
    (dictionary : c.type.isDictionary = true → ∀ d, c.dictionary = some d → DeeplySound d) :
    DeeplySound c

lemma WellFormed.deeplySound (h : c.WellFormed) : c.DeeplySound := by
  induction h with
  | plain sound plain => exact .intro sound fun dictionary => nomatch plain.symm.trans dictionary
  | encoded sound _ found _ _ ih =>
    refine .intro sound fun _ d here => ?_
    cases found.symm.trans here
    exact ih

/-- Sound columns of a type with the same slots and the same dictionary are equal, if the dictionary
equals itself once it is opened. -/
lemma equals_of_opened {same : Bool} (hl : l.Sound) (hr : r.Sound) (typed : l.type = r.type)
    (left : l.Reads xs) (right : r.Reads xs)
    (dictionary : l.type.isDictionary = true → ∃ d e, l.dictionary = some d ∧
      r.dictionary = some d ∧ d.opened = .ok e ∧ equals same d e = .ok true) :
    equals same l r = .ok true := by
  have agree {dictionaries : Checked Bool}
      (compared : l.type.isDictionary = true → dictionaries = .ok true) :
      wholeAgrees same l r dictionaries = .ok true := by
    cases same with
    | true => rfl
    | false =>
      rw [wholeAgrees_eq hl hr typed left right compared]
      exact congrArg Except.ok (decide_eq_true ⟨rfl, fun _ _ => rfl⟩)
  obtain ⟨t, n, o, k, bs, found⟩ := l
  cases found with
  | none =>
    rw [equals]
    refine agree fun encoded => ?_
    obtain ⟨d, e, found, -⟩ := dictionary encoded
    cases found
  | some d =>
    rw [equals]
    refine agree fun encoded => ?_
    obtain ⟨d', e, found, shared, opened, equal⟩ := dictionary encoded
    cases found
    rw [openDictionary, shared]
    simp only [opened, Checked.ok_bind]
    exact equal

/-- A null count that is as good as the one that is stored keeps a column sound. -/
lemma Sound.recount {n : Int} (h : c.Sound) (right : c.Admits n) :
    Sound { c with nullCount := n } := by
  have part : Within { c with nullCount := n } c 0 :=
    within_of_window rfl rfl rfl rfl h.shaped.length_nonneg
  exact .of_shaped (part.shaped h.shaped h.shaped.validateDictionary)
    (right.counted part rfl rfl)

/-- A null count that may be stored makes no difference to the slots. -/
lemma Sound.reads_recount {n : Int} (h : c.Sound) (right : c.Admits n) (reads : c.Reads xs) :
    Reads { c with nullCount := n } xs := by
  have part : Within { c with nullCount := n } c 0 :=
    within_of_window rfl rfl rfl rfl h.shaped.length_nonneg
  refine ⟨reads.length, fun p s here => ?_⟩
  have read := reads.slot p s here
  by_cases null : c.type = .null
  · rw [slot_of_null (c := { c with nullCount := n }) null, ← slot_of_null null p]
    exact read
  · have hp : (p : Int) < c.length := by
      obtain ⟨lt, -⟩ := List.getElem?_eq_some_iff.1 here
      rw [reads.length]
      exact Int.ofNat_lt.2 lt
    have valid : Column.isValid { c with nullCount := n } p = c.isValid p := by
      rw [part.isValid h (h.recount right) null hp, Int.natCast_zero, Int.zero_add]
    rw [← read, Column.slot, Column.slot, valid]
    rfl

namespace DeeplySound

lemma sound (h : c.DeeplySound) : c.Sound := by
  cases h with
  | intro sound => exact sound

lemma dictionary {d : Column} (h : c.DeeplySound) (encoded : c.type.isDictionary = true)
    (found : c.dictionary = some d) : d.DeeplySound := by
  cases h with
  | intro _ dictionaries => exact dictionaries encoded d found

lemma exists_dictionary (h : c.DeeplySound) (encoded : c.type.isDictionary = true) :
    ∃ d, c.dictionary = some d ∧ d.DeeplySound := by
  obtain ⟨d, found⟩ := Option.isSome_iff_exists.1 (h.sound.encoded encoded)
  exact ⟨d, found, h.dictionary encoded found⟩

/-- A column that is sound with all its dictionaries equals itself, whichever null count it
stores. -/
lemma equals_recount {same : Bool} {n : Int} (h : c.DeeplySound) (right : c.Admits n) :
    equals same c { c with nullCount := n } = .ok true := by
  induction h generalizing n with
  | @intro c sound dictionaries ih =>
    obtain ⟨xs, reads⟩ := sound.exists_reads
    refine equals_of_opened sound (sound.recount right) rfl reads
      (sound.reads_recount right reads) fun encoded => ?_
    obtain ⟨d, found⟩ := Option.isSome_iff_exists.1 (sound.encoded encoded)
    have deep := dictionaries encoded d found
    exact ⟨d, _, found, found, opened_eq deep.sound.encoded,
      ih encoded d found deep.sound.admits_storedCount⟩

lemma equals_self {same : Bool} (h : c.DeeplySound) : equals same c c = .ok true := by
  obtain ⟨t, n, o, k, bs, d⟩ := c
  exact h.equals_recount h.sound.admits_nullCount

end DeeplySound

/-- Sound columns of a type with the same slots and the same dictionary are equal. -/
lemma equals_of_reads {same : Bool} (hl : l.Sound) (hr : r.DeeplySound) (typed : l.type = r.type)
    (left : l.Reads xs) (right : r.Reads xs)
    (shared : r.type.isDictionary = true → l.dictionary = r.dictionary) :
    equals same l r = .ok true := by
  refine equals_of_opened hl hr.sound typed left right fun encoded => ?_
  rw [typed] at encoded
  obtain ⟨d, found, deep⟩ := hr.exists_dictionary encoded
  exact ⟨d, _, (shared encoded).trans found, found, opened_eq deep.sound.encoded,
    deep.equals_recount deep.sound.admits_storedCount⟩

end Whole

end Column

end Columnar
