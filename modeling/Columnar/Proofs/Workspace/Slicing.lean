import Mathlib.Tactic.Common
import Columnar.Proofs.Column.Wrapped
import Columnar.Proofs.Workspace.Gathering
import Columnar.Proofs.Workspace.Runs

/-!
# Slices in workspaces

A slice in a workspace is a view of a new record, which refers to the very buffers and the very
dictionary of the record that it is cut out of (`Session.exists_run_slice`). Together with what a
slice reads this is all that slicing does, once or again (`Column.slice_window`).
-/

namespace Columnar.Session
open Workspace
variable {w : Workspace} {id r v i : Nat} {window s : Column} {offset length : Int}

section Slicing

/-- A window of a record is opened if it could be a column. -/
lemma exists_run_openWindow (linked : w.Linked) (hid : id < w.records.size)
    (same : window = { w.column id with
      length := window.length, offset := window.offset, nullCount := window.nullCount })
    (encoded : window.type.isDictionary = true → window.dictionary.isSome = true) :
    ∃ v w', (openWindow id window).run w = (.ok v, w') := by
  obtain ⟨-, column⟩ := column_window linked.furnished hid same
  refine exists_run_openRecord (c := window.withNullCount window.storedCount) ?_
  exact column.symm ▸ Column.opened_eq encoded

/-- The view of a window has a new record, which keeps the buffers and the dictionary. -/
lemma keeps_grown_openWindow :
    Keeps (·.Grows w) (openWindow id window) w fun v w' => v < w'.views.size ∧
      ((w'.record (w'.view v).record).buffers = (w.record id).buffers ∧
        (w'.record (w'.view v).record).dictionary = (w.record id).dictionary) := by
  refine .look ((keeps_grown_addRecord _ (.refl w)).bind fun _ w₁ h₁ => ?_)
  rintro ⟨rfl, rfl⟩
  refine (keeps_grown_openRecord h₁ (Nat.le_refl _) ?_).weaken fun v w' _ => ?_
  · rw [size_withRecord]
    exact Nat.lt_succ_self _
  · rintro ⟨inside, record, n, same⟩
    rw [record, same, record_withRecord, if_pos rfl]
    exact ⟨inside, rfl, rfl⟩

/-- A window that can be cut out of the column in a register is opened over its record. -/
lemma run_cut (cut : Column → Checked Column) (held : w.registers[r]? = some (some v))
    (made : cut (w.columnOf v) = .ok s) :
    (do
      let c ← columnIn r
      openWindow (← recordIn r) (← cut c) : Session Nat).run w =
        (openWindow (w.view v).record s).run w := by
  rw [run_bind (run_columnIn held), run_bind (run_recordIn held), run_check made]

/-- A window that cannot be cut out of the column in a register leaves everything as it is. -/
lemma run_cut_error (cut : Column → Checked Column) {e : Fault}
    (held : w.registers[r]? = some (some v)) (failed : cut (w.columnOf v) = .error e) :
    (do
      let c ← columnIn r
      openWindow (← recordIn r) (← cut c) : Session Nat).run w = (.error e, w) := by
  rw [run_bind (run_columnIn held), run_bind (run_recordIn held), failed]
  rfl

/-- A slice is made in a new register, and shares the buffers and the dictionary of its column. -/
lemma exists_run_slice (linked : w.Linked) (held : w.registers[r]? = some (some v))
    (sliced : (w.columnOf v).slice offset length = .ok s)
    (encoded : (w.columnOf v).type.isDictionary = true → (w.columnOf v).dictionary.isSome = true) :
    ∃ x u w', (Session.slice r offset length).run w = (.ok x, w') ∧
      w'.registers[r]? = some (some v) ∧ w'.registers[x]? = some (some u) ∧
      (w'.record (w'.view u).record).buffers = (w'.record (w'.view v).record).buffers ∧
      (w'.record (w'.view u).record).dictionary = (w'.record (w'.view v).record).dictionary := by
  have hv := linked.registers r v held
  have hid := linked.record v hv
  have shape := Column.eq_of_slice sliced
  obtain ⟨u, w₁, run⟩ := exists_run_openWindow linked hid shape (by rw [shape]; exact encoded)
  obtain ⟨grown, -, buffers, dictionary⟩ := keeps_grown_openWindow.of_run run
  have body := (run_cut (·.slice offset length) held sliced).trans run
  have pushed := grown.withRegister (some u)
  have there := (Array.getElem?_eq_some_iff.1 held).1
  refine ⟨_, u, _, run_produce body, (pushed.register r there).trans held,
    Array.getElem?_push_size, ?_, ?_⟩
  · rw [pushed.view v hv, pushed.record _ hid]
    exact buffers
  · rw [pushed.view v hv, pushed.record _ hid]
    exact dictionary

lemma run_shared_slice (linked : w.Linked) (held : w.registers[r]? = some (some v))
    (sliced : (w.columnOf v).slice offset length = .ok s)
    (encoded : (w.columnOf v).type.isDictionary = true → (w.columnOf v).dictionary.isSome = true) :
    ((do
      let x ← Session.slice r offset length
      return (← sameBuffer r x i, ← sameDictionary r x) : Session (Bool × Bool)).run w).1 =
        .ok (true, true) := by
  obtain ⟨x, u, w', run, hr, hx, buffers, dictionary⟩ := exists_run_slice linked held sliced encoded
  have same : (sameBuffer r x i).run w' = (.ok true, w') := by
    rw [sameBuffer, run_bind (run_recordIn hr), run_bind (run_recordIn hx)]
    change (Except.ok (((w'.record (w'.view v).record).buffers[i]?).join ==
      ((w'.record (w'.view u).record).buffers[i]?).join), w') = _
    rw [buffers, beq_self_eq_true]
  have same' : (sameDictionary r x).run w' = (.ok true, w') := by
    rw [sameDictionary, run_bind (run_recordIn hr), run_bind (run_recordIn hx)]
    change (Except.ok ((w'.record (w'.view v).record).dictionary ==
      (w'.record (w'.view u).record).dictionary), w') = _
    rw [dictionary, beq_self_eq_true]
  rw [run_bind run, run_bind same, run_bind same']
  rfl

end Slicing

end Columnar.Session

namespace Columnar.Column
variable {c c₁ c₂ s s' : Column} {offset length offset' length' : Int}

section Composing

/-- A slice of a slice has the window of the column that the sum of both offsets names, however far
the sum goes. What is known of the nulls of the column and of the slice makes no difference to that,
and to the nulls that are counted. -/
lemma exists_slice_slice (first : c.Fills c₁) (other : c.Fills c₂) (second : s.Fills s')
    (lo : 0 ≤ offset) (hi : offset ≤ c.length) (nonneg : 0 ≤ length)
    (sliced : c₁.slice offset length = .ok s) (lo' : 0 ≤ offset') (hi' : offset' ≤ s.length)
    (nonneg' : 0 ≤ length') :
    ∃ t u, s'.slice offset' length' = .ok t ∧
      c₂.slice (offset + offset') (min length' (min length (c.length - offset) - offset')) =
        .ok u ∧
      t.type = u.type ∧ t.offset = u.offset ∧ t.length = u.length ∧ t.buffers = u.buffers ∧
      t.dictionary = u.dictionary ∧
      (c.Sliceable → t.Sliceable ∧ u.Sliceable ∧ t.nullSlots = u.nullSlots) := by
  obtain ⟨whole₁, same₁⟩ := first.partOf (by omega)
  obtain ⟨whole₂, same₂⟩ := other.partOf (by omega)
  have width := length_of_slice sliced
  obtain ⟨kept, same'⟩ := second.partOf (by omega)
  have left : 0 ≤ min length' (min length (c.length - offset) - offset') := by omega
  obtain ⟨t, ht⟩ := exists_slice s' offset' length' (by omega)
  obtain ⟨u, hu⟩ := exists_slice c₂ (offset + offset')
    (min length' (min length (c.length - offset) - offset')) (by omega)
  have widthT := length_of_slice ht
  have widthU := length_of_slice hu
  have total : t.length = u.length := by omega
  refine ⟨t, u, ht, hu, ?_, ?_, total, ?_, ?_, fun sliceable => ?_⟩
  · rw [type_of_slice ht, type_of_slice hu, kept.type, type_of_slice sliced, whole₁.type,
      whole₂.type]
  · rw [offset_of_slice ht, offset_of_slice hu, kept.offset, offset_of_slice sliced, whole₁.offset,
      whole₂.offset]
    simp only [Int.natCast_zero, Int.add_zero]
    rw [IntKind.wrap_wrap_add, Int.add_assoc]
  · rw [buffers_of_slice ht, buffers_of_slice hu, kept.buffers, buffers_of_slice sliced,
      whole₁.buffers, whole₂.buffers]
  · rw [dictionary_of_slice ht, dictionary_of_slice hu, kept.dictionary, dictionary_of_slice sliced,
      whole₁.dictionary, whole₂.dictionary]
  · obtain ⟨known₁, shows₁⟩ := sliceable.fills first
    obtain ⟨known₂, shows₂⟩ := sliceable.fills other
    obtain ⟨known, shows⟩ := known₁.slice lo nonneg sliced
    obtain ⟨known', shows'⟩ := known.fills second
    obtain ⟨knownT, showsT⟩ := known'.slice lo' nonneg' ht
    obtain ⟨knownU, showsU⟩ := known₂.slice (by omega) left hu
    have through := showsT.trans (shows'.trans (shows.trans shows₁))
    have other := showsU.trans shows₂
    rw [Nat.zero_add, Nat.add_zero] at through
    rw [Nat.zero_add, Int.toNat_add lo lo'] at other
    exact ⟨knownT, knownU, through.nullSlots_eq other total⟩

end Composing

/-- What a slice is. It is as long as it can be of the length that is asked for, shares type,
buffers and dictionary, has the slots of its column from the offset on and knows no wrong null
count. Slicing twice comes to the same as slicing once, also when null counts are stored in between.
In a workspace the buffers and the dictionary are the very same ones. The column can be any that a
machine holds: where the sum of the offsets is not a word it wraps. -/
theorem slice_window (held : c.Addressable) (counted : c.Counted) (lo : 0 ≤ offset)
    (hi : offset ≤ c.length) (nonneg : 0 ≤ length) :
    (∃ s, c.slice offset length = .ok s ∧ s.length = min length (c.length - offset) ∧
      s.type = c.type ∧ s.buffers = c.buffers ∧ s.dictionary = c.dictionary ∧
      (∀ i : Nat, i < s.length →
        s.isValid i = c.isValid (offset + i) ∧ s.value i = c.value (offset + i)) ∧
      s.Counted ∧ (c.Countable → s.countNulls = .ok s.nullSlots)) ∧
    (∀ c₁ c₂ s s' offset' length', c.Fills c₁ → c.Fills c₂ → s.Fills s' →
      c₁.slice offset length = .ok s → 0 ≤ offset' → offset' ≤ s.length → 0 ≤ length' →
      ∃ t u, s'.slice offset' length' = .ok t ∧
        c₂.slice (offset + offset') (min length' (min length (c.length - offset) - offset')) =
          .ok u ∧
        t.type = u.type ∧ t.offset = u.offset ∧ t.length = u.length ∧ t.buffers = u.buffers ∧
        t.dictionary = u.dictionary ∧
        (c.Countable → t.countNulls = .ok t.nullSlots ∧ u.countNulls = .ok t.nullSlots)) ∧
    ∀ (w : Workspace) (r v i : Nat), w.Linked → w.registers[r]? = some (some v) →
      w.columnOf v = c → (c.type.isDictionary = true → c.dictionary.isSome = true) →
      ((do
        let x ← Session.slice r offset length
        return (← Session.sameBuffer r x i, ← Session.sameDictionary r x) :
          Session (Bool × Bool)).run w).1 = .ok (true, true) := by
  obtain ⟨s, sliced⟩ := exists_slice c offset length hi
  have sliceable (countable : c.Countable) : c.Sliceable :=
    ⟨Int.le_trans lo hi, held, counted, countable⟩
  refine ⟨⟨s, sliced, ?_⟩, ?_, ?_⟩
  · have shows := held.shows_slice counted lo nonneg sliced
    have place := Int.toNat_of_nonneg lo
    refine ⟨length_of_slice sliced, type_of_slice sliced, buffers_of_slice sliced,
      dictionary_of_slice sliced, fun i hi' => ⟨place ▸ shows.isValid i hi', ?_⟩, shows.counted,
      fun countable => ((sliceable countable).slice lo nonneg sliced).1.countNulls_eq⟩
    rw [(held.slot_of_slice lo sliced hi').2, (partOf_window c lo hi nonneg).value, place]
  · intro c₁ c₂ s s' offset' length' first other second sliced lo' hi' nonneg'
    obtain ⟨t, u, ht, hu, type, start, same, buffers, dictionary, known⟩ :=
      exists_slice_slice first other second lo hi nonneg sliced lo' hi' nonneg'
    refine ⟨t, u, ht, hu, type, start, same, buffers, dictionary, fun countable => ?_⟩
    obtain ⟨knownT, knownU, nulls⟩ := known (sliceable countable)
    exact ⟨knownT.countNulls_eq, nulls ▸ knownU.countNulls_eq⟩
  · intro w r v i linked held column encoded
    exact Session.run_shared_slice linked held (column ▸ sliced) (column ▸ encoded)

/-- A window over a bitmap, whose nulls are counted before it is sliced again, against the same
window of the column with its nulls counted; and a register with the column, sliced. -/
theorem slice_window_filled :
    let c : Column := ⟨.int (.int .w8), 6, 1, -1,
      [some (.ofBytes #[0b1011010]), some (.ofBytes #[9, 0, 1, 2, 3, 4, 5])], none⟩
    let w := ((Session.addInput c).run { pool := ⟨[], .generous, true, {}, fun _ => 0⟩ }).2
    c.Addressable ∧ c.Counted ∧ c.Countable ∧ w.Linked ∧
      (∃ s, c.slice 1 4 = .ok s ∧ s.length = 4 ∧ s.countNulls = .ok s.nullSlots ∧
        s.isValid 1 = .ok true ∧ s.value 1 = .ok (.int 2)) ∧
      (∃ s t u, c.slice 1 4 = .ok s ∧ (s.withNullCount 2).slice 2 7 = .ok t ∧
        (c.withNullCount 2).slice 3 2 = .ok u ∧ t.offset = u.offset ∧ t.length = u.length ∧
        t.countNulls = .ok t.nullSlots ∧ u.countNulls = .ok t.nullSlots) ∧
      ((do
        let x ← Session.slice 0 1 4
        return (← Session.sameBuffer 0 x 1, ← Session.sameDictionary 0 x) :
          Session (Bool × Bool)).run w).1 = .ok (true, true) := by
  intro c w
  have sound : c.Sound := by decide +kernel
  have linked : w.Linked :=
    (keeps_addInput (Workspace.wellFormed_empty _) (.plain sound rfl)).1.linked
  have held : w.registers[0]? = some (some 0) := by decide +kernel
  have column : w.columnOf 0 = c := by decide +kernel
  have lo : (0 : Int) ≤ 1 := by decide
  have hi : 1 ≤ c.length := by decide
  have nonneg : (0 : Int) ≤ 4 := by decide
  have addressable : c.Addressable := ⟨by decide, by decide, by decide +kernel⟩
  obtain ⟨⟨s, sliced, length, -, -, -, slots, -, nulls⟩, again, shared⟩ :=
    slice_window addressable (.inl rfl) lo hi nonneg
  obtain ⟨valid, value⟩ := slots 1 (by rw [length]; decide)
  have few : s.countNulls = .ok 2 := by
    cases sliced
    decide +kernel
  obtain ⟨t, u, ht, hu, -, offset, same, -, -, count⟩ := again c _ s _ 2 7 .kept
    (.filled (n := 2) (by decide +kernel)) (.filled few) sliced (by decide)
    (by rw [length]; decide) (by decide)
  obtain ⟨left, right⟩ := count sound.countable
  refine ⟨addressable, .inl rfl, sound.countable, linked,
    ⟨s, sliced, length, nulls sound.countable, ?_, ?_⟩,
    ⟨s, t, u, sliced, ht, hu, offset, same, left, right⟩, shared w 0 0 1 linked held column
      fun encoded => absurd encoded (by decide)⟩
  · exact valid.trans (by decide +kernel)
  · exact value.trans (by decide +kernel)

end Columnar.Column
