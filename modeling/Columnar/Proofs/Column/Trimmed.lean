import Mathlib.Tactic.Common
import Columnar.Column.Value
import Columnar.Proofs.Column.Sound
import Columnar.Proofs.Memory.Trimmed

/-!
# Columns without padding

`Column.trimmed` is a column whose buffers end where their meaningful bytes do. Validation comes to
the same with and without padding, whatever the column is, and never goes astray. What it lets
through is read without padding too (`validate_safe`).
-/

namespace Columnar.Column
variable {c : Column}

/-- The column with the meaningful bytes of its buffers only. -/
def trimmed (c : Column) : Column :=
  { c with buffers := c.buffers.map (Option.map Buffer.trimmed) }

section Reading

lemma buffer?_trimmed (c : Column) (i : Nat) :
    c.trimmed.buffer? i = (c.buffer? i).map Buffer.trimmed := by
  change ((c.buffers.map (Option.map Buffer.trimmed))[i]?).join = _
  rw [List.getElem?_map, buffer?]
  cases c.buffers[i]? with
  | none => rfl
  | some b => rfl

lemma bitmap?_trimmed (c : Column) : c.trimmed.bitmap? = c.bitmap?.map Buffer.trimmed := by
  by_cases null : c.type = .null
  · have typed : c.trimmed.type = .null := null
    rw [bitmap?, bitmap?, null, typed]
    rfl
  · rw [bitmap?_eq c null, bitmap?_eq c.trimmed null, buffer?_trimmed]

lemma begins_memory (c : Column) (i : Nat) : (c.trimmed.memory i).Begins (c.memory i) := by
  rw [memory, memory, buffer?_trimmed]
  cases c.buffer? i with
  | none => exact ⟨#[], rfl⟩
  | some b => exact b.begins_trimmed

lemma storedCount_trimmed (c : Column) : c.trimmed.storedCount = c.storedCount := rfl

lemma isValid_trimmed (c : Column) (i : Int) :
    (c.trimmed.isValid i).Shadows (c.isValid i) := by
  unfold isValid
  rw [bitmap?_trimmed]
  cases c.bitmap? with
  | none => exact .refl _
  | some b => exact b.begins_trimmed.getBit _

lemma stringOffset_trimmed (c : Column) (w : Width) (i : Int) :
    (c.trimmed.stringOffset w i).Shadows (c.stringOffset w i) := by
  unfold stringOffset
  rw [buffer?_trimmed]
  cases c.buffer? 1 with
  | none => exact .refl _
  | some b => exact b.begins_trimmed.integer _ _

lemma integer_trimmed (c : Column) (k : IntKind) (i : Int) :
    (c.trimmed.integer k i).Shadows (c.integer k i) := by
  unfold integer
  rw [buffer?_trimmed]
  cases c.buffer? 1 with
  | none => exact .refl _
  | some b => exact b.begins_trimmed.integer _ _

lemma stringLength_trimmed (c : Column) (w : Width) (i : Int) :
    (c.trimmed.stringLength w i).Shadows (c.stringLength w i) :=
  (c.stringOffset_trimmed w i).bind fun _ => (c.stringOffset_trimmed w (i + 1)).bind fun _ =>
    .refl _

lemma cell_trimmed (c : Column) (i : Int) : (c.trimmed.cell i).Shadows (c.cell i) := by
  have typed : c.trimmed.type = c.type := rfl
  unfold cell
  rw [typed]
  cases c.type.layout with
  | empty => exact .refl _
  | bits => exact ((c.begins_memory 1).getBit _).bind fun _ => .refl _
  | fixed w => exact ((c.begins_memory 1).span _ _).bind fun _ => .refl _
  | strings w =>
    refine (c.stringOffset_trimmed w i).bind fun start =>
      (c.stringLength_trimmed w i).bind fun length => .ite (.refl _) ?_
    exact ((c.begins_memory 2).span _ _).bind fun _ => .refl _

lemma value_trimmed (c : Column) (i : Int) : (c.trimmed.value i).Shadows (c.value i) := by
  have typed : c.trimmed.type = c.type := rfl
  unfold value key
  rw [typed]
  cases c.type with
  | dictionary k v o =>
    exact ((c.integer_trimmed k i).bind fun _ => .refl _).bind fun _ => .refl _
  | _ => exact (c.cell_trimmed i).bind fun _ => .refl _

lemma countNulls_trimmed (c : Column) : c.trimmed.countNulls.Shadows c.countNulls := by
  unfold countNulls
  rw [buffer?_trimmed, storedCount_trimmed]
  refine .ite (.refl _) ?_
  cases c.buffer? 0 with
  | none => exact .refl _
  | some b => exact (b.begins_trimmed.countSetBits _ _).bind fun _ => .refl _

end Reading

section Validating

lemma validateWindow_trimmed (c : Column) : c.trimmed.validateWindow = c.validateWindow := by
  have empty : c.trimmed.buffers.isEmpty = c.buffers.isEmpty := List.isEmpty_map
  unfold validateWindow
  rw [empty, buffer?_trimmed]
  cases c.buffer? 0 with
  | none => rfl
  | some b =>
    simp only [Option.map_some, Buffer.size_trimmed]
    rfl

lemma validateNulls_trimmed (c : Column) : c.trimmed.validateNulls.Shadows c.validateNulls := by
  have absent : (c.trimmed.buffer? 0).isNone = (c.buffer? 0).isNone := by
    rw [buffer?_trimmed, Option.isNone_map]
  unfold validateNulls
  rw [absent]
  exact c.countNulls_trimmed.bind fun _ => .refl _

lemma validateBufferCount_trimmed (c : Column) (n : Nat) :
    c.trimmed.validateBufferCount n = c.validateBufferCount n := by
  have length : c.trimmed.buffers.length = c.buffers.length := List.length_map _
  unfold validateBufferCount
  rw [length]
  rfl

lemma validateValues_trimmed (c : Column) (size : Int) :
    c.trimmed.validateValues size = c.validateValues size := by
  unfold validateValues
  rw [buffer?_trimmed]
  cases c.buffer? 1 with
  | none => rfl
  | some b =>
    simp only [Option.map_some, Buffer.size_trimmed]
    rfl

lemma validateStrings_trimmed (c : Column) (w : Width) :
    (c.trimmed.validateStrings w).Shadows (c.validateStrings w) := by
  have size : ((c.trimmed.buffer? 2).map Buffer.size).getD 0 =
      ((c.buffer? 2).map Buffer.size).getD 0 := by
    rw [buffer?_trimmed, Option.map_map]
    cases c.buffer? 2 with
    | none => rfl
    | some b => exact b.size_trimmed
  unfold validateStrings
  rw [validateBufferCount_trimmed, buffer?_trimmed, size]
  refine .bind (.refl _) fun _ => ?_
  cases c.buffer? 1 with
  | none => exact .refl _
  | some b =>
    simp only [Option.map_some, Buffer.size_trimmed]
    refine .ite (.refl _) ?_
    exact (c.stringOffset_trimmed w 0).bind fun _ =>
      (c.stringOffset_trimmed w c.length).bind fun _ => .refl _

lemma validateLayout_trimmed (c : Column) :
    c.trimmed.validateLayout.Shadows c.validateLayout := by
  have typed : c.trimmed.type = c.type := rfl
  have stop : c.trimmed.stop = c.stop := rfl
  have dictionary : c.trimmed.validateDictionary = c.validateDictionary := rfl
  have length : c.trimmed.buffers.length = c.buffers.length := List.length_map _
  unfold validateLayout
  rw [typed, stop, dictionary]
  simp only [validateBufferCount_trimmed, validateValues_trimmed]
  cases c.type.layout with
  | empty =>
    unfold validateNullColumn
    rw [length]
    refine .ite (.refl _) ?_
    exact c.countNulls_trimmed.bind fun _ => .refl _
  | bits => exact .refl _
  | fixed w => exact .refl _
  | strings w => exact c.validateStrings_trimmed w

/-- Validation without padding goes astray or comes to the same. -/
lemma validate_trimmed (c : Column) : c.trimmed.validate.Shadows c.validate := by
  unfold validate
  rw [validateWindow_trimmed]
  exact .bind (.refl _) fun _ => c.validateNulls_trimmed.bind fun _ => c.validateLayout_trimmed

end Validating

/-- Whether a check passes or reports a defect, and nothing else. -/
def Judges (x : Checked Unit) : Prop := x = .ok () ∨ ∃ d, x = .error (.defect d)

namespace Judges
variable {x y : Checked Unit}

lemma ok : Judges (.ok ()) := .inl rfl

lemma bind (h : Judges x) (rest : x = .ok () → Judges y) : Judges (x >>= fun _ => y) := by
  rcases h with rfl | ⟨d, rfl⟩
  · exact rest rfl
  · exact .inr ⟨d, rfl⟩

lemma guard {p : Prop} [Decidable p] {d : Defect} (rest : ¬ p → Judges x) :
    Judges (if p then .error (.defect d) else x) := by
  split
  · exact .inr ⟨d, rfl⟩
  · next h => exact rest h

end Judges

/-- A window that begins and ends at machine words, with room for what is made of them. -/
def Small (c : Column) : Prop := (c.offset.natAbs + c.length.natAbs + 1) * 16 < 2 ^ 63

section Judging

lemma Small.exists_window (small : c.Small) (length : 0 ≤ c.length) (offset : 0 ≤ c.offset) :
    ∃ o n : Nat, c.offset = o ∧ c.length = n ∧ (o + n + 1) * 16 < 2 ^ 63 := by
  unfold Small at small
  exact ⟨_, _, (Int.natAbs_of_nonneg offset).symm, (Int.natAbs_of_nonneg length).symm, small⟩

/-- The sizes that follow from such a window are words. -/
lemma Small.fits (small : c.Small) (length : 0 ≤ c.length) (offset : 0 ≤ c.offset) : c.Fits := by
  obtain ⟨o, n, ho, hn, lt⟩ := small.exists_window length offset
  have reach := c.type.reach_le (Int.add_nonneg offset length)
  refine ⟨?_, fun _ => ?_, fun _ => ?_⟩
  · rw [stop]
    omega
  · rw [stop]
    omega
  · rw [stop]
    omega

lemma judges_validateWindow (c : Column) : Judges c.validateWindow := by
  unfold validateWindow
  simp only [Checked.throw_eq_error, Checked.error_bind, Checked.pure_eq_ok]
  refine .guard fun _ => .guard fun _ => .guard fun _ => ?_
  cases c.buffer? 0 with
  | none => exact .ok
  | some b => exact .guard fun _ => .ok

/-- Behind the check of the window the nulls can be counted. -/
lemma exists_countNulls (small : c.Small) (window : c.validateWindow = .ok ()) :
    ∃ n, c.countNulls = .ok n := by
  obtain ⟨length, offset, -, bitmap⟩ := validateWindow_iff.1 window
  obtain ⟨o, n, ho, hn, lt⟩ := small.exists_window length offset
  unfold countNulls
  split
  · exact ⟨_, rfl⟩
  · cases e : c.buffer? 0 with
    | none => exact ⟨_, rfl⟩
    | some b =>
      have reach := ((small.fits length offset).reaches (Int.add_nonneg offset length)
        (bitmap b e)).1
      rw [stop, ho, hn] at reach
      obtain ⟨m, count⟩ : ∃ m, b.memory.countSetBits o n = .ok m :=
        ⟨_, Bytes.countSetBits_eq (by omega) (by omega)⟩
      simp only [ho, hn, count, Checked.ok_bind]
      exact ⟨_, rfl⟩

lemma judges_validateNulls {n : Int} (count : c.countNulls = .ok n) : Judges c.validateNulls := by
  unfold validateNulls
  simp only [count, Checked.throw_eq_error, Checked.pure_eq_ok, Checked.ok_bind,
    Checked.error_bind]
  exact .guard fun _ => .guard fun _ => .ok

lemma judges_validateBufferCount (c : Column) (n : Nat) : Judges (c.validateBufferCount n) := by
  unfold validateBufferCount
  exact .guard fun _ => .ok

lemma judges_validateValues (c : Column) (size : Int) : Judges (c.validateValues size) := by
  unfold validateValues
  cases c.buffer? 1 with
  | none => exact .guard fun _ => .ok
  | some b => exact .guard fun _ => .ok

lemma judges_validateDictionary (c : Column) : Judges c.validateDictionary := by
  unfold validateDictionary
  cases c.type with
  | dictionary k value ordered =>
    cases c.dictionary with
    | none => exact .inr ⟨_, rfl⟩
    | some d =>
      simp only
      split
      · exact .ok
      · exact .inr ⟨_, rfl⟩
  | _ => exact .ok

/-- As many offsets as are there can be read. -/
lemma exists_stringOffset {w : Width} {i : Nat} {b : Buffer} (offset : 0 ≤ c.offset)
    (offsets : c.buffer? 1 = some b)
    (enough : c.stop + 1 ≤ (b.size : Int) / w.bytes) (hi : i ≤ c.length) :
    ∃ v, c.stringOffset w i = .ok v := by
  obtain ⟨p, hp⟩ := Int.eq_ofNat_of_zero_le (by omega : 0 ≤ c.offset + i)
  have whole := Int.mul_le_of_le_ediv (Int.ofNat_lt.2 w.bytes_pos) enough
  have inside := b.size_le
  have place : ((p : Int) + 1) * w.bytes ≤ (c.stop + 1) * w.bytes :=
    Int.mul_le_mul_of_nonneg_right (by rw [stop]; omega) (Int.natCast_nonneg _)
  have fits : p * w.bytes + w.bytes ≤ b.memory.size := by
    rw [← Nat.succ_mul]
    have le := Int.le_trans place (Int.le_trans whole (Int.ofNat_le.2 inside))
    exact_mod_cast le
  have read := Bytes.span_eq fits
  rw [Int.natCast_mul] at read
  rw [stringOffset, offsets, hp]
  exact ⟨_, Bytes.integer_of_span (k := .int w) read⟩

lemma judges_validateStrings {w : Width} (small : c.Small) (length : 0 ≤ c.length)
    (offset : 0 ≤ c.offset) : Judges (c.validateStrings w) := by
  unfold validateStrings
  refine (c.judges_validateBufferCount 3).bind fun _ => ?_
  cases e : c.buffer? 1 with
  | none => exact .guard fun _ => .ok
  | some b =>
    simp only [Checked.throw_eq_error, Checked.error_bind, Checked.pure_eq_ok]
    refine .guard fun enough => ?_
    have aligned := (small.fits length offset).aligned (hasBuffer_of_values e)
    have nonneg : 0 ≤ c.stop := Int.add_nonneg offset length
    rw [IntKind.wrap_w64 (by omega) (by omega)] at enough
    obtain ⟨n, hn⟩ := Int.eq_ofNat_of_zero_le length
    obtain ⟨first, readFirst⟩ := exists_stringOffset (w := w) (i := 0) offset e
      (by omega) length
    obtain ⟨last, readLast⟩ := exists_stringOffset (w := w) (i := n) offset e
      (by omega) (Int.le_of_eq hn.symm)
    rw [Int.natCast_zero] at readFirst
    rw [hn, readFirst, readLast]
    exact .guard fun _ => .guard fun _ => .ok

/-- Validation passes or reports a defect, whatever the column is. -/
lemma judges_validate (small : c.Small) : Judges c.validate := by
  unfold validate
  refine c.judges_validateWindow.bind fun window => ?_
  obtain ⟨length, offset, -⟩ := validateWindow_iff.1 window
  obtain ⟨n, count⟩ := exists_countNulls small window
  refine (judges_validateNulls count).bind fun _ => ?_
  unfold validateLayout
  cases c.type.layout with
  | empty =>
    unfold validateNullColumn
    simp only [count, Checked.throw_eq_error, Checked.pure_eq_ok, Checked.ok_bind,
      Checked.error_bind]
    exact .guard fun _ => .guard fun _ => .ok
  | bits =>
    exact (c.judges_validateBufferCount 2).bind fun _ => c.judges_validateValues _
  | fixed w =>
    exact (c.judges_validateBufferCount 2).bind fun _ =>
      c.judges_validateDictionary.bind fun _ => c.judges_validateValues _
  | strings w => exact judges_validateStrings small length offset

end Judging

section Letting

/-- Slot `i` of a column, without padding and with it: its validity and its value can be read, and
of a byte string at least the offsets, and all of it where offsets never decrease. -/
structure SlotInside (c : Column) (i : Nat) : Prop where
  validity : ∃ v, c.trimmed.isValid i = .ok v ∧ c.isValid i = .ok v
  value : (c.type.layout = .bits ∨ ∃ w, c.type.layout = .fixed w) →
    ∃ v, c.trimmed.value i = .ok v ∧ c.value i = .ok v
  offsets : ∀ w, c.type.layout = .strings w → ∃ a b,
    (c.trimmed.stringOffset w i = .ok a ∧ c.stringOffset w i = .ok a) ∧
    c.trimmed.stringOffset w (i + 1) = .ok b ∧ c.stringOffset w (i + 1) = .ok b
  string : ∀ w, c.type.layout = .strings w → c.Ordered →
    ∃ v, c.trimmed.value i = .ok v ∧ c.value i = .ok v

variable {i : Nat}

/-- A column that passes validation and whose offsets never decrease is shaped as it should be. -/
lemma Passes.validated (h : c.Passes) (small : c.Small) (ordered : c.Ordered) : c.Validated := by
  have fits := small.fits h.length_nonneg h.offset_nonneg
  exact ⟨(validate_iff fits).2 h, ordered, fits⟩

/-- Slots of a shaped column have values. -/
lemma Shaped.exists_value (h : c.Shaped) (stored : c.type.layout ≠ .empty) (hi : i < c.length) :
    ∃ v, c.value i = .ok v := by
  unfold value
  cases e : c.type with
  | dictionary k value ordered =>
    obtain ⟨v, read⟩ := h.covered.exists_integer (k := k) (by rw [e]; rfl) hi
    simp only [key, e, read, Checked.ok_bind]
    exact ⟨_, rfl⟩
  | _ =>
    obtain ⟨x, read⟩ := h.exists_cell stored hi
    simp only [read, Checked.ok_bind]
    exact ⟨_, rfl⟩

/-- Offsets without padding never decrease where those with padding do not. -/
lemma Ordered.trimmed (h : c.Ordered) : c.trimmed.Ordered := fun w i a b layout hi first second =>
  h w i a b layout hi ((c.stringOffset_trimmed w i).eq_ok first)
    ((c.stringOffset_trimmed w (i + 1)).eq_ok second)

end Letting

/-- What validation is good for, on any column with a window that a machine can work with. It passes
or reports a defect, and comes to the same without the padding of the buffers, so it reads nothing
but meaningful bytes. Where it passes, all slots of the window are inside the buffers. -/
theorem validate_safe (small : (c.offset.natAbs + c.length.natAbs + 1) * 16 < 2 ^ 63) :
    (c.validate = .ok () ∨ ∃ d, c.validate = .error (.defect d)) ∧
    c.trimmed.validate = c.validate ∧
    (c.validate = .ok () → ∀ i : Nat, i < c.length → c.SlotInside i) := by
  have small' : c.trimmed.Small := small
  have same : c.trimmed.validate = c.validate := by
    refine c.validate_trimmed.eq fun astray => ?_
    rcases judges_validate small' with passed | ⟨d, failed⟩
    · cases passed.symm.trans astray
    · cases failed.symm.trans astray
  refine ⟨judges_validate small, same, fun passed i hi => ?_⟩
  have passed' := same.trans passed
  obtain ⟨length, offset, -⟩ := validateWindow_iff.1 (validate_eq_ok.1 passed').1
  have fits := small'.fits length offset
  have passes : c.trimmed.Passes := (validate_iff fits).1 passed'
  have valued (stored : c.type.layout ≠ .empty) (ordered : c.Ordered) :
      ∃ v, c.trimmed.value i = .ok v ∧ c.value i = .ok v := by
    obtain ⟨v, read⟩ :=
      (passes.validated small' ordered.trimmed).shaped.exists_value stored hi
    exact ⟨v, read, (c.value_trimmed i).eq_ok read⟩
  refine ⟨?_, fun layout => ?_, fun w layout => ?_, fun w layout => ?_⟩
  · obtain ⟨v, read⟩ := passes.exists_isValid fits hi
    exact ⟨v, read, (c.isValid_trimmed i).eq_ok read⟩
  · rcases layout with layout | ⟨w, layout⟩
    · exact valued (by rw [layout]; nofun) (ordered_of_no_strings (by rw [layout]; nofun))
    · exact valued (by rw [layout]; nofun) (ordered_of_no_strings (by rw [layout]; nofun))
  · obtain ⟨-, reach⟩ := (passesLayout_strings (c := c.trimmed) layout).1 passes.layout
    have pos : 0 < c.trimmed.length := Int.lt_of_le_of_lt (Int.natCast_nonneg i) hi
    obtain ⟨b, found, enough, -⟩ := reach.exists_buffer pos
    obtain ⟨first, readFirst⟩ := exists_stringOffset (i := i) passes.offset_nonneg found enough
      (Int.le_of_lt hi)
    obtain ⟨second, readSecond⟩ := exists_stringOffset (i := i + 1) passes.offset_nonneg found
      enough hi
    exact ⟨first, second, ⟨readFirst, (c.stringOffset_trimmed w i).eq_ok readFirst⟩, readSecond,
      (c.stringOffset_trimmed w (i + 1)).eq_ok readSecond⟩
  · exact valued (by rw [layout]; nofun)

/-- A window over strings passes, whatever the offset in front of it is, and its strings are inside.
A window further on, which the bitmap does not reach, is reported. -/
theorem validate_safe_window :
    let offsets : List UInt8 := [9, 0, 0, 0, 0, 0, 0, 0, 2, 0, 0, 0, 3, 0, 0, 0]
    let c : Column := ⟨.string, 2, 1, -1,
      [some (.ofBytes #[6]), some (.ofBytes offsets.toArray), some (.ofBytes #[97, 98, 99])], none⟩
    let d := { c with offset := 7 }
    c.validate = .ok () ∧ c.trimmed.validate = .ok () ∧ c.SlotInside 0 ∧ c.SlotInside 1 ∧
      c.Ordered ∧ ∃ e, d.validate = .error (.defect e) := by
  intro offsets c d
  have passed : c.validate = .ok () := by decide +kernel
  have ordered : c.Ordered := by decide +kernel
  obtain ⟨-, same, inside⟩ := validate_safe (c := c) (by decide)
  obtain ⟨judged, -⟩ := validate_safe (c := d) (by decide)
  have refused : d.validate ≠ .ok () := by decide +kernel
  exact ⟨passed, same.trans passed, inside passed 0 (by decide), inside passed 1 (by decide),
    ordered, judged.resolve_left refused⟩

end Columnar.Column
