import Mathlib.Tactic.Common
import Columnar.Proofs.Column.Shaped

/-!
# Sound columns

A column is sound when it passes validation, its stored null count is unknown or right, its offsets
never decrease and the sizes that follow from its window are 64-bit words. Everything in the window
of a sound column can be read, and counting its nulls gives the number of its null slots.
-/

namespace Columnar.Column

/-- A column that can be relied on. What `fits` leaves out can exist and pass validation: columns
without storage whose window ends past the last 64-bit word, which have no memory that could bound
it, and columns whose sizes overflow, for which validation compares what is left of these sizes. A
window with slots whose values and bitmap are all in memory fits, since no memory has `2 ^ 60`
bytes. -/
structure Sound (c : Column) : Prop where
  validates : c.validate = .ok ()
  counted : c.storedCount = unknownCount ∨ c.storedCount = c.nullSlots
  ordered : c.Ordered
  fits : c.Fits

/-- A column that is sound but for its null count, which may be any that passes validation. Its
window has to fit as that of a sound column does. -/
structure Validated (c : Column) : Prop where
  validates : c.validate = .ok ()
  ordered : c.Ordered
  fits : c.Fits

variable {c : Column}

lemma Validated.shaped (h : c.Validated) : c.Shaped := by
  have passes := (validate_iff h.fits).1 h.validates
  exact {
    length_nonneg := passes.length_nonneg
    offset_nonneg := passes.offset_nonneg
    bitmap := passes.bitmap
    layout := passes.layout
    ordered := h.ordered
    fits := h.fits }

namespace Sound

lemma passes (h : c.Sound) : c.Passes := (validate_iff h.fits).1 h.validates

lemma validated (h : c.Sound) : c.Validated := ⟨h.validates, h.ordered, h.fits⟩

lemma shaped (h : c.Sound) : c.Shaped := h.validated.shaped

lemma exists_window (h : c.Sound) : ∃ offset length : Nat,
    c.offset = offset ∧ c.length = length ∧ offset + length < 2 ^ 63 := h.shaped.exists_window

/-- The null slots of a sound column are those that its bitmap or its type says. -/
lemma nullSlots_eq_windowNulls (h : c.Sound) : (c.nullSlots : Int) = c.windowNulls := by
  rcases h.counted with unknown | known
  · exact h.shaped.nullSlots_eq_windowNulls (.inl unknown)
  -- A stored count that is right by its slots is right by the bitmap too: validation allows no
  -- nulls where there is none.
  by_cases bare : c.bitmap? = none ∧ c.type ≠ .null
  · obtain ⟨none, ne⟩ := bare
    have empty : c.windowNulls = 0 := by rw [windowNulls, none, if_neg ne]
    obtain ⟨n, count, -, zero⟩ := h.passes.nulls
    rw [bitmap?_eq c ne] at none
    rw [countNulls, if_pos (by rw [known, unknownCount]; omega), known] at count
    cases count
    have le := zero none ne
    omega
  · exact h.shaped.nullSlots_eq_of_marked bare

/-- A column is sound when its buffers are as they should be and its null count is unknown or
right. -/
lemma of_shaped (h : c.Shaped)
    (count : c.storedCount = unknownCount ∨ c.storedCount = c.windowNulls) : c.Sound where
  validates := by
    rw [validate_iff h.fits]
    exact {
      length_nonneg := h.length_nonneg
      offset_nonneg := h.offset_nonneg
      buffers := h.buffers_ne
      bitmap := h.bitmap
      nulls := ⟨c.windowNulls, h.countNulls_eq count, (windowNulls_bounds h.length_nonneg).2,
        fun none ne => Int.le_of_eq (by rw [windowNulls, bitmap?_eq c ne, none, if_neg ne])⟩
      layout := h.layout }
  counted := by
    rw [h.nullSlots_eq_windowNulls count]
    exact count
  ordered := h.ordered
  fits := h.fits

lemma covered (h : c.Sound) : c.Covered := h.shaped.covered

lemma encoded (h : c.Sound) (dictionary : c.type.isDictionary = true) :
    c.dictionary.isSome = true := h.shaped.encoded dictionary

lemma exists_cell {i : Nat} (h : c.Sound) (stored : c.type.layout ≠ .empty) (hi : i < c.length) :
    ∃ x, c.cell i = .ok x := h.shaped.exists_cell stored hi

lemma counted_window (h : c.Sound) :
    c.storedCount = unknownCount ∨ c.storedCount = c.windowNulls := by
  rw [← h.nullSlots_eq_windowNulls]
  exact h.counted

lemma countNulls_eq (h : c.Sound) : c.countNulls = .ok c.nullSlots := by
  rw [h.nullSlots_eq_windowNulls]
  exact h.shaped.countNulls_eq h.counted_window

/-- Without a bitmap every slot of a sound column with storage is valid. -/
lemma valid_of_no_bitmap {i : Nat} (h : c.Sound) (ne : c.type ≠ .null) (none : c.bitmap? = none)
    (hi : i < c.length) : c.isValid i = .ok true := by
  obtain ⟨v, valid⟩ := h.covered.exists_isValid hi
  cases v with
  | true => exact valid
  | false =>
    obtain ⟨n, count, -, zero⟩ := h.passes.nulls
    rw [bitmap?_eq c ne] at none
    rw [h.countNulls_eq] at count
    cases count
    have le := zero none ne
    have nothing : c.nullSlots = 0 := by omega
    rw [nullSlots, List.countP_eq_zero] at nothing
    have null := nothing i (by rw [positions, List.mem_range]; omega)
    exact absurd valid (by simpa using null)

end Sound

section Deciding

/-- Whether two neighbouring offsets can be read and decrease. -/
def decreasesAt (c : Column) (w : Width) (i : Nat) : Bool :=
  match c.stringOffset w i, c.stringOffset w (i + 1) with
  | .ok a, .ok b => b < a
  | _, _ => false

/-- The layout of strings, whose offsets are all there is to be ordered. -/
lemma ordered_iff : c.Ordered ↔
    ∀ w ∈ [Width.w8, .w16, .w32, .w64], c.type.layout = .strings w →
      ∀ i ∈ c.positions, c.decreasesAt w i = false := by
  constructor
  · intro h w _ layout i hi
    rw [positions, List.mem_range] at hi
    unfold decreasesAt
    cases first : c.stringOffset w i with
    | error e => rfl
    | ok a =>
      cases second : c.stringOffset w (i + 1) with
      | error e => rfl
      | ok b =>
        have le := h w i a b layout (by omega) first second
        simpa using le
  · intro h w i a b layout hi first second
    have all : w ∈ [Width.w8, .w16, .w32, .w64] := by cases w <;> decide
    have kept := h w all layout i (by rw [positions, List.mem_range]; omega)
    rw [decreasesAt, first, second] at kept
    simpa using kept

instance : Decidable c.Ordered := decidable_of_iff _ ordered_iff.symm

lemma fits_iff : c.Fits ↔ c.stop < 2 ^ 63 ∧ (c.hasBuffer = true → c.stop + 64 ≤ 2 ^ 63) ∧
    ((c.buffer? 1).isSome = true → c.type.layout.reach c.stop < 2 ^ 63) := by
  constructor
  · intro h
    exact ⟨h.stop_lt, h.aligned, h.reach_lt⟩
  · rintro ⟨stop, aligned, reach⟩
    exact ⟨stop, aligned, reach⟩

instance : Decidable c.Fits := decidable_of_iff _ fits_iff.symm

lemma sound_iff : c.Sound ↔ c.validate = .ok () ∧
    (c.storedCount = unknownCount ∨ c.storedCount = c.nullSlots) ∧ c.Ordered ∧ c.Fits := by
  constructor
  · intro h
    exact ⟨h.validates, h.counted, h.ordered, h.fits⟩
  · rintro ⟨validates, counted, ordered, fits⟩
    exact ⟨validates, counted, ordered, fits⟩

instance : Decidable c.Sound := decidable_of_iff _ sound_iff.symm

end Deciding

section LaidOut
variable {t : DataType} {slots : List (Option Cell)} {bitmap : Bool} {d : Option Column}

lemma nullSlots_laidOut (holds : Holds t slots bitmap) :
    ((laidOut t slots bitmap d).nullSlots : Int) = (laidOut t slots bitmap d).nullCount := by
  have marks := nullSlots_eq (c := laidOut t slots bitmap d) (slots.map Option.isSome)
    (by rw [List.length_map]; rfl) (by
      intro i v h
      rw [List.getElem?_map] at h
      obtain ⟨s, hs, rfl⟩ := Option.map_eq_some_iff.1 h
      exact isValid_laidOut holds hs)
  rw [marks, List.countP_map, laidOut]
  refine congrArg Int.ofNat (List.countP_congr fun s _ => ?_)
  cases s <;> simp

lemma stop_laidOut : (laidOut t slots bitmap d).stop = slots.length := Int.zero_add _

lemma passesLayout_laidOut (holds : Holds t slots bitmap) (short : slots.length < 2 ^ 63)
    (dictionary : (laidOut t slots bitmap d).validateDictionary = .ok ()) :
    (laidOut t slots bitmap d).PassesLayout := by
  have same : (laidOut t slots bitmap d).type.layout = t.layout := rfl
  rw [PassesLayout, stop_laidOut, same]
  cases layout : t.layout with
  | empty => exact absurd layout holds.stored
  | bits =>
    refine ⟨by simp [laidOut, layout, Layout.buffers], ?_⟩
    have values : (laidOut t slots bitmap d).buffer? 1 =
        some (.packed (.ofBits ((physical t slots).map Cell.isSet))) := by
      simp only [buffer?, laidOut, layout, Layout.buffers]
      rfl
    rw [ValuesReach, values, Rounding.byteCount_eq short]
    simp [physical]
  | fixed w =>
    refine ⟨by simp [laidOut, layout, Layout.buffers], dictionary, ?_⟩
    have values : (laidOut t slots bitmap d).buffer? 1 =
        some (.packed (contents t slots).toArray) := by
      simp only [buffer?, laidOut, layout, Layout.buffers, contents]
      rfl
    rw [ValuesReach, values]
    simp [length_contents layout holds.cells]
  | strings w =>
    refine ⟨by simp [laidOut, layout, Layout.buffers], ?_⟩
    have first := stringOffset_laidOut (d := d) holds layout (Nat.zero_le slots.length)
    have last := stringOffset_laidOut (d := d) holds layout (Nat.le_refl slots.length)
    rw [List.take_of_length_le (by rw [length_sizes]), sum_sizes] at last
    rw [OffsetsReach, buffer?_laidOut_strings layout, buffer?_laidOut_data layout, stop_laidOut]
    refine ⟨?_, 0, _, first, last, Int.le_refl 0, Int.natCast_nonneg _, ?_⟩
    · have pos : (w.bytes : Int) ≠ 0 := Int.ofNat_ne_zero.2 (Nat.ne_of_gt w.bytes_pos)
      have enough : ((Layout.offsets w (sizes t slots)).length : Int) / w.bytes =
          slots.length + 1 := by
        rw [Layout.length_offsets, length_sizes, Int.natCast_mul, Int.mul_ediv_cancel _ pos]
        rfl
      exact Int.le_of_eq enough.symm
    · simp

lemma ordered_laidOut (holds : Holds t slots bitmap) : (laidOut t slots bitmap d).Ordered := by
  intro w i a b layout hi first second
  have lt : i < slots.length := Int.ofNat_lt.1 hi
  rw [stringOffset_laidOut holds layout (by omega)] at first
  rw [← Int.natCast_succ, stringOffset_laidOut holds layout (by omega),
    sum_take_sizes (List.getElem?_eq_getElem lt)] at second
  cases first
  cases second
  omega

lemma fits_laidOut (short : slots.length + 64 ≤ 2 ^ 63)
    (room : t.layout.reach slots.length < 2 ^ 63) : (laidOut t slots bitmap d).Fits where
  stop_lt := by rw [stop_laidOut]; omega
  aligned _ := by rw [stop_laidOut]; omega
  reach_lt _ := by rw [stop_laidOut]; exact room

lemma sound_laidOut (holds : Holds t slots bitmap) (short : slots.length + 64 ≤ 2 ^ 63)
    (room : t.layout.reach slots.length < 2 ^ 63) (full : bitmap = false → none ∉ slots)
    (dictionary : (laidOut t slots bitmap d).validateDictionary = .ok ()) :
    (laidOut t slots bitmap d).Sound := by
  have ne : (laidOut t slots bitmap d).type ≠ .null := type_ne_null (t := t) holds.stored
  have count := nullSlots_laidOut (d := d) holds
  have nulls : (laidOut t slots bitmap d).nullCount = (slots.countP Option.isNone : Nat) := rfl
  refine {
    validates := (validate_iff (fits_laidOut short room)).2 {
      length_nonneg := Int.natCast_nonneg _
      offset_nonneg := Int.le_refl 0
      buffers := List.cons_ne_nil _ _
      bitmap := fun b e => ?_
      nulls := ⟨slots.countP Option.isNone, ?_, Int.ofNat_le.2 List.countP_le_length, fun e _ => ?_⟩
      layout := passesLayout_laidOut holds (by omega) dictionary }
    counted := .inr ((storedCount_eq _ ne).trans count.symm)
    ordered := ordered_laidOut holds
    fits := fits_laidOut short room }
  · cases bitmap with
    | false => cases e
    | true =>
      cases e
      rw [stop_laidOut, Rounding.byteCount_eq (by omega)]
      simp
  · rw [countNulls, storedCount_eq _ ne, nulls, if_pos (by unfold unknownCount; omega)]
    rfl
  · cases bitmap with
    | true => cases e
    | false =>
      have none := countP_isNone_eq_zero (full rfl)
      omega

lemma bitmap?_laidOut (stored : t.layout ≠ .empty) :
    (laidOut t slots bitmap d).bitmap?.isSome = bitmap := by
  rw [bitmap?_eq _ (type_ne_null (t := t) stored)]
  cases bitmap <;> rfl

end LaidOut

end Columnar.Column
