import Mathlib.Tactic.Common
import Columnar.Proofs.Bits.Count
import Columnar.Proofs.Column.LaidOut
import Columnar.Proofs.Column.Validate

/-!
# Shapes of columns

`Column.Shaped` asks of a column what validation asks, apart from the null count, in exact numbers:
the sizes that follow from its window are words (`Column.Fits`). Its offsets never decrease either.
Whether a stored null count is right depends on the window of the bitmap only
(`Column.windowNulls`), so a change of window or of type keeps a column sound when it keeps its shape
and accounts for its nulls.
-/

namespace Columnar.Column

/-- The number of null slots. -/
def nullSlots (c : Column) : Nat := c.positions.countP fun i : Nat => c.isValid i = .ok false

/-- The number of nulls by the bitmap and the type, whatever null count is stored. -/
def windowNulls (c : Column) : Int :=
  match c.bitmap? with
  | some b => c.length - b.memory.ones c.offset.toNat c.length.toNat
  | none => if c.type = .null then c.length else 0

/-- A column whose buffers are as its type and window call for. -/
structure Shaped (c : Column) : Prop where
  length_nonneg : 0 ≤ c.length
  offset_nonneg : 0 ≤ c.offset
  bitmap : ∀ b, c.buffer? 0 = some b → Rounding.byteCount c.stop ≤ b.size
  layout : c.PassesLayout
  ordered : c.Ordered
  fits : c.Fits

variable {c : Column}

/-- The null slots are those of the marks that validity is read as. -/
lemma nullSlots_eq (marks : List Bool) (length : c.length = marks.length)
    (read : ∀ (i : Nat) v, marks[i]? = some v → c.isValid i = .ok v) :
    c.nullSlots = marks.countP fun v => !v := by
  have range : marks = (List.range marks.length).map fun i => marks.getD i false := by
    apply List.ext_getElem?
    intro i
    by_cases hi : i < marks.length
    · simp [hi]
    · simp [hi]
  rw [nullSlots, positions, length, Int.toNat_natCast]
  conv_rhs => rw [range, List.countP_map]
  apply List.countP_congr
  intro i hi
  rw [List.mem_range] at hi
  have valid := read i _ (List.getElem?_eq_getElem hi)
  rw [valid, Function.comp_apply, List.getD_eq_getElem _ _ hi]
  cases marks[i] <;> simp

/-- The null slots of a window over a bitmap are those that are not set bits. -/
lemma nullSlots_add_ones {b : Buffer} {offset n : Nat} (bitmap : c.bitmap? = some b)
    (hoffset : c.offset = offset) (length : c.length = n) (reach : offset + n ≤ 8 * b.memory.size) :
    c.nullSlots + b.memory.ones offset n = n := by
  have marks := nullSlots_eq (c := c) ((List.range' offset n).map b.memory.bit)
    (by simpa using length) (by
      intro i v h
      rw [List.getElem?_map] at h
      obtain ⟨j, hj, rfl⟩ := Option.map_eq_some_iff.1 h
      obtain ⟨lt, rfl⟩ := List.getElem?_eq_some_iff.1 hj
      rw [List.length_range'] at lt
      rw [isValid, bitmap, hoffset, List.getElem_range', Nat.one_mul, ← Int.natCast_add]
      exact Bytes.getBit_eq (by omega))
  have whole := List.length_eq_countP_add_countP b.memory.bit (l := List.range' offset n)
  have clear : (List.range' offset n).countP (fun i => decide ¬ b.memory.bit i = true) =
      c.nullSlots := by
    rw [marks, List.countP_map]
    exact List.countP_congr fun i _ => by simp
  rw [clear, List.length_range', ← Bytes.ones] at whole
  omega

lemma windowNulls_bounds (h : 0 ≤ c.length) : 0 ≤ c.windowNulls ∧ c.windowNulls ≤ c.length := by
  unfold windowNulls
  cases c.bitmap? with
  | some b =>
    have le := b.memory.ones_le c.offset.toNat c.length.toNat
    simp only
    omega
  | none =>
    simp only
    split
    · omega
    · omega

namespace Shaped

lemma exists_window (h : c.Shaped) : ∃ offset length : Nat,
    c.offset = offset ∧ c.length = length ∧ offset + length < 2 ^ 63 := by
  obtain ⟨offset, ho⟩ := Int.eq_ofNat_of_zero_le h.offset_nonneg
  obtain ⟨length, hl⟩ := Int.eq_ofNat_of_zero_le h.length_nonneg
  have lt := h.fits.stop_lt
  unfold stop at lt
  exact ⟨offset, length, ho, hl, by omega⟩

/-- Buffers of the right size reach over the window. -/
lemma reaches (h : c.Shaped) {b : Buffer} (enough : Rounding.byteCount c.stop ≤ b.size) :
    c.stop ≤ 8 * b.memory.size ∧ (c.stop + 7) / 8 ≤ b.memory.size :=
  h.fits.reaches (Int.add_nonneg h.offset_nonneg h.length_nonneg) enough

lemma buffers_ne (h : c.Shaped) : c.buffers ≠ [] := by
  intro none
  have layout := h.layout
  unfold PassesLayout at layout
  rw [none] at layout
  cases e : c.type.layout with
  | empty | bits | fixed w | strings w =>
    rw [e] at layout
    cases layout.1

lemma values (h : c.Shaped) (pos : 0 < c.length) :
    c.type.layout.reach c.stop ≤ (c.memory 1).size := by
  cases e : c.type.layout with
  | empty => exact Int.natCast_nonneg _
  | bits =>
    obtain ⟨-, reach⟩ := (passesLayout_bits e).1 h.layout
    obtain ⟨b, values, enough⟩ := reach.exists_buffer pos
    rw [memory, values]
    exact (h.reaches enough).2
  | fixed w =>
    obtain ⟨-, -, reach⟩ := (passesLayout_fixed e).1 h.layout
    obtain ⟨b, values, enough⟩ := reach.exists_buffer pos
    rw [memory, values]
    exact Int.le_trans enough (Int.ofNat_le.2 b.size_le)
  | strings w =>
    obtain ⟨-, reach⟩ := (passesLayout_strings e).1 h.layout
    obtain ⟨b, values, enough, -⟩ := reach.exists_buffer pos
    have le := Int.mul_le_of_le_ediv (Int.ofNat_lt.2 w.bytes_pos) enough
    rw [memory, values]
    exact Int.le_trans le (Int.ofNat_le.2 b.size_le)

/-- The dictionary of a shaped column is as its type calls for. -/
lemma validateDictionary (h : c.Shaped) : c.validateDictionary = .ok () := by
  cases e : c.type with
  | dictionary k value ordered =>
    have layout : c.type.layout = .fixed k.width.bytes := by
      rw [e]
      rfl
    exact ((passesLayout_fixed layout).1 h.layout).2.1
  | _ =>
    unfold Column.validateDictionary
    rw [e]
    rfl

lemma encoded (h : c.Shaped) (dictionary : c.type.isDictionary = true) :
    c.dictionary.isSome = true := by
  have validated := h.validateDictionary
  unfold Column.validateDictionary at validated
  cases e : c.type with
  | dictionary k value ordered =>
    rw [e] at validated
    cases values : c.dictionary with
    | none =>
      rw [values] at validated
      cases validated
    | some d => rfl
  | _ =>
    rw [e] at dictionary
    cases dictionary

lemma covered (h : c.Shaped) : c.Covered where
  offset_nonneg := h.offset_nonneg
  length_nonneg := h.length_nonneg
  bitmap b e := (h.reaches (h.bitmap b (buffer?_of_bitmap? e))).1
  values := h.values
  ordered := h.ordered
  encoded := h.encoded

/-- No offset of the window is negative, so an offset can say how far two of them are apart. -/
lemma lengthFits {w : Width} {i : Nat} (h : c.Shaped) (layout : c.type.layout = .strings w)
    (hi : i < c.length) : c.LengthFits w i := by
  intro a b first second
  have pos : 0 < c.length := by omega
  obtain ⟨-, reach⟩ := (passesLayout_strings layout).1 h.layout
  obtain ⟨-, -, -, start, -, readStart, -, lo, -⟩ := reach.exists_buffer pos
  have le := h.covered.stringOffset_le layout (Nat.zero_le i) (by omega) pos readStart first
  have holds := IntKind.holds_iff.1 (holds_of_integer (k := .int w) second)
  omega

/-- The byte string of a slot lies inside the data. -/
lemma exists_stringPlace {w : Width} {i : Nat} (h : c.Shaped) (layout : c.type.layout = .strings w)
    (hi : i < c.length) : ∃ start n : Nat, c.stringOffset w i = .ok start ∧
      c.stringLength w i = .ok n ∧ start + n ≤ ((c.buffer? 2).map Buffer.size).getD 0 := by
  have covered := h.covered
  obtain ⟨offset, length, -, hl, -⟩ := h.exists_window
  have pos : 0 < c.length := by omega
  obtain ⟨-, reach⟩ := (passesLayout_strings layout).1 h.layout
  obtain ⟨-, -, -, first, last, readFirst, readLast, lo, -, reach⟩ := reach.exists_buffer pos
  obtain ⟨a, n, read, next, measured⟩ :=
    covered.exists_stringLength layout hi (h.lengthFits layout hi)
  have le := covered.stringOffset_le layout (i := 0) (Nat.zero_le i) (by omega) pos readFirst read
  rw [hl] at readLast
  have ge := covered.stringOffset_le layout (i := i + 1) (j := length) (by omega) (by omega) pos
    next readLast
  obtain ⟨start, rfl⟩ := Int.eq_ofNat_of_zero_le (Int.le_trans lo le)
  exact ⟨start, n, read, measured, by omega⟩

lemma exists_stringData {w : Width} {i : Nat} (h : c.Shaped) (layout : c.type.layout = .strings w)
    (hi : i < c.length) : ∃ (a : Int) (n : Nat) (b : Bytes), c.stringOffset w i = .ok a ∧
      c.stringLength w i = .ok n ∧ c.stringData a n = .ok b := by
  obtain ⟨start, n, first, length, inside⟩ := h.exists_stringPlace layout hi
  have size := c.size_le_memory 2
  exact ⟨start, n, _, first, length, Bytes.span_eq (b := c.memory 2) (by omega)⟩

lemma exists_cell {i : Nat} (h : c.Shaped) (stored : c.type.layout ≠ .empty) (hi : i < c.length) :
    ∃ x, c.cell i = .ok x := by
  cases layout : c.type.layout with
  | empty => exact absurd layout stored
  | bits => exact h.covered.exists_cell (w := 0) (.inl layout) hi
  | fixed w => exact h.covered.exists_cell (.inr layout) hi
  | strings w =>
    obtain ⟨a, n, b, first, length, read⟩ := h.exists_stringData layout hi
    exact ⟨.bytes b, by rw [cell_of_strings layout first length, read]; rfl⟩

lemma readable (h : c.Shaped) : c.Readable where
  cell stored _ := h.exists_cell stored
  encoded := h.encoded

/-- Where there is a bitmap or no storage the null slots are those that the bitmap or the type
says. -/
lemma nullSlots_eq_of_marked (h : c.Shaped) (marked : ¬ (c.bitmap? = none ∧ c.type ≠ .null)) :
    (c.nullSlots : Int) = c.windowNulls := by
  obtain ⟨offset, length, ho, hl, -⟩ := h.exists_window
  unfold windowNulls
  cases e : c.bitmap? with
  | some b =>
    have reach := (h.reaches (h.bitmap b (buffer?_of_bitmap? e))).1
    rw [stop, ho, hl] at reach
    have sum := nullSlots_add_ones e ho hl (by omega)
    simp only [ho, hl, Int.toNat_natCast]
    omega
  | none =>
    have null : c.type = .null := by
      by_contra ne
      exact marked ⟨e, ne⟩
    have marks := nullSlots_eq (c := c) (List.replicate length false)
      (by rw [List.length_replicate, hl]) (by
        intro i v hv
        obtain ⟨-, rfl⟩ := List.mem_replicate.1 (List.mem_of_getElem? hv)
        rw [isValid, e, storedCount, null]
        simp)
    rw [marks, List.countP_replicate]
    simp [null, hl]

/-- A null count that is unknown or right is what validity is read by. -/
lemma nullSlots_eq_windowNulls (h : c.Shaped)
    (count : c.storedCount = unknownCount ∨ c.storedCount = c.windowNulls) :
    (c.nullSlots : Int) = c.windowNulls := by
  -- Without a bitmap validity is read off the stored count, so the count has to be right first.
  by_cases bare : c.bitmap? = none ∧ c.type ≠ .null
  · obtain ⟨none, ne⟩ := bare
    have empty : c.windowNulls = 0 := by rw [windowNulls, none, if_neg ne]
    rw [empty] at count ⊢
    rw [Int.natCast_eq_zero, nullSlots, List.countP_eq_zero]
    intro i hi
    rw [positions, List.mem_range] at hi
    have valid : c.isValid i = .ok true := by
      have different : (c.storedCount != c.length) = true := by
        rw [bne_iff_ne]
        unfold unknownCount at count
        omega
      rw [isValid, none, different]
      rfl
    rw [valid]
    decide
  · exact h.nullSlots_eq_of_marked bare

/-- Counting nulls gives their number, if the stored count is unknown or right. -/
lemma countNulls_eq (h : c.Shaped)
    (count : c.storedCount = unknownCount ∨ c.storedCount = c.windowNulls) :
    c.countNulls = .ok c.windowNulls := by
  obtain ⟨offset, length, ho, hl, lt⟩ := h.exists_window
  unfold countNulls
  by_cases unknown : c.storedCount = unknownCount
  · have ne : c.type ≠ .null := by
      intro null
      rw [storedCount, null, hl] at unknown
      cases unknown
    rw [if_neg (not_not.2 unknown), windowNulls, bitmap?_eq c ne]
    cases e : c.buffer? 0 with
    | none =>
      rw [if_neg ne]
      rfl
    | some b =>
      have aligned := h.fits.aligned (hasBuffer_of_bitmap e)
      have reach := (h.reaches (h.bitmap b e)).1
      rw [stop, ho, hl] at reach aligned
      simp only [ho, hl, Int.toNat_natCast]
      rw [Bytes.countSetBits_eq (by omega) (by omega)]
      rfl
  · rw [if_pos unknown, count.resolve_left unknown]
    rfl

end Shaped

end Columnar.Column
