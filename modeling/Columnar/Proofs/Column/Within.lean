import Mathlib.Tactic.Common
import Columnar.Column.Slice
import Columnar.Proofs.Column.Alike
import Columnar.Proofs.Column.Sound

/-!
# Columns within columns

A column lies within another one when it has its buffers and layout, and a window that begins at a
slot of the other one and does not go past its end. A slice lies within its column, and so does the
same column with another null count or another type of the same layout. What lies within a column
with the right shape has the right shape, and reads the same slots.
-/

namespace Columnar

/-- A window has no more set bits than the one that it is part of, and no fewer than are left when
everything outside is set. -/
lemma Bytes.ones_window (b : Bytes) (start : Nat) {place n total : Nat}
    (inside : place + n ≤ total) :
    b.ones (start + place) n ≤ b.ones start total ∧
      b.ones start total + n ≤ b.ones (start + place) n + total := by
  have parts : b.ones start total = b.ones start place + b.ones (start + place) n +
      b.ones (start + place + n) (total - (place + n)) := by
    have split : total = place + n + (total - (place + n)) := by omega
    conv_lhs => rw [split]
    rw [Bytes.ones_add, Bytes.ones_add, Nat.add_assoc start]
  have before := b.ones_le start place
  have after := b.ones_le (start + place + n) (total - (place + n))
  omega

lemma Rounding.byteCount_le {m n : Nat} (le : m ≤ n) (lt : n < 2 ^ 63) :
    Rounding.byteCount m ≤ Rounding.byteCount n := by
  rw [Rounding.byteCount_eq (by omega), Rounding.byteCount_eq lt]
  omega

namespace Column

/-- Whether a column lies within another one, beginning at its slot `place`. -/
structure Within (c' c : Column) (place : Nat) : Prop where
  layout : c'.type.layout = c.type.layout
  buffers : c'.buffers = c.buffers
  offset : c'.offset = c.offset + place
  length_nonneg : 0 ≤ c'.length
  inside : place + c'.length ≤ c.length

variable {c c' : Column} {place i : Nat}

/-- A column with the same window of the same buffers is the whole of another one. -/
lemma within_of_window (layout : c'.type.layout = c.type.layout) (buffers : c'.buffers = c.buffers)
    (offset : c'.offset = c.offset) (length : c'.length = c.length) (nonneg : 0 ≤ c.length) :
    c'.Within c 0 where
  layout := layout
  buffers := buffers
  offset := by rw [offset, Int.natCast_zero, Int.add_zero]
  length_nonneg := length ▸ nonneg
  inside := Int.le_of_eq (by rw [length, Int.natCast_zero, Int.zero_add])

lemma Alike.within (h : c'.Alike c) (shaped : c.Shaped) : c'.Within c 0 :=
  within_of_window h.layout h.buffers h.offset h.length shaped.length_nonneg

namespace Within

lemma buffer? (h : c'.Within c place) (n : Nat) : c'.buffer? n = c.buffer? n := by
  rw [Column.buffer?, Column.buffer?, h.buffers]

lemma null_iff (h : c'.Within c place) : c'.type = .null ↔ c.type = .null := by
  rw [← layout_eq_empty, ← layout_eq_empty, h.layout]

lemma bitmap? (h : c'.Within c place) : c'.bitmap? = c.bitmap? := by
  by_cases null : c.type = .null
  · rw [Column.bitmap?, Column.bitmap?, null, h.null_iff.2 null]
  · rw [bitmap?_eq c null, bitmap?_eq c' (mt h.null_iff.1 null), h.buffer?]

/-- The offsets of the window are those of the column from its place on. -/
lemma stringOffset (h : c'.Within c place) (w : Width) (i : Int) :
    c'.stringOffset w i = c.stringOffset w (place + i) := by
  rw [Column.stringOffset, Column.stringOffset, h.buffer?, h.offset, Int.add_assoc]

lemma integer (h : c'.Within c place) (k : IntKind) (i : Int) :
    c'.integer k i = c.integer k (place + i) := by
  rw [Column.integer, Column.integer, h.buffer?, h.offset, Int.add_assoc]

lemma stringLength (h : c'.Within c place) (w : Width) (i : Int) :
    c'.stringLength w i = c.stringLength w (place + i) := by
  rw [Column.stringLength, Column.stringLength, h.stringOffset, h.stringOffset, Int.add_assoc]

lemma cell (h : c'.Within c place) (i : Int) : c'.cell i = c.cell (place + i) := by
  simp only [Column.cell, Column.stringData, Column.memory, h.layout, h.buffer?, h.offset,
    h.stringLength, h.stringOffset, Int.add_assoc]

lemma stop_le (h : c'.Within c place) : c'.stop ≤ c.stop := by
  have inside := h.inside
  rw [Column.stop, Column.stop, h.offset]
  omega

lemma byteCount_stop_le (h : c'.Within c place) (shaped : c.Shaped) :
    Rounding.byteCount c'.stop ≤ Rounding.byteCount c.stop := by
  obtain ⟨offset, length, ho, hl, lt⟩ := shaped.exists_window
  obtain ⟨n, hn⟩ := Int.eq_ofNat_of_zero_le h.length_nonneg
  have inside := h.inside
  have stop : c.stop = (offset + length : Nat) := by rw [Column.stop, ho, hl]; rfl
  have stop' : c'.stop = (offset + place + n : Nat) := by rw [Column.stop, h.offset, ho, hn]; rfl
  rw [stop, stop']
  exact Rounding.byteCount_le (by omega) lt

lemma valuesReach {size size' : Int} (h : c'.Within c place) (reach : c.ValuesReach size)
    (le : size' ≤ size) : c'.ValuesReach size' := by
  have inside := h.inside
  unfold ValuesReach at reach ⊢
  rw [h.buffer?]
  cases e : c.buffer? 1 with
  | none =>
    rw [e] at reach
    change c.length ≤ 0 at reach
    change c'.length ≤ 0
    omega
  | some b =>
    rw [e] at reach
    exact Int.le_trans le reach

/-- The offsets of a window lie between those of the column. -/
lemma offsetsReach {w : Width} (h : c'.Within c place) (shaped : c.Shaped)
    (layout : c.type.layout = .strings w) (reach : c.OffsetsReach w) : c'.OffsetsReach w := by
  obtain ⟨n, hn⟩ := Int.eq_ofNat_of_zero_le h.length_nonneg
  obtain ⟨-, length, -, hl, -⟩ := shaped.exists_window
  have inside := h.inside
  have stop := h.stop_le
  unfold OffsetsReach at reach ⊢
  rw [h.buffer?, h.buffer?]
  cases e : c.buffer? 1 with
  | none =>
    rw [e] at reach
    change c.length ≤ 0 at reach
    change c'.length ≤ 0
    omega
  | some b =>
    rw [e] at reach
    obtain ⟨enough, first, last, readFirst, readLast, lo, le, size⟩ := reach
    refine ⟨by omega, ?_⟩
    -- An empty column has one offset, which need not be one of the ordered ones.
    by_cases pos : 0 < c.length
    · obtain ⟨first', readFirst'⟩ := shaped.covered.exists_stringOffset layout (i := place)
        (by omega) pos
      obtain ⟨last', readLast'⟩ := shaped.covered.exists_stringOffset layout (i := place + n)
        (by omega) pos
      have before := shaped.covered.stringOffset_le layout (Nat.zero_le place) (by omega) pos
        readFirst readFirst'
      have between := shaped.covered.stringOffset_le layout (Nat.le_add_right place n) (by omega)
        pos readFirst' readLast'
      rw [hl] at readLast
      have after := shaped.covered.stringOffset_le layout (j := length) (by omega) (by omega) pos
        readLast' readLast
      refine ⟨first', last', ?_, ?_, Int.le_trans lo before, between, Int.le_trans after size⟩
      · rw [h.stringOffset, Int.add_zero]
        exact readFirst'
      · rw [h.stringOffset, hn]
        exact readLast'
    · have start : (place : Int) = 0 := by omega
      have empty : c'.length = c.length := by omega
      refine ⟨first, last, ?_, ?_, lo, le, size⟩
      · rw [h.stringOffset, start]
        exact readFirst
      · rw [h.stringOffset, start, empty, Int.zero_add]
        exact readLast

/-- What lies within a column whose sizes fit has sizes that fit. -/
lemma fits (h : c'.Within c place) (fits : c.Fits) : c'.Fits where
  stop_lt := Int.lt_of_le_of_lt h.stop_le fits.stop_lt
  aligned buffered := by
    rw [hasBuffer, h.buffer?, h.buffer?] at buffered
    exact Int.le_trans (Int.add_le_add_right h.stop_le 64) (fits.aligned buffered)
  reach_lt values := by
    rw [h.buffer?] at values
    rw [h.layout]
    exact Int.lt_of_le_of_lt (c.type.layout.reach_le h.stop_le) (fits.reach_lt values)

/-- What lies within a shaped column has the right shape, if it has the right dictionary. -/
lemma shaped (h : c'.Within c place) (shaped : c.Shaped)
    (dictionary : c'.validateDictionary = .ok ()) : c'.Shaped where
  length_nonneg := h.length_nonneg
  offset_nonneg := by
    have lo := shaped.offset_nonneg
    rw [h.offset]
    omega
  bitmap b e := by
    rw [h.buffer?] at e
    exact Int.le_trans (h.byteCount_stop_le shaped) (shaped.bitmap b e)
  layout := by
    have layout := shaped.layout
    unfold PassesLayout at layout ⊢
    rw [h.layout, h.buffers]
    cases e : c.type.layout with
    | empty =>
      rw [e] at layout
      have lo := h.length_nonneg
      have stored : c'.storedCount = c'.length := by
        rw [storedCount, h.null_iff.2 (layout_eq_empty.1 e)]
      refine ⟨layout.1, ?_⟩
      rw [countNulls, if_pos (by rw [stored, unknownCount]; omega), stored]
      rfl
    | bits =>
      rw [e] at layout
      exact ⟨layout.1, h.valuesReach layout.2 (h.byteCount_stop_le shaped)⟩
    | fixed w =>
      rw [e] at layout
      exact ⟨layout.1, dictionary, h.valuesReach layout.2.2
        (Int.mul_le_mul_of_nonneg_right h.stop_le (Int.natCast_nonneg w))⟩
    | strings w =>
      rw [e] at layout
      exact ⟨layout.1, h.offsetsReach shaped e layout.2⟩
  ordered := by
    intro w i a b layout hi first second
    have inside := h.inside
    rw [h.stringOffset, ← Int.natCast_add] at first
    rw [h.stringOffset, ← Int.add_assoc, ← Int.natCast_add] at second
    exact shaped.ordered w (place + i) a b (h.layout ▸ layout) (by omega) first second
  fits := h.fits shaped.fits

lemma windowNulls_eq (h : c'.Within c 0) (whole : c'.length = c.length) :
    c'.windowNulls = c.windowNulls := by
  have offset : c'.offset = c.offset := by
    rw [h.offset, Int.natCast_zero, Int.add_zero]
  unfold windowNulls
  simp only [h.bitmap?, whole, offset, h.null_iff]

/-- A window has no more nulls than the column, and as many valid slots at most. -/
lemma windowNulls_le (h : c'.Within c place) (shaped : c.Shaped) :
    c'.windowNulls ≤ c.windowNulls ∧
      c'.length - c'.windowNulls ≤ c.length - c.windowNulls := by
  obtain ⟨offset, length, ho, hl, -⟩ := shaped.exists_window
  obtain ⟨n, hn⟩ := Int.eq_ofNat_of_zero_le h.length_nonneg
  have inside := h.inside
  unfold windowNulls
  rw [h.bitmap?]
  cases c.bitmap? with
  | some b =>
    have part : place + n ≤ length := by omega
    have ones := b.memory.ones_window offset part
    have place' : c'.offset.toNat = offset + place := by rw [h.offset]; omega
    simp only [ho, hl, hn, place', Int.toNat_natCast]
    omega
  | none =>
    simp only [h.null_iff]
    split
    · omega
    · omega

/-- Sound columns, one within the other, have the same valid slots. -/
lemma isValid (h : c'.Within c place) (sound : c.Sound) (sound' : c'.Sound)
    (stored : c.type ≠ .null) (hi : i < c'.length) : c'.isValid i = c.isValid (place + i) := by
  have inside := h.inside
  cases e : c.bitmap? with
  | none =>
    have valid := sound.valid_of_no_bitmap (i := place + i) stored e (by omega)
    rw [sound'.valid_of_no_bitmap (mt h.null_iff.1 stored) (h.bitmap?.trans e) hi]
    exact valid.symm
  | some b => rw [Column.isValid, Column.isValid, h.bitmap?, e, h.offset, Int.add_assoc]

end Within

section Slicing
variable {s : Column} {offset length : Int}

/-- The slice of a column with its offset as integers are added. -/
def window (c : Column) (offset length : Int) : Column :=
  { c with
    offset := c.offset + offset
    length := min length (c.length - offset)
    nullCount := c.countOfWindow offset (min length (c.length - offset)) }

/-- A slice is a window with its offset wrapped. -/
lemma slice_eq_ok : c.slice offset length = .ok s ↔ offset ≤ c.length ∧
    s = { c.window offset length with offset := (IntKind.int .w64).wrap (c.offset + offset) } := by
  unfold Column.slice
  rw [Checked.throw_eq_error, Checked.guard_eq_ok, Int.not_lt]
  refine and_congr_right fun _ => ?_
  rw [Checked.pure_eq_ok, Except.ok.injEq]
  exact eq_comm

/-- A slice is a window if the sum of the offsets is a 64-bit word. -/
lemma eq_window_of_slice (word : -2 ^ 63 ≤ c.offset + offset ∧ c.offset + offset < 2 ^ 63)
    (run : c.slice offset length = .ok s) : s = c.window offset length := by
  rw [(slice_eq_ok.1 run).2, IntKind.wrap_w64 word.1 word.2]
  rfl

/-- Inside a shaped column the sum of the offsets is a 64-bit word. -/
lemma Shaped.word_of_offset (h : c.Shaped) (lo : 0 ≤ offset) (hi : offset ≤ c.length) :
    -2 ^ 63 ≤ c.offset + offset ∧ c.offset + offset < 2 ^ 63 := by
  obtain ⟨start, n, first, length, lt⟩ := h.exists_window
  omega

lemma within_window (c : Column) (lo : 0 ≤ offset) (hi : offset ≤ c.length)
    (nonneg : 0 ≤ length) : (c.window offset length).Within c offset.toNat := by
  have place : (offset.toNat : Int) = offset := Int.toNat_of_nonneg lo
  refine ⟨rfl, rfl, ?_, ?_, ?_⟩
  · rw [place]
    rfl
  · exact Int.le_min.2 ⟨nonneg, by omega⟩
  · rw [place]
    have le : min length (c.length - offset) ≤ c.length - offset := Int.min_le_right ..
    change offset + min length (c.length - offset) ≤ c.length
    omega

lemma counted_within {out : Column} (h : c.Sound) (within : out.Within c place)
    (count : out.nullCount = c.countOfWindow place out.length) :
    out.storedCount = unknownCount ∨ out.storedCount = out.windowNulls := by
  by_cases null : out.type = .null
  · right
    rw [storedCount, windowNulls, Column.bitmap?, null]
    rfl
  have lo := within.length_nonneg
  have bounds := within.windowNulls_le h.shaped
  have whole := windowNulls_bounds h.shaped.length_nonneg
  have part := windowNulls_bounds lo
  rw [storedCount_eq out null, count, countOfWindow]
  have counted := h.counted_window
  have unknown : unknownCount = -1 := rfl
  -- Nulls only, the whole column, no nulls, and any other window.
  split
  · right
    omega
  · split
    · next whole =>
      obtain ⟨start, whole⟩ := whole
      rw [Int.natCast_eq_zero] at start
      subst start
      rw [within.windowNulls_eq whole]
      exact counted
    · split
      · right
        omega
      · exact .inl rfl

end Slicing

end Column

end Columnar
