import Mathlib.Data.List.ReduceOption
import Mathlib.Tactic.Common
import Columnar.Column.Value
import Columnar.Proofs.Column.Slice

/-!
# Slices whose offset wraps

A slice of a column that does not pass validation may begin past the last 64-bit word, so that its
offset wraps. None of its slots can be read then, and none could before: they were behind the end of
every buffer and are in front of all of them now (`Column.Outside`). So a slice of any column that a
machine can hold (`Column.Addressable`) has the slots of the column from its place on, and shows its
nulls (`Column.Addressable.shows_slice`).
-/

namespace Columnar

namespace Bytes
variable {b : Bytes} {p : Int}

/-- A bit in front of all bytes or behind them cannot be read. -/
lemma getBit_of_outside (h : p < 0 ∨ 8 * b.size ≤ p) : b.getBit p = .error .stray := by
  rw [getBit, read, dif_neg (by omega)]
  rfl

lemma span_of_outside {w : Nat} (pos : 0 < w) (h : p < 0 ∨ b.size ≤ p) :
    b.span (p * w) w = .error .stray := by
  rw [span, if_neg (by omega), if_neg ?_]
  · rfl
  · rintro ⟨lo, -, inside⟩
    rcases h with before | behind
    · have negative : p * w < 0 := Int.mul_neg_of_neg_of_pos before (Int.natCast_pos.2 pos)
      omega
    · have further : p * 1 ≤ p * w := Int.mul_le_mul_of_nonneg_left (by omega) (by omega)
      omega

lemma integer_of_outside (k : IntKind) (h : p < 0 ∨ b.size ≤ p) :
    b.integer k p = .error .stray := by
  rw [integer, word, span_of_outside k.width.bytes_pos h]
  rfl

end Bytes

namespace Column
variable {c c' s : Column} {i : Int} {offset length : Int}

/-- Whether a machine can hold a column: the window is named by 64-bit words, and such words number
the bits of each buffer. -/
structure Addressable (c : Column) : Prop where
  offset : -2 ^ 63 ≤ c.offset ∧ c.offset < 2 ^ 63
  length : c.length < 2 ^ 63
  bits : ∀ b ∈ c.buffers.reduceOption, 8 * b.memory.size ≤ 2 ^ 63

/-- Whether slot `i` is in front of all buffers or behind them. -/
def Outside (c : Column) (i : Int) : Prop :=
  ∀ n, c.offset + i < 0 ∨ 8 * (c.memory n).size ≤ c.offset + i

namespace Outside

lemma buffer {b : Buffer} {n : Nat} (h : c.Outside i) (found : c.buffer? n = some b) :
    c.offset + i < 0 ∨ 8 * b.memory.size ≤ c.offset + i := by
  have outside := h n
  rw [memory, found] at outside
  exact outside

lemma isValid {b : Buffer} (h : c.Outside i) (found : c.bitmap? = some b) :
    c.isValid i = .error .stray := by
  rw [Column.isValid, found]
  exact Bytes.getBit_of_outside (h.buffer (buffer?_of_bitmap? found))

lemma integer (h : c.Outside i) (k : IntKind) : c.integer k i = .error .stray := by
  unfold Column.integer
  cases found : c.buffer? 1 with
  | none => rfl
  | some b =>
    have outside := h.buffer found
    exact Bytes.integer_of_outside k (by omega)

lemma cell (h : c.Outside i) : c.cell i = .error .stray := by
  have values := h 1
  unfold Column.cell
  cases layout : c.type.layout with
  | empty => rfl
  | bits =>
    simp only [Bytes.getBit_of_outside values]
    rfl
  | fixed w =>
    have outside : c.offset + i < 0 ∨ (c.memory 1).size ≤ c.offset + i := by omega
    simp only [Bytes.span_of_outside (DataType.width_pos layout) outside]
    rfl
  | strings w =>
    -- An offset is an integer of the second buffer, as a key is.
    have offset : c.stringOffset w i = .error .stray := h.integer (.int w)
    simp only [offset]
    rfl

/-- No slot outside all buffers has a value. -/
lemma value (h : c.Outside i) : c.value i = .error .stray := by
  unfold Column.value key
  cases type : c.type with
  | dictionary k value ordered =>
    simp only [h.integer]
    rfl
  | _ =>
    simp only [h.cell]
    rfl

end Outside

namespace Addressable

lemma memory (h : c.Addressable) (n : Nat) : 8 * (c.memory n).size ≤ 2 ^ 63 := by
  rw [Column.memory]
  cases found : c.buffer? n with
  | none => exact Nat.zero_le _
  | some b =>
    have mem : some b ∈ c.buffers := List.mem_of_getElem? (Option.join_eq_some_iff.1 found)
    exact h.bits b (List.reduceOption_mem_iff.2 mem)

/-- A slice has the slots of a window, whether or not its offset wraps. -/
lemma slot_of_slice (h : c.Addressable) (lo : 0 ≤ offset)
    (run : c.slice offset length = .ok s) {p : Nat} (hp : p < s.length) :
    s.isValid p = (c.window offset length).isValid p ∧
      s.value p = (c.window offset length).value p := by
  obtain ⟨first, last⟩ := h.offset
  by_cases word : c.offset + offset < 2 ^ 63
  · rw [eq_window_of_slice ⟨by omega, word⟩ run]
    exact ⟨rfl, rfl⟩
  · have width := length_of_slice run
    have most := h.length
    obtain ⟨hi, made⟩ := slice_eq_ok.1 run
    -- As an unsigned word the sum is what it is, so as a signed one it is negative.
    have wrapped : s.offset = c.offset + offset - 2 ^ 64 := by
      rw [made]
      refine (IntKind.wrap_word_of_holds (k := .uint .w64)
        (IntKind.holds_iff.2 ⟨?_, ?_⟩)).trans (if_neg word)
      · exact Int.le_trans (by decide) (Int.not_lt.1 word)
      · exact Int.le_trans (by omega : c.offset + offset ≤ 2 ^ 64 - 1) (by decide)
    have behind : (c.window offset length).Outside p := fun n => by
      have room : 8 * ((c.window offset length).memory n).size ≤ 2 ^ 63 := h.memory n
      change c.offset + offset + p < 0 ∨ _ ≤ c.offset + offset + p
      omega
    have before : s.Outside p := fun n => by
      rw [wrapped]
      omega
    refine ⟨?_, before.value.trans behind.value.symm⟩
    have same : s.bitmap? = (c.window offset length).bitmap? := by rw [made]; rfl
    cases found : (c.window offset length).bitmap? with
    | some b => rw [before.isValid (same.trans found), behind.isValid found]
    | none =>
      rw [isValid_of_no_bitmap (same.trans found), isValid_of_no_bitmap found, made]
      rfl

/-- A slice shows the valid slots of its column from its place on, and has no wrong null count. -/
lemma shows_slice (h : c.Addressable) (counted : c.Counted) (lo : 0 ≤ offset)
    (nonneg : 0 ≤ length) (run : c.slice offset length = .ok s) : s.Shows c offset.toNat := by
  obtain ⟨hi, made⟩ := slice_eq_ok.1 run
  have window := windowOf_window counted lo hi nonneg
  have width : s.length = (c.window offset length).length := by rw [made]
  have valid {p : Nat} (hp : p < s.length) := (h.slot_of_slice lo run hp).1
  have stored : s.storedCount = (c.window offset length).storedCount := by rw [made]; rfl
  have nulls : s.nullSlots = (c.window offset length).nullSlots :=
    nullSlots_congr width fun p hp => by rw [valid (width ▸ hp)]
  refine ⟨width ▸ window.length_nonneg, width ▸ window.inside, ?_, fun p hp => ?_⟩
  · rw [Counted, stored, nulls]
    exact window.counted
  · rw [valid hp]
    exact window.isValid p (width ▸ hp)

end Addressable

/-- A column that can be sliced, and sliced again, with its nulls counted on the way. -/
structure Sliceable (c : Column) : Prop where
  length_nonneg : 0 ≤ c.length
  addressable : c.Addressable
  counted : c.Counted
  countable : c.Countable

namespace Sliceable

/-- Storing the null count keeps a column sliceable. -/
lemma fills (h : c.Sliceable) (filled : c.Fills c') : c'.Sliceable ∧ c'.Shows c 0 := by
  have window := filled.windowOf h.counted h.countable h.length_nonneg
  have addressable : c'.Addressable := by
    cases filled with
    | kept => exact h.addressable
    | filled => exact ⟨h.addressable.offset, h.addressable.length, h.addressable.bits⟩
  exact ⟨⟨window.length_nonneg, addressable, window.counted, window.countable h.countable⟩,
    window.toShows⟩

/-- So does slicing. Where there is a bitmap to count in, the offset of a slice does not wrap. -/
lemma slice (h : c.Sliceable) (lo : 0 ≤ offset) (nonneg : 0 ≤ length)
    (run : c.slice offset length = .ok s) : s.Sliceable ∧ s.Shows c offset.toNat := by
  obtain ⟨hi, made⟩ := slice_eq_ok.1 run
  have shows := h.addressable.shows_slice h.counted lo nonneg run
  have width := length_of_slice run
  have addressable : s.Addressable := by
    have word := IntKind.holds_iff.1 (IntKind.holds_wrap (.int .w64) (c.offset + offset))
    have most := h.addressable.length
    refine ⟨?_, by omega, ?_⟩
    · rw [made]
      exact ⟨word.1, Int.lt_of_le_sub_one word.2⟩
    · rw [made]
      exact h.addressable.bits
  refine ⟨⟨shows.length_nonneg, addressable, shows.counted, fun b found => ?_⟩, shows⟩
  have same : s.bitmap? = c.bitmap? := by rw [made]; rfl
  obtain ⟨start, reach, aligned⟩ := h.countable b (same.symm.trans found)
  rw [stop] at reach aligned
  have word : -2 ^ 63 ≤ c.offset + offset ∧ c.offset + offset < 2 ^ 63 := by omega
  rw [eq_window_of_slice word run] at found ⊢
  exact (partOf_window c lo hi nonneg).countable h.countable b found

lemma countNulls_eq (h : c.Sliceable) : c.countNulls = .ok c.nullSlots :=
  h.counted.countNulls_eq h.countable h.length_nonneg

end Sliceable

end Column

end Columnar
