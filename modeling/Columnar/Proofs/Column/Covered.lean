import Mathlib.Tactic.Common
import Columnar.Column.Cell
import Columnar.Proofs.Bits.Bitmap
import Columnar.Proofs.IntKind

/-!
# Covered columns

A column is covered when its buffers reach over its window: `Column.Covered` asks this of the
validity bitmap and of the values or offsets, and of nothing else. Null counts may be anything, and
the data of byte strings need not exist. Slots of a covered column can be read as far as those
buffers go. The length of a byte string is right if an offset can say it (`Column.LengthFits`), as
it can where the first offset of the window is not negative.
-/

namespace Columnar

/-- The bytes of the values or offsets that a window up to slot `stop` takes. -/
def Layout.reach (stop : Int) : Layout → Int
  | .empty => 0
  | .bits => (stop + 7) / 8
  | .fixed w => stop * w
  | .strings w => (stop + 1) * w.bytes

/-- A window that ends earlier takes no more bytes. -/
lemma Layout.reach_le {m n : Int} (l : Layout) (le : m ≤ n) : l.reach m ≤ l.reach n := by
  cases l with
  | empty => exact Int.le_refl 0
  | bits => exact Int.ediv_le_ediv (by decide) (Int.add_le_add_right le 7)
  | fixed w => exact Int.mul_le_mul_of_nonneg_right le (Int.natCast_nonneg w)
  | strings w =>
    exact Int.mul_le_mul_of_nonneg_right (Int.add_le_add_right le 1) (Int.natCast_nonneg _)

namespace DataType

/-- A value takes sixteen bytes at most. -/
lemma width_le {t : DataType} {w : Nat} (layout : t.layout = .fixed w) : w ≤ 16 := by
  have le (v : Width) : v.bytes ≤ 16 := by cases v <;> decide
  cases t with
  | int kind =>
    cases layout
    exact le _
  | dictionary kind value ordered =>
    cases layout
    exact le _
  | _ => cases layout <;> decide

/-- A value of fixed width takes one byte at least. -/
lemma width_pos {t : DataType} {w : Nat} (layout : t.layout = .fixed w) : 0 < w := by
  cases t with
  | int kind =>
    cases layout
    exact kind.width.bytes_pos
  | dictionary kind value ordered =>
    cases layout
    exact kind.width.bytes_pos
  | _ => cases layout <;> decide

/-- Values or offsets take sixteen bytes at most for each slot up to the end of a window, and
one. -/
lemma reach_le (t : DataType) {stop : Int} (lo : 0 ≤ stop) :
    t.layout.reach stop ≤ (stop + 1) * 16 := by
  cases layout : t.layout with
  | empty =>
    rw [Layout.reach]
    omega
  | bits =>
    rw [Layout.reach]
    omega
  | fixed w =>
    have narrow : stop * (w : Int) ≤ stop * 16 :=
      Int.mul_le_mul_of_nonneg_left (Int.ofNat_le.2 (width_le layout)) lo
    rw [Layout.reach]
    omega
  | strings w =>
    cases w <;> simp only [Layout.reach, Width.bytes] <;> omega

end DataType

namespace Column

/-- The offsets of the window never decrease. -/
def Ordered (c : Column) : Prop :=
  ∀ (w : Width) (i : Nat) (a b : Int), c.type.layout = .strings w → i < c.length →
    c.stringOffset w i = .ok a → c.stringOffset w (i + 1) = .ok b → a ≤ b

/-- The offsets of the byte string in slot `i` are no further apart than an offset can say. -/
def LengthFits (c : Column) (w : Width) (i : Int) : Prop :=
  ∀ a b : Int, c.stringOffset w i = .ok a → c.stringOffset w (i + 1) = .ok b →
    b - a ≤ (IntKind.int w).max

/-- Bitmap, values and offsets reach over the window, which is a window. -/
structure Covered (c : Column) : Prop where
  offset_nonneg : 0 ≤ c.offset
  length_nonneg : 0 ≤ c.length
  bitmap : ∀ b, c.bitmap? = some b → c.stop ≤ 8 * b.memory.size
  values : 0 < c.length → c.type.layout.reach c.stop ≤ (c.memory 1).size
  ordered : c.Ordered
  encoded : c.type.isDictionary = true → c.dictionary.isSome = true

/-- Every slot can be read, valid or not, and a dictionary that has to be there is there. -/
structure Readable (c : Column) : Prop where
  cell : c.type.layout ≠ .empty → ∀ i : Nat, i < c.length → ∃ x, c.cell i = .ok x
  encoded : c.type.isDictionary = true → c.dictionary.isSome = true

variable {c : Column} {i : Nat} {w : Nat}

lemma ordered_of_no_strings (plain : ∀ w, c.type.layout ≠ .strings w) : c.Ordered :=
  fun w _ _ _ layout => absurd layout (plain w)

/-- A buffer has no more bytes than its memory. -/
lemma size_le_memory (c : Column) (n : Nat) :
    ((c.buffer? n).map Buffer.size).getD 0 ≤ (c.memory n).size := by
  rw [memory]
  cases c.buffer? n with
  | none => exact Nat.zero_le _
  | some b => exact b.size_le

lemma cell_of_bits (layout : c.type.layout = .bits) (i : Int) :
    c.cell i = (do return .bit (← (c.memory 1).getBit (c.offset + i))) := by
  rw [cell, layout]

lemma cell_of_fixed (layout : c.type.layout = .fixed w) (i : Int) :
    c.cell i = (do return .bytes (← (c.memory 1).span ((c.offset + i) * w) w)) := by
  rw [cell, layout]

/-- The length of a byte string is how far its offsets are apart, if they do not decrease and an
offset can say it. -/
lemma stringLength_eq {v : Width} {i a b : Int} (first : c.stringOffset v i = .ok a)
    (second : c.stringOffset v (i + 1) = .ok b) (le : a ≤ b)
    (fits : b - a ≤ (IntKind.int v).max) : c.stringLength v i = .ok (b - a) := by
  have least := (IntKind.int v).min_nonpos
  rw [stringLength, first, second]
  exact congrArg Except.ok (IntKind.wrap_int (by omega) fits)

/-- A byte string whose length is not negative is read from where its offset says. -/
lemma cell_of_strings {v : Width} {i a : Int} {n : Nat} (layout : c.type.layout = .strings v)
    (first : c.stringOffset v i = .ok a) (length : c.stringLength v i = .ok n) :
    c.cell i = (do return .bytes (← c.stringData a n)) := by
  rw [cell, layout]
  simp only [first, length, Checked.ok_bind]
  rw [if_neg (by omega)]

/-- A slot is read as nothing if it is null, and as its cell if it is valid. -/
lemma slot_eq_ok {j : Int} {s : Option Cell} : c.slot j = .ok s ↔
    (c.isValid j = .ok false ∧ s = none) ∨
      ∃ x, c.isValid j = .ok true ∧ c.cell j = .ok x ∧ s = some x := by
  unfold slot
  cases c.isValid j with
  | error e => simp
  | ok b =>
    cases b with
    | false => simp [eq_comm]
    | true => cases c.cell j <;> simp [eq_comm]

/-- Without a bitmap the slots are all valid or all null, by the null count alone. -/
lemma isValid_of_no_bitmap (none : c.bitmap? = none) (j : Int) :
    c.isValid j = .ok (c.storedCount != c.length) := by
  rw [isValid, none]
  rfl

/-- An integer that can be read is one of its kind. -/
lemma holds_of_integer {k : IntKind} {j v : Int} (h : c.integer k j = .ok v) :
    k.holds v = true := by
  unfold integer at h
  split at h
  · exact Bytes.holds_of_integer h
  · cases h

/-- A bitmap is the first buffer. -/
lemma buffer?_of_bitmap? {b : Buffer} (h : c.bitmap? = some b) : c.buffer? 0 = some b := by
  unfold bitmap? at h
  split at h
  · cases h
  · exact h

/-- A buffer that reaches anywhere is there. -/
lemma exists_buffer {n : Nat} (h : 0 < (c.memory n).size) :
    ∃ b, c.buffer? n = some b ∧ c.memory n = b.memory := by
  cases e : c.buffer? n with
  | none =>
    rw [memory, e] at h
    cases h
  | some b => exact ⟨b, rfl, by rw [memory, e]; rfl⟩

/-- An index or key is what the bytes of its slot spell. -/
lemma integer_eq_ok {k : IntKind} {j v : Int} (layout : c.type.layout = .fixed k.width.bytes) :
    c.integer k j = .ok v ↔
      ∃ x, c.cell j = .ok (.bytes x) ∧ v = k.decode (Bytes.toNat x.toList) := by
  rw [cell_of_fixed layout, integer, memory]
  cases c.buffer? 1 with
  | none =>
    have nothing : Bytes.span #[] ((c.offset + j) * k.width.bytes) k.width.bytes =
        .error .stray := Bytes.span_empty _ k.width.bytes_pos
    simp [nothing]
  | some b =>
    simp only [Option.map_some, Option.getD_some, Bytes.integer, Bytes.word]
    cases b.memory.span ((c.offset + j) * k.width.bytes) k.width.bytes <;> simp [eq_comm]

namespace Covered

lemma exists_isValid (h : c.Covered) (hi : i < c.length) : ∃ v, c.isValid i = .ok v := by
  unfold isValid
  cases e : c.bitmap? with
  | none => exact ⟨_, rfl⟩
  | some b =>
    have reach := h.bitmap b e
    have lo := h.offset_nonneg
    unfold stop at reach
    exact ⟨_, Bytes.getBit_of_nonneg (by omega) (by omega)⟩

lemma exists_bit (h : c.Covered) (layout : c.type.layout = .bits) (hi : i < c.length) :
    ∃ v, (c.memory 1).getBit (c.offset + i) = .ok v := by
  have reach := h.values (by omega)
  have lo := h.offset_nonneg
  simp only [layout, Layout.reach, stop] at reach
  exact ⟨_, Bytes.getBit_of_nonneg (by omega) (by omega)⟩

/-- The place of a slot of `w` bytes ends inside the values. -/
lemma exists_place (h : c.Covered) (layout : c.type.layout = .fixed w) (hi : i < c.length) :
    ∃ s : Nat, c.offset + i = s ∧ s * w + w ≤ (c.memory 1).size := by
  have reach := h.values (by omega)
  have lo := h.offset_nonneg
  obtain ⟨s, hs⟩ := Int.eq_ofNat_of_zero_le (by omega : 0 ≤ c.offset + i)
  refine ⟨s, hs, ?_⟩
  simp only [layout, Layout.reach, stop] at reach
  have le : (s + 1 : Int) * w ≤ (c.offset + c.length) * w :=
    Int.mul_le_mul_of_nonneg_right (by omega) (by omega)
  rw [Int.add_mul, Int.one_mul] at le
  have fits := Int.le_trans le reach
  exact_mod_cast fits

/-- The place of an offset ends inside the offsets. -/
lemma exists_offsetPlace {w : Width} (h : c.Covered) (layout : c.type.layout = .strings w)
    (hi : i ≤ c.length) (pos : 0 < c.length) :
    ∃ s : Nat, c.offset + i = s ∧ s * w.bytes + w.bytes ≤ (c.memory 1).size := by
  have reach := h.values pos
  have lo := h.offset_nonneg
  obtain ⟨s, hs⟩ := Int.eq_ofNat_of_zero_le (by omega : 0 ≤ c.offset + i)
  refine ⟨s, hs, ?_⟩
  simp only [layout, Layout.reach, stop] at reach
  have le : (s + 1 : Int) * w.bytes ≤ (c.offset + c.length + 1) * w.bytes :=
    Int.mul_le_mul_of_nonneg_right (by omega) (by omega)
  rw [Int.add_mul, Int.one_mul] at le
  have fits := Int.le_trans le reach
  exact_mod_cast fits

lemma exists_bytes (h : c.Covered) (layout : c.type.layout = .fixed w) (hi : i < c.length) :
    ∃ v, (c.memory 1).span ((c.offset + i) * w) w = .ok v := by
  obtain ⟨s, hs, fits⟩ := h.exists_place layout hi
  rw [hs, ← Int.natCast_mul]
  exact ⟨_, Bytes.span_eq fits⟩

lemma exists_cell (h : c.Covered) (layout : c.type.layout = .bits ∨ c.type.layout = .fixed w)
    (hi : i < c.length) : ∃ v, c.cell i = .ok v := by
  rcases layout with layout | layout
  · obtain ⟨v, read⟩ := h.exists_bit layout hi
    exact ⟨.bit v, by rw [cell_of_bits layout, read]; rfl⟩
  · obtain ⟨v, read⟩ := h.exists_bytes layout hi
    exact ⟨.bytes v, by rw [cell_of_fixed layout, read]; rfl⟩

lemma exists_integer {k : IntKind} (h : c.Covered) (layout : c.type.layout = .fixed k.width.bytes)
    (hi : i < c.length) : ∃ v, c.integer k i = .ok v := by
  obtain ⟨x, read⟩ := h.exists_bytes layout hi
  exact ⟨_, (integer_eq_ok layout).2 ⟨x, by rw [cell_of_fixed layout, read]; rfl, rfl⟩⟩

lemma exists_stringOffset {w : Width} (h : c.Covered) (layout : c.type.layout = .strings w)
    (hi : i ≤ c.length) (pos : 0 < c.length) : ∃ v, c.stringOffset w i = .ok v := by
  obtain ⟨s, hs, fits⟩ := h.exists_offsetPlace layout hi pos
  obtain ⟨b, e, same⟩ := exists_buffer (c := c) (n := 1) (by have := w.bytes_pos; omega)
  have read := Bytes.span_eq fits
  rw [same] at read
  unfold stringOffset
  rw [e, hs]
  exact ⟨_, Bytes.integer_of_span (k := .int w) (by rw [← Int.natCast_mul]; exact read)⟩

/-- Offsets of the window never decrease, however far apart they are. -/
lemma stringOffset_le {w : Width} {j : Nat} {a b : Int} (h : c.Covered)
    (layout : c.type.layout = .strings w) (hij : i ≤ j) (hj : j ≤ c.length) (pos : 0 < c.length)
    (first : c.stringOffset w i = .ok a) (second : c.stringOffset w j = .ok b) : a ≤ b := by
  induction j generalizing b with
  | zero =>
    rw [Nat.le_zero.1 hij, second] at first
    cases first
    exact Int.le_refl _
  | succ j ih =>
    by_cases last : i = j + 1
    · rw [last, second] at first
      cases first
      exact Int.le_refl _
    · obtain ⟨m, middle⟩ := h.exists_stringOffset layout (i := j) (by omega) pos
      have le := ih (by omega) (by omega) middle
      exact Int.le_trans le (h.ordered w j m b layout (by omega) middle second)

/-- The length of a byte string can be read and is how far its offsets are apart. -/
lemma exists_stringLength {w : Width} (h : c.Covered) (layout : c.type.layout = .strings w)
    (hi : i < c.length) (fits : c.LengthFits w i) :
    ∃ (a : Int) (n : Nat), c.stringOffset w i = .ok a ∧ c.stringOffset w (i + 1) = .ok (a + n) ∧
      c.stringLength w i = .ok n := by
  obtain ⟨a, first⟩ := h.exists_stringOffset layout (i := i) (by omega) (by omega)
  obtain ⟨b, second⟩ := h.exists_stringOffset layout (i := i + 1) (by omega) (by omega)
  have next : ((i + 1 : Nat) : Int) = i + 1 := by omega
  rw [next] at second
  have le := h.ordered w i a b layout hi first second
  obtain ⟨n, hn⟩ := Int.eq_ofNat_of_zero_le (Int.sub_nonneg.2 le)
  have length := stringLength_eq first second le (fits a b first second)
  obtain rfl : b = a + n := by omega
  exact ⟨a, n, first, second, hn ▸ length⟩

end Covered

end Column

end Columnar
