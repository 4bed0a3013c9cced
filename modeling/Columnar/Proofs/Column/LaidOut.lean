import Mathlib.Tactic.Common
import Mathlib.Data.List.Basic
import Columnar.Column.Validate
import Columnar.Proofs.Column.Covered
import Columnar.Proofs.Memory.Buffer

/-!
# Columns laid out afresh

`Column.laidOut` is the column that holds given slots and nothing else: its window begins at zero,
null slots are cleared, bitmap and values take as many bytes as they need. Slots are read back from
it as they were given.
-/

namespace Columnar

namespace Cell

/-- What stands for a null slot: a clear bit, zero bytes or the empty string. -/
def cleared : Layout → Cell
  | .bits => .bit false
  | .fixed w => .bytes (Bytes.zeros w)
  | .empty | .strings _ => .bytes #[]

/-- Whether a cell can stand in a column of a layout. -/
def Fits : Layout → Cell → Prop
  | .bits, bit _ => True
  | .fixed w, bytes b => b.size = w
  | .strings _, bytes _ => True
  | _, _ => False

/-- The bit of a cell that is one. -/
def isSet : Cell → Bool
  | bit b => b
  | bytes _ => false

/-- The bytes of a cell that is made of bytes. -/
def contents : Cell → List UInt8
  | bit _ => []
  | bytes b => b.toList

/-- The number of bytes of a cell that is made of bytes. -/
def size (c : Cell) : Nat := c.contents.length

lemma fits_cleared {l : Layout} (h : l ≠ .empty) : (cleared l).Fits l := by
  cases l with
  | empty => exact absurd rfl h
  | bits => trivial
  | fixed w => exact Bytes.size_zeros w
  | strings w => trivial

lemma eq_bit {c : Cell} (h : c.Fits .bits) : c = .bit c.isSet := by
  cases c with
  | bit b => rfl
  | bytes b => cases h

lemma eq_bytes {c : Cell} {w : Nat} (h : c.Fits (.fixed w)) :
    c = .bytes c.contents.toArray ∧ c.size = w := by
  cases c with
  | bit b => cases h
  | bytes b => exact ⟨rfl, h⟩

lemma eq_string {c : Cell} {w : Width} (h : c.Fits (.strings w)) :
    c = .bytes c.contents.toArray := by
  cases c with
  | bit b => cases h
  | bytes b => rfl

end Cell

namespace Layout

/-- The offsets of strings of given lengths, from zero on. -/
def offsets (w : Width) (sizes : List Nat) : List UInt8 :=
  (List.range (sizes.length + 1)).flatMap fun i => (Bytes.ofInt w.bytes (sizes.take i).sum).toList

/-- The buffers behind the bitmap, for given cells. -/
def buffers (cells : List Cell) : Layout → List Buffer
  | .empty => []
  | .bits => [.packed (.ofBits (cells.map Cell.isSet))]
  | .fixed _ => [.packed (cells.flatMap Cell.contents).toArray]
  | .strings w =>
    [.packed (offsets w (cells.map Cell.size)).toArray,
      .packed (cells.flatMap Cell.contents).toArray]

variable {w : Width} {sizes : List Nat}

lemma length_offsets : (offsets w sizes).length = (sizes.length + 1) * w.bytes := by
  rw [offsets, Bytes.length_flatMap_of_uniform (w := w.bytes) fun i _ => by simp,
    List.length_range]

/-- One more string adds the offset behind it. -/
lemma offsets_concat (n : Nat) :
    offsets w (sizes ++ [n]) = offsets w sizes ++ (Bytes.ofInt w.bytes (sizes.sum + n)).toList := by
  have before : ∀ i ∈ List.range (sizes.length + 1), (sizes ++ [n]).take i = sizes.take i := by
    intro i hi
    rw [List.mem_range] at hi
    exact List.take_append_of_le_length (by omega)
  rw [offsets, List.length_append, List.length_singleton, List.range_succ, List.flatMap_append,
    List.flatMap_singleton, List.take_of_length_le (by simp), List.sum_append, List.sum_singleton,
    Int.natCast_add, offsets]
  congr 1
  exact List.flatMap_congr fun i hi => by rw [before i hi]

/-- An offset is read back if the last one fits the width. -/
lemma integer_offsets {b : Bytes} {tail : List UInt8} {i : Nat}
    (e : b.toList = offsets w sizes ++ tail) (hi : i ≤ sizes.length)
    (fits : (sizes.sum : Int) ≤ (IntKind.int w).max) :
    b.integer (.int w) i = .ok (sizes.take i).sum := by
  have place : (List.range (sizes.length + 1))[i]? = some i :=
    List.getElem?_range (by omega)
  have read := Bytes.span_flatMap (w := w.bytes) place (fun j _ => by simp) e
  have whole := congrArg List.sum (List.take_append_drop i sizes)
  rw [List.sum_append] at whole
  have lo := (IntKind.int w).min_nonpos
  have holds : (IntKind.int w).holds (sizes.take i).sum = true := by
    rw [IntKind.holds_iff]
    omega
  rw [Bytes.integer_of_span (k := .int w) read]
  exact congrArg Except.ok (Bytes.decode_ofInt holds)

end Layout

namespace Column

/-- The cells that buffers hold for given slots: null slots are cleared. -/
def physical (t : DataType) (slots : List (Option Cell)) : List Cell :=
  slots.map fun s => s.getD (.cleared t.layout)

/-- The bytes of given slots in a row. -/
def contents (t : DataType) (slots : List (Option Cell)) : List UInt8 :=
  (physical t slots).flatMap Cell.contents

/-- The lengths of given slots. -/
def sizes (t : DataType) (slots : List (Option Cell)) : List Nat :=
  (physical t slots).map Cell.size

lemma contents_append (t : DataType) (a b : List (Option Cell)) :
    contents t (a ++ b) = contents t a ++ contents t b := by
  rw [contents, physical, List.map_append, List.flatMap_append]
  rfl

lemma contents_singleton (t : DataType) (s : Option Cell) :
    contents t [s] = (s.getD (.cleared t.layout)).contents :=
  List.append_nil _

lemma sizes_append (t : DataType) (a b : List (Option Cell)) :
    sizes t (a ++ b) = sizes t a ++ sizes t b := by
  rw [sizes, physical, List.map_append, List.map_append]
  rfl

@[simp] lemma length_sizes (t : DataType) (slots : List (Option Cell)) :
    (sizes t slots).length = slots.length := by
  rw [sizes, List.length_map, physical, List.length_map]

/-- One more slot adds its length. -/
lemma sum_take_sizes {t : DataType} {slots : List (Option Cell)} {i : Nat} {s : Option Cell}
    (hs : slots[i]? = some s) : ((sizes t slots).take (i + 1)).sum =
      ((sizes t slots).take i).sum + (s.getD (.cleared t.layout)).size := by
  have size : (sizes t slots)[i]? = some (s.getD (.cleared t.layout)).size := by
    rw [sizes, physical, List.map_map, List.getElem?_map, hs]
    rfl
  rw [List.take_add_one, size, List.sum_append, Option.toList_some, List.sum_singleton]

lemma sum_sizes (t : DataType) (slots : List (Option Cell)) :
    (sizes t slots).sum = (contents t slots).length :=
  List.length_flatMap.symm

/-- The column that holds given slots and nothing else. -/
def laidOut (type : DataType) (slots : List (Option Cell)) (bitmap : Bool)
    (dictionary : Option Column) : Column where
  type
  length := slots.length
  offset := 0
  nullCount := slots.countP Option.isNone
  buffers :=
    (if bitmap then some (.packed (.ofBits (slots.map Option.isSome))) else none) ::
      (type.layout.buffers (physical type slots)).map some
  dictionary

/-- The integer column of given slots. -/
def ofInts (k : IntKind) (slots : List (Option Int)) : Column :=
  laidOut (.int k) (slots.map (Option.map fun v => .bytes (Bytes.ofInt k.width.bytes v))) true none

/-- Whether a column of a type can hold given slots. Without a bitmap all of them are valid or all
are null, since the null count is all that tells. -/
structure Holds (type : DataType) (slots : List (Option Cell)) (bitmap : Bool) : Prop where
  stored : type.layout ≠ .empty
  cells : ∀ c, some c ∈ slots → c.Fits type.layout
  nulls : bitmap = false → none ∉ slots ∨ ∀ s ∈ slots, s = none
  strings : ∀ w, type.layout = .strings w →
    ((contents type slots).length : Int) ≤ (IntKind.int w).max

section Reading
variable {t : DataType} {slots : List (Option Cell)} {bitmap : Bool} {d : Option Column} {i : Nat}
  {s : Option Cell}

lemma layout_eq_empty : t.layout = .empty ↔ t = .null := by
  constructor
  · intro h
    cases t with
    | null => rfl
    | _ => cases h
  · rintro rfl
    rfl

lemma type_ne_null (h : t.layout ≠ .empty) : t ≠ .null := mt layout_eq_empty.2 h

lemma bitmap?_eq (c : Column) (h : c.type ≠ .null) : c.bitmap? = c.buffer? 0 := by
  unfold bitmap?
  split
  · next e => exact absurd e h
  · rfl

lemma storedCount_eq (c : Column) (h : c.type ≠ .null) : c.storedCount = c.nullCount := by
  unfold storedCount
  split
  · next e => exact absurd e h
  · rfl

lemma storedCount_of_null {c : Column} (h : c.type = .null) : c.storedCount = c.length := by
  rw [storedCount, h]

/-- A column that has the dictionary that its type calls for can be opened. -/
lemma opened_eq {c : Column} (encoded : c.type.isDictionary = true → c.dictionary.isSome = true) :
    c.opened = .ok (c.withNullCount c.storedCount) := by
  have there : ¬ (c.type.isDictionary = true ∧ c.dictionary.isNone = true) := by
    rintro ⟨dictionary, none⟩
    have some := encoded dictionary
    rw [← Option.not_isNone, none] at some
    cases some
  exact if_neg there

/-- Opening a column changes nothing but its null count. -/
lemma eq_of_opened {c c' : Column} (h : c.opened = .ok c') :
    c' = c.withNullCount c.storedCount := by
  unfold opened at h
  rw [Checked.throw_eq_error, Checked.guard_eq_ok] at h
  cases h.2
  rfl

/-- A byte string that was read has a length that is not negative, and bytes where its offset
says. -/
lemma string_of_cell {c : Column} {w : Width} {j : Int} {x : Cell}
    (layout : c.type.layout = .strings w) (h : c.cell j = .ok x) :
    ∃ (a : Int) (b : Bytes), c.stringOffset w j = .ok a ∧ c.stringLength w j = .ok b.size ∧
      c.stringData a b.size = .ok b ∧ x = .bytes b := by
  rw [cell, layout] at h
  obtain ⟨a, first, h⟩ := Checked.bind_eq_ok.1 h
  obtain ⟨m, length, h⟩ := Checked.bind_eq_ok.1 h
  rw [Checked.throw_eq_error] at h
  split at h
  · cases h
  · obtain ⟨b, read, e⟩ := Checked.bind_eq_ok.1 h
    cases e
    have size := Bytes.size_of_span read
    exact ⟨a, b, first, size ▸ length, size ▸ read, rfl⟩

lemma fits_of_cell {c : Column} {j : Int} {x : Cell} (h : c.cell j = .ok x) :
    x.Fits c.type.layout := by
  cases layout : c.type.layout with
  | empty =>
    rw [cell, layout] at h
    cases h
  | bits =>
    rw [cell_of_bits layout] at h
    obtain ⟨b, -, e⟩ := Checked.bind_eq_ok.1 h
    cases e
    trivial
  | fixed w =>
    rw [cell_of_fixed layout] at h
    obtain ⟨b, read, e⟩ := Checked.bind_eq_ok.1 h
    cases e
    exact Int.ofNat_inj.1 (Bytes.size_of_span read)
  | strings w =>
    obtain ⟨a, b, -, -, -, e⟩ := string_of_cell layout h
    rw [e]
    trivial

/-- A column whose type can hold values is made of its parts, with no nulls where their number is
unknown and there is no bitmap. -/
lemma make_of_values {type : DataType} {length count offset : Int} {buffers : List (Option Buffer)}
    (h : type ≠ .null) : make type length buffers d count offset =
      ⟨type, length, offset,
        if count = unknownCount ∧ (buffers[0]?).join.isNone then 0 else count, buffers, d⟩ := by
  unfold make
  split
  · next e => exact absurd rfl h
  · rfl

lemma make_eq {type : DataType} {length count offset : Int} {buffers : List (Option Buffer)}
    (h : type ≠ .null) (known : count ≠ unknownCount) :
    make type length buffers d count offset = ⟨type, length, offset, count, buffers, d⟩ := by
  rw [make_of_values h, if_neg fun implied => known implied.1]

lemma countP_isNone_eq_zero (full : none ∉ slots) : slots.countP Option.isNone = 0 := by
  rw [List.countP_eq_zero]
  intro s hs
  cases s with
  | some c => nofun
  | none => exact absurd hs full

lemma isValid_laidOut (holds : Holds t slots bitmap) (hs : slots[i]? = some s) :
    (laidOut t slots bitmap d).isValid i = .ok s.isSome := by
  have ne : (laidOut t slots bitmap d).type ≠ .null := type_ne_null holds.stored
  obtain ⟨hi, rfl⟩ := List.getElem?_eq_some_iff.1 hs
  unfold isValid
  rw [bitmap?_eq _ ne, storedCount_eq _ ne]
  cases bitmap with
  | true =>
    have place : (0 : Int) + i = (i : Nat) := Int.zero_add _
    change (Buffer.packed (.ofBits (slots.map Option.isSome))).memory.getBit (0 + i) = _
    rw [place, Bytes.getBit_eq (by simp; omega), Buffer.bit_packed, Bytes.bit_ofBits,
      List.getD_eq_getElem?_getD, List.getElem?_map, hs]
    rfl
  | false =>
    change Except.ok (((slots.countP Option.isNone : Nat) : Int) != slots.length) = _
    rcases holds.nulls rfl with full | empty
    · have valid : slots[i].isSome = true :=
        Option.isSome_iff_ne_none.2 fun e => full (e ▸ List.getElem_mem hi)
      rw [countP_isNone_eq_zero full, valid]
      exact congrArg Except.ok (bne_iff_ne.2 (by omega))
    · have all : slots.countP Option.isNone = slots.length :=
        List.countP_eq_length.2 fun s hs => by rw [empty s hs]; rfl
      rw [all, empty _ (List.getElem_mem hi), bne_self_eq_false]
      rfl

lemma fits_of_physical {c : Cell} (stored : t.layout ≠ .empty)
    (cells : ∀ c, some c ∈ slots → c.Fits t.layout) (hc : c ∈ physical t slots) :
    c.Fits t.layout := by
  obtain ⟨s, hs, rfl⟩ := List.mem_map.1 hc
  cases s with
  | some c => exact cells c hs
  | none => exact Cell.fits_cleared stored

lemma length_contents {w : Nat} (layout : t.layout = .fixed w)
    (cells : ∀ c, some c ∈ slots → c.Fits t.layout) :
    (contents t slots).length = slots.length * w := by
  rw [contents, Bytes.length_flatMap_of_uniform (w := w), physical, List.length_map]
  intro c hc
  have fits := fits_of_physical (by rw [layout]; nofun) cells hc
  rw [layout] at fits
  exact (Cell.eq_bytes fits).2

lemma memory_laidOut_bits (layout : t.layout = .bits) : (laidOut t slots bitmap d).memory 1 =
    (Buffer.packed (.ofBits ((physical t slots).map Cell.isSet))).memory := by
  simp only [memory, buffer?, laidOut, layout, Layout.buffers, physical]
  rfl

lemma memory_laidOut_fixed {w : Nat} (layout : t.layout = .fixed w) :
    (laidOut t slots bitmap d).memory 1 = (Buffer.packed (contents t slots).toArray).memory := by
  simp only [memory, buffer?, laidOut, layout, Layout.buffers, contents]
  rfl

lemma buffer?_laidOut_strings {w : Width} (layout : t.layout = .strings w) :
    (laidOut t slots bitmap d).buffer? 1 =
      some (.packed (Layout.offsets w (sizes t slots)).toArray) := by
  simp only [buffer?, laidOut, layout, Layout.buffers, sizes]
  rfl

lemma buffer?_laidOut_data {w : Width} (layout : t.layout = .strings w) :
    (laidOut t slots bitmap d).buffer? 2 = some (.packed (contents t slots).toArray) := by
  simp only [buffer?, laidOut, layout, Layout.buffers, contents]
  rfl

lemma memory_laidOut_strings {w : Width} (layout : t.layout = .strings w) :
    (laidOut t slots bitmap d).memory 2 = (Buffer.packed (contents t slots).toArray).memory := by
  rw [memory, buffer?_laidOut_data layout]
  rfl

/-- Offsets are the sums of the lengths before them. -/
lemma stringOffset_laidOut {w : Width} (holds : Holds t slots bitmap)
    (layout : t.layout = .strings w) (hi : i ≤ slots.length) :
    (laidOut t slots bitmap d).stringOffset w i = .ok (((sizes t slots).take i).sum : Nat) := by
  have place : (0 : Int) + i = (i : Nat) := Int.zero_add _
  have total := holds.strings w layout
  rw [← sum_sizes] at total
  unfold stringOffset
  rw [buffer?_laidOut_strings layout]
  change Bytes.integer _ _ (0 + i) = _
  rw [place]
  exact Layout.integer_offsets (Buffer.toList_packed _) (by simpa using hi) total

/-- Cells are read back, those of null slots as cleared. -/
lemma cell_laidOut (holds : Holds t slots bitmap) (hs : slots[i]? = some s) :
    (laidOut t slots bitmap d).cell i = .ok (s.getD (.cleared t.layout)) := by
  obtain ⟨x, hx⟩ : ∃ x, x = s.getD (.cleared t.layout) := ⟨_, rfl⟩
  have found : (physical t slots)[i]? = some x := by
    rw [physical, List.getElem?_map, hs, hx]
    rfl
  have fits := fits_of_physical holds.stored holds.cells (List.mem_of_getElem? found)
  have place : (0 : Int) + i = (i : Nat) := Int.zero_add _
  rw [← hx]
  cases layout : t.layout with
  | empty => exact absurd layout holds.stored
  | bits =>
    rw [layout] at fits
    have hi := (List.getElem?_eq_some_iff.1 found).1
    rw [cell_of_bits layout, memory_laidOut_bits layout]
    change (do return Cell.bit (← Bytes.getBit _ (0 + i))) = _
    rw [place, Bytes.getBit_eq (by simp; omega), Buffer.bit_packed, Bytes.bit_ofBits,
      List.getD_eq_getElem?_getD, List.getElem?_map, found]
    exact congrArg Except.ok (Cell.eq_bit fits).symm
  | fixed w =>
    rw [layout] at fits
    have uniform : ∀ c ∈ physical t slots, c.size = w := by
      intro c hc
      have fits := fits_of_physical holds.stored holds.cells hc
      rw [layout] at fits
      exact (Cell.eq_bytes fits).2
    rw [cell_of_fixed layout, memory_laidOut_fixed layout]
    change (do return Cell.bytes (← Bytes.span _ ((0 + i) * w) w)) = _
    rw [place, contents, Bytes.span_flatMap found uniform (Buffer.toList_packed _)]
    exact congrArg Except.ok (Cell.eq_bytes fits).1.symm
  | strings w =>
    rw [layout] at fits
    have hi := (List.getElem?_eq_some_iff.1 hs).1
    have start := stringOffset_laidOut (d := d) holds layout (Nat.le_of_lt hi)
    have stop := stringOffset_laidOut (d := d) holds layout (i := i + 1) hi
    rw [sum_take_sizes hs, ← hx] at stop
    have length : (laidOut t slots bitmap d).stringLength w i = .ok (x.size : Nat) := by
      have whole := congrArg List.sum (List.take_append_drop (i + 1) (sizes t slots))
      rw [List.sum_append, sum_take_sizes hs, ← hx, sum_sizes] at whole
      have total := holds.strings w layout
      rw [stringLength_eq start stop (by omega) (by omega)]
      exact congrArg Except.ok (by omega)
    obtain ⟨before, after, split, first⟩ := Bytes.exists_flatMap_eq (f := Cell.contents) found
    rw [← contents] at split
    have len : ((sizes t slots).take i).sum = before.length := by
      rw [first, List.length_flatMap, sizes, List.map_take]
      rfl
    rw [cell_of_strings layout start length, stringData, memory_laidOut_strings layout, len]
    have whole : (Buffer.packed (contents t slots).toArray).memory.toList = before ++ x.contents ++
        (after ++ List.replicate (Buffer.gap (contents t slots).length) 0) := by
      rw [Buffer.toList_packed, split, List.append_assoc _ after]
    rw [Cell.size, Bytes.span_append whole]
    exact congrArg Except.ok (Cell.eq_string fits).symm

lemma slot_laidOut (holds : Holds t slots bitmap) (hs : slots[i]? = some s) :
    (laidOut t slots bitmap d).slot i = .ok s := by
  rw [slot, isValid_laidOut holds hs, cell_laidOut holds hs]
  cases s with
  | none => rfl
  | some c => rfl

end Reading

end Column

end Columnar
