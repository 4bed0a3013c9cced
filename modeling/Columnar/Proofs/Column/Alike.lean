import Mathlib.Tactic.Common
import Columnar.Column.Encoded
import Columnar.Proofs.Column.LaidOut

/-!
# Columns that differ in type only

A dictionary column and its keys have the same buffers, window and layout, and so have the same
slots. `Column.Alike` says when two columns are like that, and what they then agree on.
-/

namespace Columnar.Column

/-- Whether two columns have the same buffers, window, null count and layout. -/
structure Alike (c d : Column) : Prop where
  layout : c.type.layout = d.type.layout
  length : c.length = d.length
  offset : c.offset = d.offset
  nullCount : c.nullCount = d.nullCount
  buffers : c.buffers = d.buffers

namespace Alike
variable {c d : Column}

lemma buffer? (h : c.Alike d) (i : Nat) : c.buffer? i = d.buffer? i := by
  rw [Column.buffer?, Column.buffer?, h.buffers]

lemma memory (h : c.Alike d) (i : Nat) : c.memory i = d.memory i := by
  rw [Column.memory, Column.memory, h.buffer?]

lemma null_iff (h : c.Alike d) : c.type = .null ↔ d.type = .null := by
  rw [← layout_eq_empty, ← layout_eq_empty, h.layout]

lemma bitmap? (h : c.Alike d) : c.bitmap? = d.bitmap? := by
  by_cases null : d.type = .null
  · rw [Column.bitmap?, Column.bitmap?, null, h.null_iff.2 null]
  · rw [bitmap?_eq d null, bitmap?_eq c fun e => null (h.null_iff.1 e), h.buffer?]

lemma storedCount (h : c.Alike d) : c.storedCount = d.storedCount := by
  by_cases null : d.type = .null
  · rw [Column.storedCount, Column.storedCount, null, h.null_iff.2 null, h.length]
  · rw [storedCount_eq d null, storedCount_eq c fun e => null (h.null_iff.1 e), h.nullCount]

lemma isValid (h : c.Alike d) (i : Int) : c.isValid i = d.isValid i := by
  rw [Column.isValid, Column.isValid, h.bitmap?, h.offset, h.storedCount, h.length]

lemma stringOffset (h : c.Alike d) (w : Width) (i : Int) :
    c.stringOffset w i = d.stringOffset w i := by
  rw [Column.stringOffset, Column.stringOffset, h.buffer?, h.offset]

lemma cell (h : c.Alike d) (i : Int) : c.cell i = d.cell i := by
  simp only [Column.cell, Column.stringLength, Column.stringData, h.layout, h.memory, h.offset,
    h.stringOffset]

end Alike

/-- A dictionary column and its keys are alike. -/
lemma alike_keys (c : Column) : c.keys.Alike c := by
  unfold keys
  split
  · next k v o e => exact ⟨by rw [e]; rfl, rfl, rfl, rfl, rfl⟩
  · exact ⟨rfl, rfl, rfl, rfl, rfl⟩

end Columnar.Column
