import Columnar.Gather.Draft

/-!
# Gathering byte strings

Two passes walk over the same indices. The first adds up the lengths of the selected strings and
writes the output offsets; it fails before anything is copied if the total does not fit an offset.
The second copies the bytes into a buffer of exactly that total.
-/

namespace Columnar.Gather

/-- The offsets written so far and the bytes that they account for. -/
structure SizeDraft extends Draft where
  offsets : Bytes
  total : Int := 0

/-- Adds the length of the string that a visit names. -/
def visitSize (values : Column) (w : Width) : SizeDraft → Visit → Checked SizeDraft
  | ⟨draft, offsets, total⟩, .valid p index => do
    let sum := (IntKind.int w).add total (← values.stringLength w index)
    if sum.overflow then
      throw (.gather (.offsetsExhausted values.type (IntKind.int w).max))
    return ⟨← draft.markValid p, ← offsets.putInteger (.int w) (p + 1) sum.value, sum.value⟩
  | ⟨draft, offsets, total⟩, .null p => do
    return ⟨draft.markNull, ← offsets.putInteger (.int w) (p + 1) total, total⟩

/-- Copies the bytes of the string that a visit names to where its offset says. A string of negative
length copies nothing, and takes the next one back over bytes that were copied before. -/
def visitCopy (values : Column) (w : Width) (offsets : Bytes) : Bytes → Visit → Checked Bytes
  | data, .valid p index => do
    let start ← offsets.integer (.int w) p
    let stop ← offsets.integer (.int w) (p + 1)
    let length := (IntKind.int w).wrap (stop - start)
    if length > 0 then
      let source ← values.stringData (← values.stringOffset w index) length
      data.overwrite start source
    else return data
  | data, .null _ => return data

/-- Gathers byte strings with offsets of width `w` and index values of kind `k`. -/
def stringsOf (values indices : Column) (w : Width) (k : IntKind) : Pooled Column :=
  holdingValidity values indices fun validity =>
    Buffer.holding (Buffer.allocate ((indices.length + 1) * w.bytes)) fun offsets => do
      let first ← offsets.memory.putInteger (.int w) 0 0
      let sized ← walk (m := Checked) values indices k (visitSize values w)
        ⟨⟨validity.map Buffer.memory, 0⟩, first, 0⟩
      -- The null slots are marked by now, and the second pass copies bytes only.
      Buffer.holding (Buffer.allocate sized.total) fun data => do
        let copied ← walk (m := Checked) values indices k (visitCopy values w sized.offsets)
          data.memory
        return finish values.type indices.length validity sized.toDraft
          [offsets.withMemory sized.offsets, data.withMemory copied]

def strings (values indices : Column) (w : Width) : Pooled Column :=
  withIndexKind indices (stringsOf values indices w)

end Columnar.Gather
