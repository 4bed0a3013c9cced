import Columnar.Gather.Draft

/-!
# Gathering fixed-width values

Values are copied as opaque bytes, so only their width matters. The bytes of a null slot are zero.
-/

namespace Columnar.Gather

/-- The slots written so far. -/
structure FixedDraft extends Draft where
  values : Bytes

/-- Copies the slot that a visit names, or clears the slot of a null. -/
def visitFixed (values : Column) (width : Nat) : FixedDraft → Visit → Checked FixedDraft
  | ⟨draft, out⟩, .valid p index => do
    let slot ← (values.memory 1).span ((values.offset + index) * width) width
    return ⟨← draft.markValid p, ← out.overwrite (p * width) slot⟩
  | ⟨draft, out⟩, .null p => do
    return ⟨draft.markNull, ← out.overwrite (p * width) (Bytes.zeros width)⟩

/-- Gathers values of `width` bytes with index values of kind `k`. -/
def fixedWidthOf (values indices : Column) (width : Nat) (k : IntKind) : Pooled Column :=
  holdingValidity values indices fun validity =>
    Buffer.holding (Buffer.allocate (indices.length * width)) fun out => do
      let draft ← walk (m := Checked) values indices k (visitFixed values width)
        ⟨⟨validity.map Buffer.memory, 0⟩, out.memory⟩
      return finish values.type indices.length validity draft.toDraft [out.withMemory draft.values]

def gatherableWidths : List Int := [1, 2, 4, 8, 16]

def fixedWidth (values indices : Column) (width : Int) : Pooled Column :=
  if width ∈ gatherableWidths then
    withIndexKind indices (fixedWidthOf values indices width.toNat)
  else throw (.gather (.unsupportedWidth width values.type))

end Columnar.Gather
