import Columnar.Gather.Draft

/-!
# Gathering bits

The output bits are cleared first, so a visit only has to set the bits that are one. The bit of a
null slot stays zero.
-/

namespace Columnar.Gather

/-- The bits set so far. -/
structure BitDraft extends Draft where
  values : Bytes

/-- Copies the bit that a visit names. -/
def visitBit (values : Column) : BitDraft → Visit → Checked BitDraft
  | ⟨draft, out⟩, .valid p index => do
    let bit ← (values.memory 1).getBit (values.offset + index)
    return ⟨← draft.markValid p, ← if bit then out.setBit p else pure out⟩
  | ⟨draft, out⟩, .null _ => return ⟨draft.markNull, out⟩

/-- Gathers bits with index values of kind `k`. -/
def booleanOf (values indices : Column) (k : IntKind) : Pooled Column :=
  holdingValidity values indices fun validity =>
    Buffer.holding (Buffer.allocateEmptyBitmap indices.length) fun out => do
      let draft ← walk (m := Checked) values indices k (visitBit values)
        ⟨⟨validity.map Buffer.memory, 0⟩, out.memory⟩
      return finish values.type indices.length validity draft.toDraft [out.withMemory draft.values]

def boolean (values indices : Column) : Pooled Column :=
  withIndexKind indices (booleanOf values indices)

end Columnar.Gather
