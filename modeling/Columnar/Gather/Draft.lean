import Columnar.Gather.Visit

/-!
# Drafts of gathered columns

The kernels of a gather share how they begin and end: the validity bitmap is allocated first and
only when one of the inputs has one, and the finished column has the type of the values, offset
zero and an exact null count.
-/

namespace Columnar.Gather

/-- The null slots seen so far, and the validity bitmap as far as it is set. -/
structure Draft where
  validity : Option Bytes
  nulls : Nat := 0

namespace Draft

/-- The draft after a valid slot at position `p`. -/
def markValid : Draft → (p : Nat) → Checked Draft
  | ⟨none, nulls⟩, _ => pure ⟨none, nulls⟩
  | ⟨some bits, nulls⟩, p => return ⟨some (← bits.setBit p), nulls⟩

def markNull (d : Draft) : Draft := { d with nulls := d.nulls + 1 }

end Draft

/-- Whether a gather's output has a validity bitmap. -/
def needsValidity (values indices : Column) : Bool :=
  values.bitmap?.isSome || indices.bitmap?.isSome

/-- The validity bitmap of a gather's output, cleared, if it needs one. -/
def allocateValidity (values indices : Column) : Pooled (Option Buffer) := do
  if needsValidity values indices then
    return some (← Buffer.allocateEmptyBitmap indices.length)
  return none

/-- Runs `body` with the validity bitmap of a gather's output, which is given back if `body`
fails. -/
def holdingValidity {α : Type} (values indices : Column)
    (body : Option Buffer → Pooled α) : Pooled α := do
  let validity ← allocateValidity values indices
  tryCatch (body validity) fun e => do
    if let some b := validity then b.release
    throw e

/-- The gathered column of `length` slots over its finished validity and other buffers. -/
def finish (type : DataType) (length : Int) (validity : Option Buffer) (draft : Draft)
    (buffers : List Buffer) : Column :=
  let bitmap := validity.bind fun b => draft.validity.map b.withMemory
  Column.make type length (bitmap :: buffers.map some) none draft.nulls 0

/-- Goes on with the kind of the index values, which have to be integers. -/
def withIndexKind {α : Type} (indices : Column) (go : IntKind → Pooled α) : Pooled α :=
  match indices.type with
  | .int k => go k
  | t => throw (.gather (.indicesNotInteger t))

end Columnar.Gather
