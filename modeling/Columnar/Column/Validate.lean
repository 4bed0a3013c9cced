import Columnar.Column.Cell

/-!
# Validation

Cheap checks of a column's buffers against its type and window. A column that passes can be read
slot by slot without leaving its buffers. The checks come in a fixed order, and the first defect is
the one that is reported. Sizes are 64-bit words, and wrap where a window calls for more than that.
-/

namespace Columnar.Column

/-- Checks the window, the presence of buffers and the size of the bitmap. -/
def validateWindow (c : Column) : Checked Unit := do
  if c.length < 0 then throw (.defect .negativeLength)
  if c.offset < 0 then throw (.defect .negativeOffset)
  if c.buffers.isEmpty then throw (.defect .noBuffers)
  if let some bitmap := c.buffer? 0 then
    if bitmap.size < Rounding.byteCount c.stop then
      throw (.defect (.shortBitmap bitmap.size c.length c.offset))

/-- Checks the null count against the length and the bitmap. -/
def validateNulls (c : Column) : Checked Unit := do
  let nulls ← c.countNulls
  if nulls > c.length then throw (.defect .tooManyNulls)
  if (c.buffer? 0).isNone ∧ c.type ≠ .null ∧ nulls > 0 then
    throw (.defect (.nullsWithoutBitmap c.type nulls))

def validateBufferCount (c : Column) (expected : Nat) : Checked Unit := do
  if c.buffers.length ≠ expected then
    throw (.defect (.bufferCount expected c.type c.buffers.length))

/-- Checks that the values buffer has at least `size` bytes. -/
def validateValues (c : Column) (size : Int) : Checked Unit := do
  match c.buffer? 1 with
  | none => if c.length > 0 then throw (.defect .missingValues)
  | some values =>
    if values.size < size then
      throw (.defect (.shortValues values.size c.type c.length c.offset size))

/-- Checks the first and the last offset of a column of byte strings against its data. -/
def validateStrings (c : Column) (w : Width) : Checked Unit := do
  c.validateBufferCount 3
  match c.buffer? 1 with
  | none => if c.length > 0 then throw (.defect .missingOffsets)
  | some offsets =>
    if offsets.size / w.bytes < (IntKind.int .w64).wrap (c.stop + 1) then
      throw (.defect (.shortOffsets offsets.size c.length c.offset))
    let first ← c.stringOffset w 0
    let last ← c.stringOffset w c.length
    if first < 0 ∨ last < first then throw (.defect (.offsetOrder first last))
    let size := ((c.buffer? 2).map Buffer.size).getD 0
    if last > size then throw (.defect (.offsetPastData last size))

/-- Checks that a dictionary column has a dictionary of its value type. -/
def validateDictionary (c : Column) : Checked Unit :=
  match c.type with
  | .dictionary _ value _ =>
    match c.dictionary with
    | none => throw (.defect .missingDictionary)
    | some d =>
      if value.equals d.type then pure ()
      else throw (.defect (.dictionaryType d.type value))
  | _ => pure ()

/-- Checks that a null-typed column has one buffer and only nulls. -/
def validateNullColumn (c : Column) : Checked Unit := do
  if c.buffers.length ≠ 1 then throw (.defect .nullColumnBuffers)
  if (← c.countNulls) ≠ c.length then throw (.defect .nullColumnCount)

/-- Checks the buffers that the layout of the type calls for. -/
def validateLayout (c : Column) : Checked Unit :=
  match c.type.layout with
  | .empty => c.validateNullColumn
  | .bits => do
    c.validateBufferCount 2
    c.validateValues (Rounding.byteCount c.stop)
  | .fixed w => do
    c.validateBufferCount 2
    c.validateDictionary
    c.validateValues ((IntKind.int .w64).wrap (c.stop * w))
  | .strings w => c.validateStrings w

def validate (c : Column) : Checked Unit := do
  c.validateWindow
  c.validateNulls
  c.validateLayout

/-- Whether validation looks at the null count. -/
def validationCounts (c : Column) : Bool :=
  match c.validateWindow with
  | .ok _ => true
  | .error _ => false

end Columnar.Column
