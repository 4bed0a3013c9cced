import Columnar.Gather.FixedWidth
import Columnar.Gather.Boolean
import Columnar.Gather.Strings

/-!
# Gathering any column

A gather selects slots of a column by an integer column of indices. The layout of the values
decides how; a dictionary column gathers its keys and shares its dictionary.
-/

namespace Columnar.Gather

/-- Gathers the keys of a dictionary column. -/
def dictionary (values indices : Column) : Pooled Column := do
  let width := (values.keys.type.byteWidth?).getD 0
  let keys ← fixedWidth values.keys indices width
  return { keys with type := values.type, dictionary := values.dictionary }

/-- Gathers by the layout of the values, as far as it is supported. -/
def byLayout (values indices : Column) : Pooled Column :=
  match values.type with
  | .null | .float16 | .dayTimeInterval => throw (.gather (.unsupportedType values.type))
  | .dictionary .. => dictionary values indices
  | t =>
    match t.layout with
    | .bits => boolean values indices
    | .fixed w => fixedWidth values indices w
    | .strings w => strings values indices w
    | .empty => throw (.gather (.unsupportedType values.type))

/-- The slots of `values` that `indices` name, as a new column of the same type. -/
def take (values indices : Column) : Pooled Column := do
  if ¬ indices.type.isInteger then throw (.gather (.indicesNotInteger indices.type))
  let out ← byLayout values indices
  ofExcept out.opened

end Columnar.Gather
