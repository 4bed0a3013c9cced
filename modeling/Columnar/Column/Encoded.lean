import Columnar.Column.Cell
import Columnar.DataType.Make

/-!
# Dictionary-encoded columns

A dictionary column holds integer keys into a column of values. A slot is null when its key is
null; nulls among the values are values like any other. Assembling one checks the types and then
each valid key.
-/

namespace Columnar.Column

/-- The values of a dictionary column. -/
def openDictionary (c : Column) : Checked Column :=
  match c.dictionary with
  | none => throw (.breach .missingDictionary)
  | some d => d.opened

/-- Checks that the key in slot `i` lies below `length` if it is valid. -/
def checkKey (keys : Column) (k : IntKind) (length i : Int) : Checked Unit := do
  if ← keys.isValid i then
    let key ← keys.integer k i
    -- An unsigned key that no signed 64-bit word holds turns negative, and is refused too.
    let wide := (IntKind.int .w64).wrap key
    if wide < 0 ∨ wide ≥ length then throw (.encoding (.keyOutOfRange key length))

/-- Checks that each valid key lies below `length`. No key behind the first that does not is looked
at. -/
def checkKeys (keys : Column) (k : IntKind) (length : Int) : Checked Unit :=
  keys.foldSlots (fun _ i => keys.checkKey k length i) ()

/-- Keys and values put together. Type, dictionary and window are all that the keys give up. -/
def encoded (type : DataType) (keys values : Column) : Column :=
  { keys with type, dictionary := some values }

/-- The dictionary column of a type with the given keys and values. -/
def encode? (type : DataType) (keys values : Column) : Checked Column := do
  let .dictionary k value _ := type | throw (.encoding (.notDictionaryType type))
  if ¬ (DataType.int k).equals keys.type then throw (.encoding (.keyType (.int k) keys.type))
  if ¬ value.equals values.type then throw (.encoding (.valueType value values.type))
  checkKeys keys k values.length
  return encoded type keys values

/-- The dictionary column whose type, unordered, follows from its keys and values. -/
def encodeUntyped? (keys values : Column) : Checked Column := do
  encode? (← DataType.dictionary? keys.type values.type false) keys values

/-- The dictionary column of a type with keys that the caller vouches for. -/
def encodeUnchecked (type : DataType) (keys values : Column) : Checked Column := do
  let .dictionary k value _ := type | throw (.breach .encodingMismatch)
  if ¬ (DataType.int k).equals keys.type then throw (.breach .encodingMismatch)
  if ¬ value.equals values.type then throw (.breach .encodingMismatch)
  return encoded type keys values

/-- The key of slot `i` as a 64-bit integer, regardless of validity. -/
def key (c : Column) (i : Int) : Checked Int :=
  match c.type with
  | .dictionary k _ _ => return (IntKind.int .w64).wrap (← c.integer k i)
  | _ => throw .stray

end Columnar.Column
