import Columnar.Memory.Buffer
import Columnar.Bits.Count

/-!
# Columns

A column is a type, a window given by an offset and a length in slots, the buffers that hold its
slots, and the values that its keys refer to when it is dictionary-encoded. Buffer 0 is the
validity bitmap; without one every slot is valid. A column also stores its null count, which may be
unknown until somebody counts.
-/

namespace Columnar

/-- One column: its type, its window, its buffers and its dictionary. -/
structure Column where
  type : DataType
  length : Int
  offset : Int
  nullCount : Int
  buffers : List (Option Buffer)
  dictionary : Option Column
deriving Repr, Inhabited

namespace Column

/-- Columns can be compared part by part. -/
def decEq : (a b : Column) → Decidable (a = b)
  | ⟨t, n, o, k, bs, none⟩, ⟨u, m, p, l, cs, none⟩ =>
    decidable_of_iff (t = u ∧ n = m ∧ o = p ∧ k = l ∧ bs = cs) (by simp)
  | ⟨t, n, o, k, bs, some d⟩, ⟨u, m, p, l, cs, some e⟩ =>
    have := decEq d e
    decidable_of_iff (t = u ∧ n = m ∧ o = p ∧ k = l ∧ bs = cs ∧ d = e) (by simp)
  | ⟨_, _, _, _, _, none⟩, ⟨_, _, _, _, _, some _⟩ => isFalse (by simp)
  | ⟨_, _, _, _, _, some _⟩, ⟨_, _, _, _, _, none⟩ => isFalse (by simp)

instance : DecidableEq Column := decEq

/-- The stored null count of a column whose nulls were not counted yet. -/
def unknownCount : Int := -1

/-- Buffer `i`, if the column has it. -/
def buffer? (c : Column) (i : Nat) : Option Buffer := (c.buffers[i]?).join

/-- The memory of buffer `i`, padding included, none if it is absent. -/
def memory (c : Column) (i : Nat) : Bytes := ((c.buffer? i).map Buffer.memory).getD #[]

/-- The validity bitmap. A null-typed column has none. -/
def bitmap? (c : Column) : Option Buffer :=
  match c.type with
  | .null => none
  | _ => c.buffer? 0

/-- The null count as far as it is known. All slots of a null-typed column are null. -/
def storedCount (c : Column) : Int :=
  match c.type with
  | .null => c.length
  | _ => c.nullCount

/-- The position behind the window, in slots. -/
def stop (c : Column) : Int := c.offset + c.length

/-- A column made of its parts. A null-typed column has no bitmap and only nulls; any other column
without a bitmap and with an unknown null count has none. -/
def make (type : DataType) (length : Int) (buffers : List (Option Buffer))
    (dictionary : Option Column) (nullCount offset : Int) : Column :=
  match type with
  | .null => ⟨type, length, offset, length, buffers.set 0 none, dictionary⟩
  | _ =>
    let implied := nullCount = unknownCount ∧ (buffers[0]?).join.isNone
    ⟨type, length, offset, if implied then 0 else nullCount, buffers, dictionary⟩

/-- The null-typed column of a length. -/
def nulls (length : Int) : Column := make .null length [none] none length 0

/-- The column as it is once it is used as one. A dictionary type needs a dictionary, and a
null-typed column knows its null count. -/
def opened (c : Column) : Checked Column :=
  if c.type.isDictionary ∧ c.dictionary.isNone then throw (.breach .missingDictionary)
  else pure { c with nullCount := c.storedCount }

/-- The keys of a dictionary column, as an integer column in the same window. -/
def keys (c : Column) : Column :=
  match c.type with
  | .dictionary k _ _ => { c with type := .int k, dictionary := none }
  | _ => c

/-- The column with a null count stored. -/
def withNullCount (c : Column) (count : Int) : Column := { c with nullCount := count }

/-- The number of null slots: the stored count, or what the bitmap says. -/
def countNulls (c : Column) : Checked Int :=
  if c.storedCount ≠ unknownCount then pure c.storedCount
  else
    match c.buffer? 0 with
    | none => pure 0
    | some b => return c.length - (← b.memory.countSetBits c.offset c.length)

/-- Whether slot `i` is valid. Without a bitmap a column has no nulls or only nulls. -/
def isValid (c : Column) (i : Int) : Checked Bool :=
  match c.bitmap? with
  | some b => b.memory.getBit (c.offset + i)
  | none => pure (c.storedCount != c.length)

end Column

end Columnar
