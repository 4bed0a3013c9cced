import Columnar.Column.Encoded

/-!
# Values

The value that a cell stands for under its column's type. Every fixed-width value is read from the
bytes of its cell, so equal cells have equal values.
-/

namespace Columnar

/-- A typed value. Floating-point numbers are given by their bits. -/
inductive Value where
  | bool (value : Bool)
  | int (value : Int)
  | float32 (bits : UInt32)
  | float64 (bits : UInt64)
  | dayTime (days milliseconds : Int)
  | decimal (unscaled : Int)
  | bytes (value : Bytes)
deriving DecidableEq, Repr, Inhabited

namespace DataType

/-- The kind of integer that the values of a type are, for types whose values are integers. -/
def integerKind? : DataType → Option IntKind
  | int k => some k
  | float16 => some (.uint .w16)
  | date32 | time32 _ | monthInterval => some (.int .w32)
  | date64 | timestamp .. | time64 _ | duration _ => some (.int .w64)
  | dictionary k _ _ => some k
  | _ => none

/-- The value that the bytes of a fixed-width cell stand for. -/
def valueOfBytes (t : DataType) (bytes : Bytes) : Value :=
  match t with
  | .float32 => .float32 (UInt32.ofNat (Bytes.toNat bytes.toList))
  | .float64 => .float64 (UInt64.ofNat (Bytes.toNat bytes.toList))
  | .dayTimeInterval =>
    .dayTime ((IntKind.int .w32).decode (Bytes.toNat (bytes.extract 0 4).toList))
      ((IntKind.int .w32).decode (Bytes.toNat (bytes.extract 4 8).toList))
  | .decimal128 .. => .decimal ((Bytes.toNat bytes.toList : Int).bmod (2 ^ 128))
  | t =>
    match t.integerKind? with
    | some k => .int (k.decode (Bytes.toNat bytes.toList))
    | none => .bytes bytes

/-- The value that a cell stands for. -/
def valueOf (t : DataType) : Cell → Value
  | .bit b => .bool b
  | .bytes bytes => t.valueOfBytes bytes

end DataType

namespace Column

/-- The value of slot `i`, regardless of validity. That of a dictionary column is its key as a
64-bit integer. -/
def value (c : Column) (i : Int) : Checked Value :=
  match c.type with
  | .dictionary .. => return .int (← c.key i)
  | t => return t.valueOf (← c.cell i)

/-- The values of all slots, regardless of validity. A null-typed column has none. -/
def values (c : Column) : Checked (List Value) :=
  match c.type with
  | .null => pure []
  | _ => c.positions.mapM fun (i : Nat) => c.value i

def validities (c : Column) : Checked (List Bool) := c.positions.mapM fun (i : Nat) => c.isValid i

/-- The number of valid slots of a boolean column whose bit is set. -/
def trueCount (c : Column) : Checked Int :=
  match c.bitmap? with
  | none => return (← (c.memory 1).countSetBits c.offset c.length)
  | some _ =>
    c.foldSlots
      (fun (count : Int) i => do
        if ← c.isValid i then
          let bit ← (c.memory 1).getBit (c.offset + i)
          return count + (if bit then 1 else 0)
        else return count)
      0

/-- The number of valid slots of a boolean column whose bit is clear. -/
def falseCount (c : Column) : Checked Int := do
  let nulls ← c.countNulls
  return c.length - nulls - (← c.trueCount)

/-- The offsets of a column of byte strings, one more than it has slots unless it has none. -/
def stringOffsets (c : Column) (w : Width) : Checked (List Int) :=
  if c.length ≤ 0 then pure []
  else (List.range (c.length.toNat + 1)).mapM fun (i : Nat) => c.stringOffset w i

def stringLengths (c : Column) (w : Width) : Checked (List Int) :=
  c.positions.mapM fun (i : Nat) => c.stringLength w i

/-- The bytes between the first and the last offset of the window, as offsets are subtracted. -/
def stringTotal (c : Column) (w : Width) : Checked Int := do
  if c.length = 0 then return 0
  return (IntKind.int w).wrap ((← c.stringOffset w c.length) - (← c.stringOffset w 0))

end Column

end Columnar
