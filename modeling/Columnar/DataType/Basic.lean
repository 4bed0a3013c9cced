import Columnar.IntKind

/-!
# Column types

A column type selects the physical layout of a column's buffers. Parameters such as time units,
time zones, precisions and dictionary value types take part in equality and in the type's text, but
never change the layout.
-/

namespace Columnar

/-- The unit of a time, a timestamp or a duration. -/
inductive TimeUnit where
  | second | milli | micro | nano
deriving DecidableEq, Repr, Inhabited

/-- The type of a column. Dictionary keys are always integers, so the index of a dictionary type is
an integer kind. -/
inductive DataType where
  | null
  | bool
  | int (kind : IntKind)
  | float16
  | float32
  | float64
  | string
  | binary
  | largeString
  | largeBinary
  | date32
  | date64
  | timestamp (unit : TimeUnit) (zone : Text)
  | time32 (unit : TimeUnit)
  | time64 (unit : TimeUnit)
  | monthInterval
  | dayTimeInterval
  | duration (unit : TimeUnit)
  | decimal128 (precision scale : Int)
  | dictionary (index : IntKind) (value : DataType) (ordered : Bool)
deriving DecidableEq, Repr, Inhabited

/-- How the slots of a column lie in its buffers. -/
inductive Layout where
  /-- No storage: every slot is null. -/
  | empty
  /-- One bit for each slot. -/
  | bits
  /-- A fixed number of bytes for each slot. -/
  | fixed (width : Nat)
  /-- Byte strings, addressed through offsets of the given width. -/
  | strings (offsets : Width)
deriving DecidableEq, Repr, Inhabited

namespace DataType

/-- The physical layout of a column of the type. A dictionary column is laid out as its keys. -/
def layout : DataType → Layout
  | null => .empty
  | bool => .bits
  | int k => .fixed k.width.bytes
  | float16 => .fixed 2
  | float32 | date32 | time32 _ | monthInterval => .fixed 4
  | float64 | date64 | timestamp .. | time64 _ | dayTimeInterval | duration _ => .fixed 8
  | string | binary => .strings .w32
  | largeString | largeBinary => .strings .w64
  | decimal128 .. => .fixed 16
  | dictionary k _ _ => .fixed k.width.bytes

def isInteger : DataType → Bool
  | int _ => true
  | _ => false

def isDictionary : DataType → Bool
  | dictionary .. => true
  | _ => false

end DataType

end Columnar
