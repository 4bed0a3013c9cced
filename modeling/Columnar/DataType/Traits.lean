import Columnar.DataType.Text

/-!
# Facts about types

Classes of types, widths, and the parameters that a type carries.
-/

namespace Columnar.DataType

def isFloating : DataType → Bool
  | float16 | float32 | float64 => true
  | _ => false

/-- Whether the type is a date, a time, a timestamp, a duration or an interval. -/
def isTemporal : DataType → Bool
  | date32 | date64 | timestamp .. | time32 _ | time64 _ | monthInterval | dayTimeInterval
  | duration _ => true
  | _ => false

def isBinary : DataType → Bool
  | string | binary | largeString | largeBinary => true
  | _ => false

/-- Whether the slots are byte strings that hold text. -/
def isText : DataType → Bool
  | string | largeString => true
  | _ => false

def isParameterFree : DataType → Bool
  | timestamp .. | time32 _ | time64 _ | duration _ | decimal128 .. | dictionary .. => false
  | _ => true

/-- Bits of one slot, for types whose slots all have the same width. -/
def bitWidth? (t : DataType) : Option Nat :=
  match t.layout with
  | .bits => some 1
  | .fixed w => some (8 * w)
  | _ => none

/-- Whole bytes of one slot, for types whose slots all have the same width. A bit is no byte. -/
def byteWidth? (t : DataType) : Option Nat := t.bitWidth?.map (· / 8)

/-- Bytes of one value on its own, for types whose values are plain machine values. -/
def valueSize? : DataType → Option Nat
  | bool => some 1
  | decimal128 .. | dictionary .. => none
  | t => t.byteWidth?

/-- The kind of the offsets of byte strings. -/
def offsetKind? (t : DataType) : Option IntKind :=
  match t.layout with
  | .strings w => some (.int w)
  | _ => none

def unit? : DataType → Option TimeUnit
  | timestamp u _ | time32 u | time64 u | duration u => some u
  | _ => none

def zone? : DataType → Option Text
  | timestamp _ z => some z
  | _ => none

end Columnar.DataType
