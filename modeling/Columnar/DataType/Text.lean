import Columnar.DataType.Basic

/-!
# Names of types

Every type has a plain name and a text that also shows its parameters. Two types are equal when
they have the same identity number and the same text, so the text has to show every parameter.
-/

namespace Columnar

def TimeUnit.suffix : TimeUnit → Text
  | second => Text.ascii "s"
  | milli => Text.ascii "ms"
  | micro => Text.ascii "us"
  | nano => Text.ascii "ns"

namespace DataType

/-- The identity number of a type, which forgets its parameters. -/
def id : DataType → Nat
  | null => 0
  | bool => 1
  | int ⟨false, .w8⟩ => 2
  | int ⟨true, .w8⟩ => 3
  | int ⟨false, .w16⟩ => 4
  | int ⟨true, .w16⟩ => 5
  | int ⟨false, .w32⟩ => 6
  | int ⟨true, .w32⟩ => 7
  | int ⟨false, .w64⟩ => 8
  | int ⟨true, .w64⟩ => 9
  | float16 => 10
  | float32 => 11
  | float64 => 12
  | string => 13
  | binary => 14
  | largeString => 15
  | largeBinary => 16
  | date32 => 17
  | date64 => 18
  | timestamp .. => 19
  | time32 _ => 20
  | time64 _ => 21
  | monthInterval => 22
  | dayTimeInterval => 23
  | duration _ => 24
  | decimal128 .. => 25
  | dictionary .. => 26

def name : DataType → Text
  | null => Text.ascii "null"
  | bool => Text.ascii "bool"
  | int k => k.name
  | float16 => Text.ascii "halffloat"
  | float32 => Text.ascii "float"
  | float64 => Text.ascii "double"
  | string => Text.ascii "string"
  | binary => Text.ascii "binary"
  | largeString => Text.ascii "large_string"
  | largeBinary => Text.ascii "large_binary"
  | date32 => Text.ascii "date32"
  | date64 => Text.ascii "date64"
  | timestamp .. => Text.ascii "timestamp"
  | time32 _ => Text.ascii "time32"
  | time64 _ => Text.ascii "time64"
  | monthInterval => Text.ascii "month_interval"
  | dayTimeInterval => Text.ascii "day_time_interval"
  | duration _ => Text.ascii "duration"
  | decimal128 .. => Text.ascii "decimal128"
  | dictionary .. => Text.ascii "dictionary"

/-- A name followed by a unit in brackets. -/
def withUnit (name : Text) (unit : TimeUnit) : Text :=
  name ++ Text.ascii "[" ++ unit.suffix ++ Text.ascii "]"

/-- The text of a type, which shows its parameters. The empty time zone is that of a timestamp
without one, and is not shown. -/
def text : DataType → Text
  | date32 => Text.ascii "date32[day]"
  | date64 => Text.ascii "date64[ms]"
  | timestamp unit [] => withUnit (Text.ascii "timestamp") unit
  | timestamp unit (z :: zs) =>
    Text.ascii "timestamp[" ++ unit.suffix ++ Text.ascii ", tz=" ++ (z :: zs) ++ Text.ascii "]"
  | time32 unit => withUnit (Text.ascii "time32") unit
  | time64 unit => withUnit (Text.ascii "time64") unit
  | duration unit => withUnit (Text.ascii "duration") unit
  | decimal128 precision scale =>
    Text.ascii "decimal(" ++ Text.ofInt precision ++ Text.ascii ", " ++ Text.ofInt scale ++
      Text.ascii ")"
  | dictionary index value ordered =>
    Text.ascii "dictionary<values=" ++ value.text ++ Text.ascii ", indices=" ++ index.name ++
      Text.ascii ", ordered=" ++ Text.ofBool ordered ++ Text.ascii ">"
  | t => t.name

/-- Whether two types have the same identity number and the same text. -/
def equals (a b : DataType) : Bool := a.id == b.id && a.text == b.text

end DataType

end Columnar
