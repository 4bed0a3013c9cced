import Columnar.Fault.Basic

/-!
# Making types

Constructors that check parameters. Those that report hand the failure to the caller; the others
treat bad parameters as a breach of contract.
-/

namespace Columnar.DataType

/-- The largest number of digits of a decimal type. -/
def maxPrecision : Int := 38

/-- A decimal type, with one to thirty-eight digits. -/
def decimal? (precision scale : Int) : Checked DataType :=
  if precision < 1 ∨ precision > maxPrecision then throw (.parameter (.precision precision))
  else pure (.decimal128 precision scale)

/-- A dictionary type, with integer keys and values that are not encoded themselves. -/
def dictionary? (index value : DataType) (ordered : Bool) : Checked DataType :=
  match index with
  | .int k =>
    if value.isDictionary then throw (.parameter .nestedDictionary)
    else pure (.dictionary k value ordered)
  | t => throw (.parameter (.indexNotInteger t))

/-- A decimal type whose digits the caller vouches for. -/
def decimal (precision scale : Int) : Checked DataType :=
  if precision < 1 ∨ precision > maxPrecision then throw (.breach (.precision precision))
  else pure (.decimal128 precision scale)

/-- A dictionary type whose parameters the caller vouches for. -/
def dictionaryOf (index value : DataType) (ordered : Bool) : Checked DataType :=
  match dictionary? index value ordered with
  | .error (.failure cause) => throw (.breach (.noValue cause.report))
  | made => made

/-- A time of day in a 32-bit word, which holds seconds or milliseconds. -/
def time32Of (unit : TimeUnit) : Checked DataType :=
  match unit with
  | .second | .milli => pure (.time32 unit)
  | _ => throw (.breach (.timeUnit unit))

/-- A time of day in a 64-bit word, which holds microseconds or nanoseconds. -/
def time64Of (unit : TimeUnit) : Checked DataType :=
  match unit with
  | .micro | .nano => pure (.time64 unit)
  | _ => throw (.breach (.timeUnit unit))

end Columnar.DataType
