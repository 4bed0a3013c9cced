import Columnar.Status
import Columnar.DataType.Text

/-!
# Causes of failures

What can go wrong on the data that a caller hands in, one type for each kind of work, and the words
for each cause.
-/

namespace Columnar

/-- Why memory was not handed out. -/
inductive AllocationError where
  | negativeRequest (size : Int)
  | exhausted (size : Int)
  | overLimit (size : Int)
  | negativeBuffer (size : Int)
  | bufferTooLarge (size : Int)
  /-- A refusal in the words of a pool that the caller brought along. -/
  | refused (report : Report)
deriving DecidableEq, Repr

namespace AllocationError

def report : AllocationError → Report
  | negativeRequest size => ⟨.invalid, Text.ascii "Negative allocation size: " ++ Text.ofInt size⟩
  | exhausted size =>
    ⟨.outOfMemory, Text.ascii "Failed to allocate " ++ Text.ofInt size ++ Text.ascii " bytes"⟩
  | overLimit size =>
    ⟨.outOfMemory,
      Text.ascii "allocation of " ++ Text.ofInt size ++ Text.ascii " bytes exceeds the limit"⟩
  | negativeBuffer size => ⟨.invalid, Text.ascii "Negative buffer size: " ++ Text.ofInt size⟩
  | bufferTooLarge size =>
    ⟨.capacityError,
      Text.ascii "Buffer size " ++ Text.ofInt size ++ Text.ascii " is too large to allocate"⟩
  | refused report => report

end AllocationError

/-- Why a type could not be made. -/
inductive ParameterError where
  | precision (precision : Int)
  | indexNotInteger (index : DataType)
  | nestedDictionary
deriving DecidableEq, Repr

namespace ParameterError

def report : ParameterError → Report
  | precision p => ⟨.invalid, Text.ascii "Decimal precision out of range: " ++ Text.ofInt p⟩
  | indexNotInteger t =>
    ⟨.typeError, Text.ascii "Dictionary index type should be integer, got " ++ t.text⟩
  | nestedDictionary =>
    ⟨.notImplemented, Text.ascii "Nested dictionary types are not supported"⟩

end ParameterError

/-- Why a window does not lie inside a column. -/
inductive WindowError where
  | negative (offset length : Int)
  | outOfBounds (offset stop length : Int)
deriving DecidableEq, Repr

namespace WindowError

def report : WindowError → Report
  | negative offset length =>
    ⟨.indexError,
      Text.ascii "Slice offset and length must be non-negative, got " ++ Text.ofInt offset ++
        Text.ascii " and " ++ Text.ofInt length⟩
  | outOfBounds offset stop length =>
    ⟨.indexError,
      Text.ascii "Slice [" ++ Text.ofInt offset ++ Text.ascii ", " ++ Text.ofInt stop ++
        Text.ascii ") is out of bounds for length " ++ Text.ofInt length⟩

end WindowError

/-- What is wrong with the layout of a column. -/
inductive Defect where
  | negativeLength
  | negativeOffset
  | noBuffers
  | shortBitmap (size length offset : Int)
  | tooManyNulls
  | nullsWithoutBitmap (type : DataType) (nulls : Int)
  | nullColumnBuffers
  | nullColumnCount
  | bufferCount (expected : Nat) (type : DataType) (got : Nat)
  | missingValues
  | shortValues (size : Int) (type : DataType) (length offset expected : Int)
  | missingDictionary
  | dictionaryType (got expected : DataType)
  | missingOffsets
  | shortOffsets (size length offset : Int)
  | offsetOrder (first last : Int)
  | offsetPastData (last size : Int)
deriving DecidableEq, Repr

namespace Defect

def message : Defect → Text
  | negativeLength => Text.ascii "Array length is negative"
  | negativeOffset => Text.ascii "Array offset is negative"
  | noBuffers => Text.ascii "Array has no buffers"
  | shortBitmap size length offset =>
    Text.ascii "Validity bitmap of " ++ Text.ofInt size ++
      Text.ascii " bytes is too small for length " ++ Text.ofInt length ++
      Text.ascii " and offset " ++ Text.ofInt offset
  | tooManyNulls => Text.ascii "Null count exceeds array length"
  | nullsWithoutBitmap type nulls =>
    Text.ascii "Array of type " ++ type.text ++ Text.ascii " has " ++ Text.ofInt nulls ++
      Text.ascii " nulls but no validity bitmap"
  | nullColumnBuffers => Text.ascii "Null array must have exactly one buffer"
  | nullColumnCount => Text.ascii "null_count was invalid"
  | bufferCount expected type got =>
    Text.ascii "Expected " ++ Text.ofNat expected ++ Text.ascii " buffers in array of type " ++
      type.text ++ Text.ascii ", got " ++ Text.ofNat got
  | missingValues => Text.ascii "Missing values buffer in non-empty array"
  | shortValues size type length offset expected =>
    Text.ascii "Values buffer of " ++ Text.ofInt size ++
      Text.ascii " bytes is too small for array of type " ++ type.text ++
      Text.ascii " with length " ++ Text.ofInt length ++ Text.ascii " and offset " ++
      Text.ofInt offset ++ Text.ascii ": expected at least " ++ Text.ofInt expected ++
      Text.ascii " bytes"
  | missingDictionary => Text.ascii "Dictionary values must be non-null"
  | dictionaryType got expected =>
    Text.ascii "Dictionary values type " ++ got.text ++
      Text.ascii " does not match dictionary value type " ++ expected.text
  | missingOffsets => Text.ascii "Non-empty binary array but offsets are null"
  | shortOffsets size length offset =>
    Text.ascii "Offsets buffer size (bytes): " ++ Text.ofInt size ++
      Text.ascii " isn't large enough for length: " ++ Text.ofInt length ++
      Text.ascii " and offset: " ++ Text.ofInt offset
  | offsetOrder first last =>
    Text.ascii "Offsets out of order: first offset " ++ Text.ofInt first ++
      Text.ascii ", last offset " ++ Text.ofInt last
  | offsetPastData last size =>
    Text.ascii "Last offset " ++ Text.ofInt last ++
      Text.ascii " exceeds the value data size of " ++ Text.ofInt size ++ Text.ascii " bytes"

def report (d : Defect) : Report := ⟨.invalid, d.message⟩

end Defect

/-- Why keys and values do not make a dictionary column. -/
inductive EncodingError where
  | notDictionaryType (type : DataType)
  | keyType (expected got : DataType)
  | valueType (expected got : DataType)
  | keyOutOfRange (key length : Int)
deriving DecidableEq, Repr

namespace EncodingError

def report : EncodingError → Report
  | notDictionaryType type =>
    ⟨.typeError, Text.ascii "Expected a dictionary type, got " ++ type.text⟩
  | keyType expected got =>
    ⟨.typeError,
      Text.ascii "Index type " ++ expected.text ++
        Text.ascii " does not match indices array type " ++ got.text⟩
  | valueType expected got =>
    ⟨.typeError,
      Text.ascii "Value type " ++ expected.text ++
        Text.ascii " does not match dictionary array type " ++ got.text⟩
  | keyOutOfRange key length =>
    ⟨.indexError,
      Text.ascii "Index " ++ Text.ofInt key ++
        Text.ascii " out of bounds for dictionary of length " ++ Text.ofInt length⟩

end EncodingError

/-- Why a gather failed on its data. -/
inductive GatherError where
  | indicesNotInteger (type : DataType)
  | unsupportedType (type : DataType)
  | unsupportedWidth (width : Int) (type : DataType)
  | negativeIndex (index : Int)
  | indexTooLarge (index : Int)
  | outOfBounds (index length : Int)
  | offsetsExhausted (type : DataType) (max : Int)
deriving DecidableEq, Repr

namespace GatherError

def report : GatherError → Report
  | indicesNotInteger type =>
    ⟨.typeError, Text.ascii "Take indices must be of integer type, got " ++ type.text⟩
  | unsupportedType type =>
    ⟨.notImplemented, Text.ascii "Take not supported for data type " ++ type.text⟩
  | unsupportedWidth width type =>
    ⟨.notImplemented,
      Text.ascii "Take not supported for byte width " ++ Text.ofInt width ++
        Text.ascii " of data type " ++ type.text⟩
  | negativeIndex index =>
    ⟨.indexError,
      Text.ascii "Index overflow: index " ++ Text.ofInt index ++ Text.ascii " is negative"⟩
  | indexTooLarge index =>
    ⟨.indexError,
      Text.ascii "Index overflow: index " ++ Text.ofInt index ++
        Text.ascii " does not fit in an int64 offset"⟩
  | outOfBounds index length =>
    ⟨.indexError,
      Text.ascii "Index " ++ Text.ofInt index ++
        Text.ascii " out of bounds for array of length " ++ Text.ofInt length⟩
  | offsetsExhausted type max =>
    ⟨.capacityError,
      Text.ascii "Take of " ++ type.text ++
        Text.ascii " values exceeds the maximum offset of " ++ Text.ofInt max⟩

end GatherError

end Columnar
