/-!
# Rounding in machine words

Formulas on 64-bit two's complement words that round sizes up. They are written with shifts, masks
and truncating division, and are chosen so that no step leaves the word on the sizes they are used
for.
-/

namespace Columnar.Rounding

/-- The quotient, rounded up, for a value that is not negative and a positive divisor. -/
def ceilDiv (value divisor : Int64) : Int64 :=
  if value = 0 then 0 else 1 + (value - 1) / divisor

/-- The number of bytes that hold a number of bits. Adding to the bits before dividing could
overflow, so the remainder is looked at on its own. -/
def bytesForBits (bits : Int64) : Int64 :=
  (bits >>> 3) + (if bits &&& 7 = 0 then 0 else 1)

/-- Whether a word is a power of two. -/
def isPowerOfTwo (value : Int64) : Bool := 0 < value && value &&& (value - 1) == 0

/-- The least multiple of `factor` that is not below `value`, for a factor that is a power of
two. -/
def roundUp (value factor : Int64) : Int64 := (value + (factor - 1)) &&& ~~~(factor - 1)

/-- The least multiple of eight that is not below `value`. -/
def roundUpToEight (value : Int64) : Int64 := roundUp value 8

/-- The least multiple of sixty-four that is not below `value`. -/
def roundUpToSixtyFour (value : Int64) : Int64 := roundUp value 64

/-- `bytesForBits` on an integer that fits a word. -/
def byteCount (bits : Int) : Int := (bytesForBits (Int64.ofInt bits)).toInt

/-- `roundUpToSixtyFour` on an integer that fits a word. -/
def paddedSize (size : Int) : Int := (roundUpToSixtyFour (Int64.ofInt size)).toInt

end Columnar.Rounding
