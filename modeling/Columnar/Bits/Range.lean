import Columnar.Bits.Bitmap

/-!
# Setting a range of bits

A range of bits is set or cleared a byte at a time: the first and the last byte keep the bits that
lie outside the range, the bytes between are overwritten. A range that ends on a byte boundary does
not touch the next byte.
-/

namespace Columnar.Bytes

/-- Byte `i` with the bits outside `kept` made equal to those of `fill`. -/
def blend (b : Bytes) (i : Int) (kept fill : UInt8) : Checked Bytes :=
  b.modify i fun byte => (byte &&& kept) ||| (fill &&& ~~~kept)

/-- The bitmap with the `length` bits from `start` made equal to `bit`. -/
def setBits (b : Bytes) (start length : Int) (bit : Bool) : Checked Bytes := do
  if length = 0 then return b
  let stop := start + length
  let fill := uniform bit
  let first := start / 8
  let last := stop / 8
  let before := lowMask (start % 8).toNat
  let after := ~~~lowMask (stop % 8).toNat
  if last = first then
    return ← b.blend first (if stop % 8 = 0 then before else before ||| after) fill
  let b ← b.blend first before fill
  let b ← b.overwrite (first + 1) (Bytes.fill (last - first - 1).toNat fill)
  if stop % 8 = 0 then return b
  b.blend last after fill

end Columnar.Bytes
