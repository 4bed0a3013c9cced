import Columnar.Positions
import Columnar.Bits.Bitmap
import Columnar.Bits.Rounding

/-!
# Counting set bits

The bits of a window are counted in three parts: single bits up to the next 64-bit boundary, whole
64-bit words, and the single bits that are left.
-/

namespace Columnar.Bytes

/-- The number of set bits among the `n` bits from `start`, one bit at a time. -/
def countBits (b : Bytes) (start : Int) (n : Nat) : Checked Nat :=
  foldPositions (fun count i => return count + (← b.getBit (start + i)).toNat) n 0 0

/-- The number of set bits in `n` 64-bit words from byte `start`. -/
def countWords (b : Bytes) (start : Int) (n : Nat) : Checked Nat :=
  foldPositions
    (fun count i => return count + popCount (UInt64.ofNat (← b.word (start + 8 * i) 8))) n 0 0

/-- The number of set bits among the `length` bits from `offset`. -/
def countSetBits (b : Bytes) (offset length : Int) : Checked Nat := do
  -- The boundary may lie behind the window, which is then all head.
  let aligned := (Rounding.roundUp (Int64.ofInt offset) 64).toInt
  let head := min length (aligned - offset)
  let words := (length - head) / 64
  let tail := aligned + words * 64
  let inHead ← b.countBits offset head.toNat
  let inWords ← b.countWords (aligned / 8) words.toNat
  let inTail ← b.countBits tail (offset + length - tail).toNat
  return inHead + inWords + inTail

end Columnar.Bytes
