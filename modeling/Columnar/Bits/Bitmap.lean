import Columnar.Bytes

/-!
# Bitmaps

Bits packed into bytes, least significant bit first: bit `i` is bit `i % 8` of byte `i / 8`.
-/

namespace Columnar

/-- The byte whose only set bit is bit `k`. -/
def bitMask (k : Nat) : UInt8 := UInt8.ofNat (2 ^ (k % 8))

/-- The byte whose set bits are those below bit `k`. -/
def lowMask (k : Nat) : UInt8 := UInt8.ofNat (2 ^ (k % 8) - 1)

/-- Bit `k` of a byte. -/
def byteBit (byte : UInt8) (k : Nat) : Bool := byte &&& bitMask k != 0

/-- The `n` least significant bits of a word. -/
def trailingBits (word : UInt64) (n : Int) : UInt64 :=
  if n = 0 then 0
  else if n ≥ 64 then word
  else
    let dropped := UInt64.ofNat (64 - n).toNat
    (word <<< dropped) >>> dropped

def popCount (word : UInt64) : Nat := (List.range 64).countP fun i => word.toNat.testBit i

namespace Bytes

def getBit (b : Bytes) (i : Int) : Checked Bool :=
  return (← b.read (i / 8)).toNat.testBit (i % 8).toNat

/-- The bitmap with bit `i` set. -/
def setBit (b : Bytes) (i : Int) : Checked Bytes :=
  b.modify (i / 8) (· ||| bitMask (i % 8).toNat)

/-- The bitmap with bit `i` cleared. -/
def clearBit (b : Bytes) (i : Int) : Checked Bytes :=
  b.modify (i / 8) (· &&& ~~~bitMask (i % 8).toNat)

/-- The byte that is all ones or all zeros. -/
def uniform (bit : Bool) : UInt8 := if bit then 255 else 0

/-- The bitmap with bit `i` made equal to `bit`, by flipping it where it differs. -/
def setBitTo (b : Bytes) (i : Int) (bit : Bool) : Checked Bytes :=
  b.modify (i / 8) fun byte => byte ^^^ ((uniform bit ^^^ byte) &&& bitMask (i % 8).toNat)

end Bytes

end Columnar
