import Columnar.Fault.Basic
import Columnar.Powers

/-!
# Checked bytes

Contiguous memory. Every read and write names its position as an integer and is refused as a stray
access when a byte of it lies outside. Words are little-endian.
-/

namespace Columnar

abbrev Bytes := Array UInt8

namespace Bytes

/-- `n` copies of a byte. -/
def fill (n : Nat) (byte : UInt8) : Bytes := Array.replicate n byte

def zeros (n : Nat) : Bytes := fill n 0

def read (b : Bytes) (i : Int) : Checked UInt8 :=
  if h : 0 ≤ i ∧ i < b.size then
    have inside : i.toNat < b.size := by omega
    pure b[i.toNat]
  else throw .stray

/-- The memory with the byte at position `i` replaced. -/
def write (b : Bytes) (i : Int) (byte : UInt8) : Checked Bytes :=
  if h : 0 ≤ i ∧ i < b.size then pure (b.set i.toNat byte (by omega)) else throw .stray

/-- The memory with the byte at position `i` changed by `f`. -/
def modify (b : Bytes) (i : Int) (f : UInt8 → UInt8) : Checked Bytes := do
  b.write i (f (← b.read i))

/-- The `n` bytes from position `start`. No byte at all can be read anywhere. -/
def span (b : Bytes) (start n : Int) : Checked Bytes :=
  if n = 0 then pure #[]
  else if 0 ≤ start ∧ 0 ≤ n ∧ start + n ≤ b.size then
    pure (b.extract start.toNat (start + n).toNat)
  else throw .stray

/-- The memory with the bytes from position `i` on replaced one after the other. Bytes that would
lie behind the end are lost. -/
def putAll (b : Bytes) (i : Nat) : List UInt8 → Bytes
  | [] => b
  | x :: xs => putAll (b.setIfInBounds i x) (i + 1) xs

/-- The memory with the bytes from position `start` replaced. No byte at all can be written
anywhere. -/
def overwrite (b : Bytes) (start : Int) (new : Bytes) : Checked Bytes :=
  if new.size = 0 then pure b
  else if 0 ≤ start ∧ start + new.size ≤ b.size then pure (b.putAll start.toNat new.toList)
  else throw .stray

/-- The number that a list of bytes spells, least significant byte first. -/
def toNat (bytes : List UInt8) : Nat := bytes.foldr (fun b n => b.toNat + 256 * n) 0

/-- The `width` bytes that spell a number, least significant byte first. Higher bytes are lost. -/
def ofNat : (width : Nat) → Nat → List UInt8
  | 0, _ => []
  | w + 1, n => UInt8.ofNat (n % 256) :: ofNat w (n / 256)

/-- The bytes that spell an integer in two's complement. -/
def ofInt (width : Nat) (v : Int) : Bytes := (ofNat width (v % 256 ^ width).toNat).toArray

/-- The word of `width` bytes that starts at position `start`. -/
def word (b : Bytes) (start : Int) (width : Nat) : Checked Nat :=
  return toNat (← b.span start width).toList

/-- The integer at position `i` of an array of integers of one kind. -/
def integer (b : Bytes) (k : IntKind) (i : Int) : Checked Int :=
  return k.decode (← b.word (i * k.width.bytes) k.width.bytes)

/-- The array of integers of one kind with the integer at position `i` replaced. -/
def putInteger (b : Bytes) (k : IntKind) (i v : Int) : Checked Bytes :=
  b.overwrite (i * k.width.bytes) (ofInt k.width.bytes v)

end Bytes

end Columnar
