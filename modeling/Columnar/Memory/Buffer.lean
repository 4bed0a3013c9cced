import Columnar.Memory.Pool
import Columnar.Bits.Rounding

/-!
# Buffers

A buffer is a run of memory that begins with its meaningful bytes. Memory from a pool goes on behind
them with padding, which is zero when the buffer is new and can be read and written like the rest.
A pool is charged for all of it; a buffer over foreign memory has no padding and charges nothing.
-/

namespace Columnar

/-- A run of memory of which the first `size` bytes are meaningful. -/
structure Buffer where
  memory : Bytes
  size : Nat
  pooled : Bool
  size_le : size ≤ memory.size
deriving DecidableEq, Repr

namespace Buffer

def ofBytes (bytes : Bytes) : Buffer := ⟨bytes, bytes.size, false, Nat.le_refl _⟩

instance : Inhabited Buffer := ⟨ofBytes #[]⟩

/-- A buffer over memory from a pool, with `n` zero bytes of padding. -/
def padded (bytes : Bytes) (n : Nat) : Buffer :=
  ⟨bytes ++ Bytes.zeros n, bytes.size, true, by simp⟩

def bytes (b : Buffer) : Bytes := b.memory.extract 0 b.size

/-- The bytes behind the meaningful ones. -/
def padding (b : Buffer) : Bytes := b.memory.extract b.size b.memory.size

def capacity (b : Buffer) : Int := b.memory.size

/-- The bytes that a pool was charged for. -/
def charge (b : Buffer) : Int := if b.pooled then b.capacity else 0

/-- The buffer with other contents of its memory. -/
def withMemory (b : Buffer) (memory : Bytes) : Buffer :=
  ⟨memory, min b.size memory.size, b.pooled, Nat.min_le_right ..⟩

/-- The largest size whose padded size still fits a word. -/
def maxSize : Int := 2 ^ 63 - 1 - 64

/-- A buffer of `size` unspecified bytes, padded with zeros to a multiple of sixty-four. -/
def allocate (size : Int) : Pooled Buffer := do
  if size < 0 then throw (.allocation (.negativeBuffer size))
  if size > maxSize then throw (.allocation (.bufferTooLarge size))
  let capacity := Rounding.paddedSize size
  let memory ← Pooled.allocate capacity
  return padded (memory.extract 0 size.toNat) (capacity - size).toNat

/-- A bitmap of `bits` unspecified bits. The last byte is zero, so the bits behind the bitmap are
zero too. -/
def allocateBitmap (bits : Int) : Pooled Buffer := do
  let b ← allocate (Rounding.byteCount bits)
  return b.withMemory (b.memory.setIfInBounds (b.size - 1) 0)

def allocateEmptyBitmap (bits : Int) : Pooled Buffer := do
  let b ← allocate (Rounding.byteCount bits)
  return b.withMemory (Bytes.zeros b.memory.size)

/-- Gives the buffer's memory back to its pool. -/
def release (b : Buffer) : Pooled Unit := Pooled.free b.charge

/-- Runs `body` with a fresh buffer, which is given back if `body` fails. -/
def holding {α : Type} (fresh : Pooled Buffer) (body : Buffer → Pooled α) : Pooled α := do
  let b ← fresh
  tryCatch (body b) fun e => do
    b.release
    throw e

end Buffer

end Columnar
