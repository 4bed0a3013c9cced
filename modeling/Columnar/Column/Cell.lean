import Columnar.Column.Basic
import Columnar.DataType.Traits

/-!
# Cells and slots

The cell of a slot is what the buffers physically hold for it, valid or not: a bit, the bytes of a
fixed-width value or key, or a byte string. A slot is its cell when it is valid and nothing when it
is null.
-/

namespace Columnar

/-- What the buffers hold for one slot. -/
inductive Cell where
  | bit (value : Bool)
  | bytes (value : Bytes)
deriving DecidableEq, Repr, Inhabited

namespace Column

/-- Offset `i` of the window of a column of byte strings. -/
def stringOffset (c : Column) (w : Width) (i : Int) : Checked Int :=
  match c.buffer? 1 with
  | some b => b.memory.integer (.int w) (c.offset + i)
  | none => throw .stray

/-- The length of the byte string in slot `i`, as offsets are subtracted. It is negative where the
offsets decrease, and where they are too far apart for an offset to say. -/
def stringLength (c : Column) (w : Width) (i : Int) : Checked Int := do
  let start ← c.stringOffset w i
  return (IntKind.int w).wrap ((← c.stringOffset w (i + 1)) - start)

/-- The `n` bytes of string data from `start`. -/
def stringData (c : Column) (start n : Int) : Checked Bytes := (c.memory 2).span start n

/-- The cell of slot `i`, regardless of validity. -/
def cell (c : Column) (i : Int) : Checked Cell :=
  match c.type.layout with
  | .empty => throw .stray
  | .bits => return .bit (← (c.memory 1).getBit (c.offset + i))
  | .fixed w => return .bytes (← (c.memory 1).span ((c.offset + i) * w) w)
  | .strings w => do
    let start ← c.stringOffset w i
    let length ← c.stringLength w i
    if length < 0 then throw .negativeLength
    return .bytes (← c.stringData start length)

/-- Slot `i`: its cell, or nothing when it is null. -/
def slot (c : Column) (i : Int) : Checked (Option Cell) := do
  if ← c.isValid i then return some (← c.cell i)
  return none

/-- The integer of kind `k` in slot `i` of the values, regardless of validity and type. -/
def integer (c : Column) (k : IntKind) (i : Int) : Checked Int :=
  match c.buffer? 1 with
  | some b => b.memory.integer k (c.offset + i)
  | none => throw .stray

/-- The positions of the window. -/
def positions (c : Column) : List Nat := List.range c.length.toNat

/-- Visits the positions of the window in order, carrying a state along. -/
@[specialize]
def foldSlots {m : Type → Type} [Monad m] {σ : Type} (c : Column) (visit : σ → Nat → m σ)
    (start : σ) : m σ :=
  foldPositions visit c.length.toNat 0 start

end Column

end Columnar
