import Columnar.Column.Cell

/-!
# Walking over indices

A gather visits the positions of its index column in order. A position is null when its index is
null or names a null slot; otherwise it names a slot of the values. The validity of an index is
looked at before its value, so what lies behind a null index is never read. A walk ends at the
first index that names no slot, or at the first visit that fails.
-/

namespace Columnar

/-- What a gather finds at one position of the indices. -/
inductive Visit where
  | valid (position index : Nat)
  | null (position : Nat)
deriving DecidableEq, Repr

def Visit.position : Visit → Nat
  | valid p _ => p
  | null p => p

/-- An index as an offset: not negative, and not above the largest signed 64-bit word. -/
def IntKind.toOffset (k : IntKind) (index : Int) : Checked Int :=
  if k.signed ∧ index < 0 then throw (.gather (.negativeIndex index))
  else if ¬ k.signed ∧ index > (IntKind.int .w64).max then throw (.gather (.indexTooLarge index))
  else pure index

namespace Gather

/-- Whether a gathered slot is valid, by the validity of the index and of the slot that it names. -/
def outputIsValid (index value : Bool) : Bool := index && value

/-- What a gather finds at position `p`, with index values of kind `k`. -/
def visitAt (values indices : Column) (k : IntKind) (p : Nat) : Checked Visit := do
  if ← indices.isValid p then
    -- As an offset the index can be compared with a length, whatever its kind.
    let index ← k.toOffset (← indices.integer k p)
    if index ≥ values.length then throw (.gather (.outOfBounds index values.length))
    if outputIsValid true (← values.isValid index) then return .valid p index.toNat
  return .null p

/-- Visits the positions of the indices in order, carrying a state along. -/
def walk {m : Type → Type} [Monad m] [MonadExceptOf Fault m] {σ : Type}
    (values indices : Column) (k : IntKind) (visit : σ → Visit → m σ) (start : σ) : m σ :=
  indices.foldSlots (fun s p => do visit s (← ofExcept (visitAt values indices k p))) start

end Gather

end Columnar
