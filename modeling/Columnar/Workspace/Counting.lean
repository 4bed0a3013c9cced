import Columnar.Workspace.Basic
import Columnar.Column.Equality
import Columnar.Print.Column

/-!
# When nulls are counted

A null count that is not known is counted when an operation first needs it, and is then stored for
all who share the record. Here stands, operation by operation, which counts that are.
-/

namespace Columnar.Session

/-- Stores the null count of a record. -/
def countRecord (id : Nat) : Session Unit := do
  let c := (← get).column id
  setNullCount id (← c.countNulls)

/-- Stores the null count that validating a record looks at. -/
def countForValidation (id : Nat) : Session Unit := do
  if ((← get).column id).validationCounts then countRecord id

/-- Stores the null counts that printing a view looks at. The column is that of the view. -/
def countForPrinting (options : PrintOptions) : Column → (view : Nat) → Session Unit
  | ⟨.null, _, _, _, _, _⟩, _ => return
  | ⟨.dictionary .., _, _, _, _, dictionary⟩, view => do
    let _ ← Print.pad options.indent
    match dictionary with
    | none => throw (.breach .missingDictionary)
    | some d =>
      let opened ← openDictionary view
      countForPrinting (Print.indented options) d opened
      if let some keys := ((← get).view view).keys then
        countForValidation ((← get).view keys).record
  | _, view => do countForValidation ((← get).view view).record

/-- Stores the null counts that comparing two views looks at, given which those of their
dictionaries are. -/
def countForComparing (l r : Nat) (dictionaries : Session Unit) : Session Unit := do
  if l = r then return
  let w ← get
  if (w.columnOf l).length ≠ (w.columnOf r).length then return
  countRecord (w.view l).record
  countRecord (w.view r).record
  let w ← get
  let (a, b) := (w.columnOf l, w.columnOf r)
  if a.nullCount ≠ b.nullCount then return
  if ¬ a.type.equals b.type then return
  if a.length = 0 then return
  if a.type.isDictionary then dictionaries

/-- Stores the null counts that comparing two views looks at. The column is that of the first. -/
def countForEquality : Column → (l r : Nat) → Session Unit
  | ⟨_, _, _, _, _, none⟩, l, r =>
    countForComparing l r (throw (.breach .missingDictionary))
  | ⟨_, _, _, _, _, some d⟩, l, r =>
    countForComparing l r do
      let a ← openDictionary l
      let b ← openDictionary r
      countForEquality d a b

/-- Stores the null counts that comparing ranges of two views looks at. -/
def countForRange (l r : Nat) (start stop other : Int) : Session Unit := do
  if l = r ∧ start = other then return
  let w ← get
  let (a, b) := (w.columnOf l, w.columnOf r)
  if ¬ a.type.equals b.type then return
  if stop - start = 0 then return
  if a.type.isDictionary then
    let x ← openDictionary l
    let y ← openDictionary r
    countForEquality ((← get).columnOf x) x y

end Columnar.Session
