import Columnar.Column.Encoded

/-!
# Equality of columns

Two columns are equal when they have the same type, the same length, the same null slots and the
same cells in their valid slots; dictionary columns also need equal dictionaries. What lies behind a
null slot takes no part. Lengths and null counts are compared first, and a column that is known to
be the very same one is equal without a look at its slots.
-/

namespace Columnar.Column

/-- Whether the byte strings in slot `i` of `l` and slot `j` of `r` have the same length. -/
def lengthsAgree (l r : Column) (w : Width) (i j : Int) : Checked Bool :=
  return (← l.stringLength w i) == (← r.stringLength w j)

/-- Whether slot `i` of `l` and slot `j` of `r` have equal cells. Byte strings of different lengths
differ, and their bytes are not looked at. -/
def cellsAgree (l r : Column) (i j : Int) : Checked Bool := do
  if let .strings w := l.type.layout then
    if ¬ (← lengthsAgree l r w i j) then return false
  return (← l.cell i) == (← r.cell j)

/-- Whether slot `i` of `l` and slot `j` of `r` are both null or both valid with equal cells. -/
def slotsAgree (l r : Column) (i j : Int) : Checked Bool := do
  let valid ← l.isValid i
  if valid != (← r.isValid j) then return false
  if ¬ valid then return true
  cellsAgree l r i j

/-- Whether `n` slots from `i` on in `l` agree with those from `j` on in `r`. The first two that
differ decide. -/
def windowsAgree (l r : Column) (i j : Int) : (n : Nat) → Checked Bool
  | 0 => pure true
  | n + 1 => do
    if ← slotsAgree l r i j then windowsAgree l r (i + 1) (j + 1) n
    else return false

/-- Whether slots `start` to `stop` of `l` equal those from `other` on in `r`, given how their
dictionaries compare. `same` says that both are the very same column. -/
def rangeAgrees (same : Bool) (l r : Column) (start stop other : Int)
    (dictionaries : Checked Bool) : Checked Bool := do
  -- A column equals itself even where its slots could not be read.
  if same ∧ start = other then return true
  if ¬ l.type.equals r.type then return false
  if stop - start = 0 then return true
  match l.type with
  | .null => return true
  | .dictionary .. =>
    if ← dictionaries then windowsAgree l.keys r.keys start other (stop - start).toNat
    else return false
  | _ => windowsAgree l r start other (stop - start).toNat

/-- Whether the columns have equal lengths and null counts and agree in every slot, given how their
dictionaries compare. -/
def wholeAgrees (same : Bool) (l r : Column) (dictionaries : Checked Bool) : Checked Bool := do
  if same then return true
  if l.length ≠ r.length then return false
  if (← l.countNulls) ≠ (← r.countNulls) then return false
  rangeAgrees false l r 0 l.length 0 dictionaries

/-- Whether two columns are equal. `same` says that they are the very same one. -/
def equals (same : Bool) : Column → Column → Checked Bool
  | ⟨t, n, o, k, bs, none⟩, r =>
    wholeAgrees same ⟨t, n, o, k, bs, none⟩ r (throw (.breach .missingDictionary))
  | ⟨t, n, o, k, bs, some d⟩, r =>
    wholeAgrees same ⟨t, n, o, k, bs, some d⟩ r do
      let _ ← d.opened
      let e ← r.openDictionary
      equals same d e

/-- How the dictionaries of two columns compare. -/
def dictionariesEqual (same : Bool) (l r : Column) : Checked Bool := do
  let d ← l.openDictionary
  let e ← r.openDictionary
  equals same d e

/-- Whether slots `start` to `stop` of `l` equal those from `other` on in `r`. -/
def rangeEquals (same : Bool) (l r : Column) (start stop other : Int) : Checked Bool :=
  rangeAgrees same l r start stop other (dictionariesEqual same l r)

end Columnar.Column
