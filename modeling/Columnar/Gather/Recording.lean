import Columnar.Gather.Visit

/-!
# Recorded walks

A walk whose visitor only writes down its visits, and which may fail at a visit of the caller's
choice. The visit that fails is written down too.
-/

namespace Columnar.Gather

/-- A computation that writes visits down and may fail. -/
abbrev Recorded := ExceptT Fault (StateM (List Visit))

/-- The failure of a visitor that stops at visit number `n`. -/
def stopAt (n : Nat) : Fault :=
  .failure (.reported ⟨.invalid, Text.ascii "stop at " ++ Text.ofNat n⟩)

/-- Writes a visit down, and fails if its number is that of the visit to fail at. -/
def recordVisit (failAt : Option Nat) (v : Visit) : Recorded Unit := do
  let before ← get
  set (before ++ [v])
  if failAt = some before.length then throw (stopAt before.length)

/-- The visits of a walk over index values of kind `k`, and how the walk ended. -/
def record (values indices : Column) (k : IntKind) (failAt : Option Nat) :
    Checked Unit × List Visit :=
  (walk (m := Recorded) values indices k (fun _ v => recordVisit failAt v) ()).run.run []

end Columnar.Gather
