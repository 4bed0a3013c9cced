import Columnar.Text

/-!
# Printouts

A printout is text on its way out. Writing can break down, and then the printout is cut: what was
written stays, and nothing is written behind it.
-/

namespace Columnar

/-- The text that was written, and whether writing broke down behind it. -/
structure Printout where
  text : Text := []
  cut : Bool := false
deriving DecidableEq, Repr, Inhabited

namespace Printout

/-- A text that was written as a whole. -/
def ofText (text : Text) : Printout := ⟨text, false⟩

/-- Two printouts one behind the other. Nothing is written behind a cut. -/
def append (a b : Printout) : Printout :=
  if a.cut then a else ⟨a.text ++ b.text, b.cut⟩

instance : Append Printout := ⟨append⟩

/-- What comes of writing `n` bytes less than none: `n` blanks, and then writing breaks down. -/
def shortfall (n : Nat) : Printout := ⟨Text.blanks n, true⟩

end Printout

end Columnar
