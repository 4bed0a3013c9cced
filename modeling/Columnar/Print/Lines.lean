import Columnar.Text

/-!
# Lines of a printed column

A column prints one slot to a line. A long column shows a window of slots at each end and one line
of dots between.
-/

namespace Columnar

/-- What a line between the brackets shows. -/
inductive Line where
  | slot (position : Int)
  | dots
deriving DecidableEq, Repr

namespace Print

/-- The lines from slot `i` on of a column of `length` slots. Where the middle begins, the walk
leaves a line of dots and goes on behind the middle. -/
def linesFrom (length window i : Int) : List Line :=
  if _ : i < length then
    if _ : window ≤ i ∧ i < length - window then
      .dots :: linesFrom length window (length - window)
    else .slot i :: linesFrom length window (i + 1)
  else []
termination_by (length - i).toNat

/-- The lines of a column of `length` slots. -/
def lines (length window : Int) : List Line := linesFrom length window 0

end Print

end Columnar
