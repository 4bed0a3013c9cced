import Columnar.Column.Basic

/-!
# Windows of columns

A slice shares type, buffers and dictionary with its column and has a window of its own. Its null
count is stored when it follows from that of the column: all slots are null, none is, or the window
is the whole column.
-/

namespace Columnar.Column

/-- The null count of the window of `length` slots from `offset`, as far as it follows. -/
def countOfWindow (c : Column) (offset length : Int) : Int :=
  if c.storedCount = c.length then length
  else if offset = 0 ∧ length = c.length then c.storedCount
  else if c.storedCount = 0 then 0
  else unknownCount

/-- The window of at most `length` slots from `offset`, cut at the end of the column. The sum of the
offsets is a 64-bit word. -/
def slice (c : Column) (offset length : Int) : Checked Column :=
  if offset > c.length then throw (.breach .windowPastEnd)
  else
    let length := min length (c.length - offset)
    pure
      { c with
        offset := (IntKind.int .w64).wrap (c.offset + offset)
        length
        nullCount := c.countOfWindow offset length }

/-- The window of exactly `length` slots from `offset`, which has to lie inside the column. The sum
of offset and length could overflow, so the bound is tested by a difference, and only the words for
a failure show the sum. -/
def slice? (c : Column) (offset length : Int) : Checked Column :=
  if offset < 0 ∨ length < 0 then throw (.window (.negative offset length))
  else if offset > c.length - length then
    let stop := (IntKind.int .w64).wrap (offset + length)
    throw (.window (.outOfBounds offset stop c.length))
  else c.slice offset length

def drop (c : Column) (offset : Int) : Checked Column := c.slice offset (c.length - offset)

end Columnar.Column
