import Columnar.Workspace.Operations
import Columnar.Bits.Range
import Columnar.Memory.Shelf
import Columnar.Memory.Ledger
import Columnar.Outcome
import Columnar.Log
import Columnar.Proofs.Bits.Bitmap
import Columnar.Proofs.Bits.Count
import Columnar.Proofs.Bits.Rounding
import Columnar.Proofs.Bytes
import Columnar.Proofs.Checked
import Columnar.Proofs.Column.Alike
import Columnar.Proofs.Column.Covered
import Columnar.Proofs.Column.Equal
import Columnar.Proofs.Column.Equality
import Columnar.Proofs.Column.LaidOut
import Columnar.Proofs.Column.Reads
import Columnar.Proofs.Column.Shaped
import Columnar.Proofs.Column.Sound
import Columnar.Proofs.Column.Validate
import Columnar.Proofs.Column.WellFormed
import Columnar.Proofs.Column.Within
import Columnar.Proofs.Column.Wrapped
import Columnar.Proofs.DataType.Text
import Columnar.Proofs.Gather.Accounts
import Columnar.Proofs.Gather.Action
import Columnar.Proofs.Gather.Boolean
import Columnar.Proofs.Gather.Concatenated
import Columnar.Proofs.Gather.Draft
import Columnar.Proofs.Gather.Encoded
import Columnar.Proofs.Gather.Failure
import Columnar.Proofs.Gather.FixedWidth
import Columnar.Proofs.Gather.Gathers
import Columnar.Proofs.Gather.Noninterference
import Columnar.Proofs.Gather.Picked
import Columnar.Proofs.Gather.Reference
import Columnar.Proofs.Gather.Strings
import Columnar.Proofs.Gather.Take
import Columnar.Proofs.Gather.Trace
import Columnar.Proofs.Gather.Transfers
import Columnar.Proofs.Gather.Visit
import Columnar.Proofs.Gather.WellFormed
import Columnar.Proofs.IntKind
import Columnar.Proofs.Memory.Buffer
import Columnar.Proofs.Memory.Plan
import Columnar.Proofs.Memory.Pooled
import Columnar.Proofs.Text
import Columnar.Proofs.Workspace.Columns
import Columnar.Proofs.Workspace.Gathering
import Columnar.Proofs.Workspace.Opening
import Columnar.Proofs.Workspace.Runs
import Columnar.Proofs.Workspace.Session
import Columnar.Proofs.Workspace.Sharing
import Columnar.Proofs.Workspace.WellFormed
import Columnar.Proofs.Gather.Congruence
import Columnar.Proofs.Column.Trimmed
import Columnar.Proofs.Column.Recounted
import Columnar.Proofs.Gather.Recounted
import Columnar.Proofs.Workspace.Accounted
import Columnar.Proofs.Workspace.Twins
import Columnar.Proofs.Workspace.Tandem
import Columnar.Proofs.Workspace.TwinOpening
import Columnar.Proofs.Workspace.TwinCounting
import Columnar.Proofs.Workspace.TwinOperations
import Columnar.Proofs.Workspace.Transparent
import Columnar.Proofs.Bits.Range
import Columnar.Proofs.DataType.Equality
import Columnar.Proofs.Memory.Shelf
import Columnar.Proofs.Memory.Lifetime
import Columnar.Proofs.Column.Slice
import Columnar.Proofs.Workspace.Slicing
import Columnar.Proofs.Gather.Local
import Columnar.Proofs.Column.Encoded
import Columnar.Proofs.Column.Ranges
import Columnar.Proofs.Decimal.Numeral
import Columnar.Proofs.Decimal.Scaled
import Columnar.Proofs.Print.Cell
import Columnar.Proofs.Print.Lines
import Columnar.Proofs.Print.Page
import Columnar.Proofs.Print.Legible
import Columnar.Proofs.Print.Faithful
import Columnar.Proofs.Column.Truths
import Columnar.Proofs.Memory.Allocation
import Columnar.Proofs.Workspace.Windows
import Columnar.Proofs.Column.NullBounds
import Columnar.Proofs.Bits.Ceilings
import Columnar.Proofs.Memory.Counters
import Columnar.Proofs.Outcome
import Columnar.Proofs.Gather.Visitors
