import Columnar.Fault.Basic

/-!
# Outcomes that hold a value

An outcome keeps a status and perhaps a value. It offers a value exactly when its status is fine.
Moving out of an outcome leaves its status fine and its value in place; converting an outcome to
another value type copies the status.
-/

namespace Columnar

namespace Status

/-- A status with a code and a message. A code that says that all went well takes no message. -/
def make (code : Option Code) (message : Text) : Checked Status :=
  match code with
  | some c => pure (.failed ⟨c, message⟩)
  | none => throw (.breach .okReport)

end Status

/-- A status together with the value that a fine status promises. -/
structure Outcome (α : Type) where
  status : Status
  value? : Option α
deriving DecidableEq, Repr

namespace Outcome

variable {α β : Type}

/-- An outcome that was never assigned. -/
def unassigned : Outcome α :=
  ⟨.failed ⟨.unknownError, Text.ascii "Result was never assigned"⟩, none⟩

instance : Inhabited (Outcome α) := ⟨unassigned⟩

def ofValue (a : α) : Outcome α := ⟨.ok, some a⟩

/-- The outcome of a failure. A fine status does not make an outcome, for want of a value. -/
def ofStatus (status : Status) : Checked (Outcome α) :=
  match status with
  | .ok => throw (.breach .okOutcome)
  | .failed r => pure ⟨.failed r, none⟩

def isOk (o : Outcome α) : Bool := o.status.isOk

/-- What is left of an outcome after it was moved elsewhere. -/
def moved (o : Outcome α) : Outcome α := ⟨.ok, o.value?⟩

/-- The outcome with its value converted. -/
def convert (f : α → β) (o : Outcome α) : Outcome β := ⟨o.status, o.value?.map f⟩

/-- Whether both hold equal values or equal failures. -/
def equals [DecidableEq α] (a b : Outcome α) : Bool :=
  if a.isOk != b.isOk then false
  else if a.isOk then a.value? == b.value? else a.status == b.status

/-- The value, which a failed outcome does not have. -/
def get (o : Outcome α) : Checked α :=
  match o.status, o.value? with
  | .ok, some a => pure a
  | .ok, none => throw .stray
  | .failed r, _ => throw (.breach (.noValue r))

def getD (o : Outcome α) (alternative : α) : α :=
  if o.isOk then o.value?.getD alternative else alternative

/-- The status, and the place of a variable after the value was stored there: a failed outcome
leaves it as it was. -/
def store (o : Outcome α) (old : α) : Status × α :=
  match o.status, o.value? with
  | .ok, some a => (.ok, a)
  | s, _ => (s, old)

end Outcome

end Columnar
