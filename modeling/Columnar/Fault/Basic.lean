import Columnar.Fault.Cause

/-!
# Faults

Everything that can keep an operation from answering. A failure is reported to the caller and names
its cause. A breach of contract stops the program, a run of bytes of negative length cannot be made,
a register may hold nothing or never have been made, and a stray access would touch a byte outside
its buffer.
-/

namespace Columnar

/-- The cause of a failure that the caller is told about. -/
inductive Failure where
  | allocation (error : AllocationError)
  | parameter (error : ParameterError)
  | window (error : WindowError)
  | defect (defect : Defect)
  | encoding (error : EncodingError)
  | gather (error : GatherError)
  /-- A failure that a caller's own code reported. -/
  | reported (report : Report)
deriving DecidableEq, Repr

def Failure.report : Failure → Report
  | allocation e => e.report
  | parameter e => e.report
  | window e => e.report
  | defect d => d.report
  | encoding e => e.report
  | gather e => e.report
  | reported r => r

/-- A breach of contract, after which a program does not go on. -/
inductive Breach where
  | timeUnit (unit : TimeUnit)
  | precision (precision : Int)
  | windowPastEnd
  | missingDictionary
  | encodingMismatch
  | missingColumn
  | okReport
  | okOutcome
  | noValue (report : Report)
deriving DecidableEq, Repr

/-- The message of a breach, where one is promised. -/
def Breach.message? : Breach → Option Text
  | okOutcome => some (Text.ascii "Result constructed from an OK status")
  | noValue report =>
    some (Text.ascii "Value requested from a failed Result: " ++ report.text)
  | _ => none

/-- Anything that keeps an operation from answering. -/
inductive Fault where
  | failure (cause : Failure)
  | breach (breach : Breach)
  | negativeLength
  | emptyRegister
  | unknownRegister
  | stray
deriving DecidableEq, Repr

namespace Fault

abbrev allocation (e : AllocationError) : Fault := failure (.allocation e)

abbrev parameter (e : ParameterError) : Fault := failure (.parameter e)

abbrev window (e : WindowError) : Fault := failure (.window e)

abbrev defect (d : Defect) : Fault := failure (.defect d)

abbrev encoding (e : EncodingError) : Fault := failure (.encoding e)

abbrev gather (e : GatherError) : Fault := failure (.gather e)

end Fault

/-- An answer, or the fault that kept it from being given. -/
abbrev Checked := Except Fault

instance {α : Type} [DecidableEq α] : DecidableEq (Checked α)
  | .ok a, .ok b => decidable_of_iff (a = b) (by simp)
  | .error e, .error f => decidable_of_iff (e = f) (by simp)
  | .ok _, .error _ => isFalse (by simp)
  | .error _, .ok _ => isFalse (by simp)

end Columnar
