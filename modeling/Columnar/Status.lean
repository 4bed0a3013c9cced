import Columnar.Text

/-!
# Statuses

The outcome of an operation that may fail: fine, or a report made of a code and a message. A code
that says that all went well never appears in a report.
-/

namespace Columnar

/-- Why an operation failed, in broad terms. -/
inductive Code where
  | outOfMemory | typeError | invalid | indexError | capacityError | unknownError | notImplemented
deriving DecidableEq, Repr, Inhabited

namespace Code

/-- Every code, in the order of their numbers. -/
def all : List Code :=
  [outOfMemory, typeError, invalid, indexError, capacityError, unknownError, notImplemented]

/-- The number of a code. Zero is kept for success. -/
def number : Code → Nat
  | outOfMemory => 1
  | typeError => 3
  | invalid => 4
  | indexError => 5
  | capacityError => 6
  | unknownError => 9
  | notImplemented => 10

def words : Code → Text
  | outOfMemory => Text.ascii "Out of memory"
  | typeError => Text.ascii "Type error"
  | invalid => Text.ascii "Invalid"
  | indexError => Text.ascii "Index error"
  | capacityError => Text.ascii "Capacity error"
  | unknownError => Text.ascii "Unknown error"
  | notImplemented => Text.ascii "NotImplemented"

def identifier : Code → Text
  | outOfMemory => Text.ascii "OutOfMemory"
  | typeError => Text.ascii "TypeError"
  | invalid => Text.ascii "Invalid"
  | indexError => Text.ascii "IndexError"
  | capacityError => Text.ascii "CapacityError"
  | unknownError => Text.ascii "UnknownError"
  | notImplemented => Text.ascii "NotImplemented"

/-- The words for any code number. Codes are kept in one byte, so a number counts modulo 256. -/
def wordsOfNumber (n : Int) : Text :=
  let byte := n.bmod 256
  if byte = 0 then Text.ascii "OK"
  else
    match all.find? fun c => (c.number : Int) = byte with
    | some c => c.words
    | none => Text.ascii "Unrecognized status code"

end Code

/-- A failure as its caller sees it. -/
structure Report where
  code : Code
  message : Text
deriving DecidableEq, Repr, Inhabited

def Report.text (r : Report) : Text := r.code.words ++ Text.ascii ": " ++ r.message

/-- The outcome of an operation without a result. -/
inductive Status where
  | ok
  | failed (report : Report)
deriving DecidableEq, Repr, Inhabited

namespace Status

def isOk : Status → Bool
  | ok => true
  | failed _ => false

def report? : Status → Option Report
  | ok => none
  | failed r => some r

/-- The number of the status' code, zero for success. -/
def number (s : Status) : Nat := (s.report?.map fun r => r.code.number).getD 0

/-- The identifiers of the failure predicates that hold, which is the code's own or none. -/
def identifier (s : Status) : Text := (s.report?.map fun r => r.code.identifier).getD []

def words (s : Status) : Text := (s.report?.map fun r => r.code.words).getD (Text.ascii "OK")

def message (s : Status) : Text := (s.report?.map Report.message).getD []

def text (s : Status) : Text := (s.report?.map Report.text).getD (Text.ascii "OK")

/-- What is written when a program stops because of a status. -/
def lastWords (s : Status) : Text :=
  Text.ascii "-- quiver fatal error --\n" ++ s.text ++ Text.ascii "\n"

/-- What is left of a status after it was moved elsewhere. -/
def moved (_ : Status) : Status := ok

/-- Goes on with `next` unless the status is a failure, which is then the outcome. -/
def andThen (s next : Status) : Status :=
  match s with
  | ok => next
  | failed r => failed r

end Status

end Columnar
