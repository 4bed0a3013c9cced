import Columnar.Status

/-!
# Log lines

A log has a threshold and may know the name of its application. A line is written when its level
reaches the threshold; a fatal line is always written, and the program stops after it.
-/

namespace Columnar

/-- A log: the least level that is written and the application's name. -/
structure Log where
  threshold : Int := 0
  application : Option Text := none
deriving DecidableEq, Repr, Inhabited

namespace Log

/-- The level of a line after which the program stops. -/
def fatal : Int := 3

def warning : Int := 1

def levelName (level : Int) : Text :=
  if level = -1 then Text.ascii "DEBUG"
  else if level = 0 then Text.ascii "INFO"
  else if level = 1 then Text.ascii "WARNING"
  else if level = 2 then Text.ascii "ERROR"
  else if level = 3 then Text.ascii "FATAL"
  else Text.ascii "UNKNOWN"

/-- The log after its application has started. -/
def start (application : Text) (threshold : Int) : Log := ⟨threshold, some application⟩

def enabled (log : Log) (level : Int) : Bool := log.threshold ≤ level

def writes (log : Log) (level : Int) : Bool := log.enabled level || level == fatal

/-- A line, whether or not it is written. -/
def line (log : Log) (level : Int) (place message : Text) : Text :=
  levelName level ++ Text.ascii " " ++
    (log.application.map (· ++ Text.ascii " ")).getD [] ++
    place ++ Text.ascii ": " ++ message ++ Text.ascii "\n"

/-- What is written for a message at a level. -/
def emit (log : Log) (level : Int) (place message : Text) : Text :=
  if log.writes level then log.line level place message else []

/-- A place in a file. The file's name ends before its first zero byte. -/
def placeOf (file : Text) (line : Int) : Text :=
  file.takeWhile (· != 0) ++ Text.ascii ":" ++ Text.ofInt line

/-- What is written when a status is reported as a warning, after an introduction. -/
def warn (log : Log) (place introduction : Text) (status : Status) : Text :=
  log.emit warning place (introduction ++ Text.ascii ": " ++ status.text)

/-- What is written when only a failed status is reported as a warning. -/
def warnFailure (log : Log) (place introduction : Text) (status : Status) : Text :=
  if status.isOk then [] else log.warn place introduction status

end Log

end Columnar
