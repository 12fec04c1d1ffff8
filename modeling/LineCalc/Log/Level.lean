/-!
# Log levels

Eight names denote six degrees of severity. A record is shown if it is at least
as severe as the chosen level.
-/

namespace LineCalc

/-- The names of log levels. -/
inductive LogLevel where
  | critical
  | fatal
  | error
  | warn
  | warning
  | info
  | debug
  | notset
deriving Repr, DecidableEq

namespace LogLevel

/-- The name of a level. -/
def name : LogLevel → String
  | critical => "CRITICAL"
  | fatal => "FATAL"
  | error => "ERROR"
  | warn => "WARN"
  | warning => "WARNING"
  | info => "INFO"
  | debug => "DEBUG"
  | notset => "NOTSET"

/-- How severe a level is. -/
def severity : LogLevel → Nat
  | critical => 50
  | fatal => 50
  | error => 40
  | warn => 30
  | warning => 30
  | info => 20
  | debug => 10
  | notset => 0

/-- Every level. -/
def all : List LogLevel := [critical, fatal, error, warn, warning, info, debug, notset]

/-- The level with a given name. -/
def ofName? (text : String) : Option LogLevel := all.find? fun level => level.name = text

@[simp] theorem ofName?_name (level : LogLevel) : ofName? level.name = some level := by
  cases level <;> decide

/-- Whether a record of level `record` is shown at the chosen level. -/
def shows (chosen record : LogLevel) : Bool := chosen.severity ≤ record.severity

end LogLevel

end LineCalc
