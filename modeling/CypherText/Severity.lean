import CypherText.Failure

/-!
# Severities

The severity of a log record is a number; a logger shows the records whose number is at least
its threshold.
-/

namespace CypherText

/-- How serious a record is. -/
inductive Severity where
  | debug
  | info
  | warning
  | error
  | critical
  deriving DecidableEq, Repr

namespace Severity

/-- All severities, from the least to the most serious. -/
def all : List Severity :=
  [.debug, .info, .warning, .error, .critical]

/-- The name of a severity in reports. -/
def name : Severity → String
  | debug => "debug"
  | info => "info"
  | warning => "warning"
  | error => "error"
  | critical => "critical"

/-- The name of a severity in log records. -/
def label : Severity → String
  | debug => "DEBUG"
  | info => "INFO"
  | warning => "WARNING"
  | error => "ERROR"
  | critical => "CRITICAL"

/-- The number of a severity. -/
def number : Severity → Nat
  | debug => 10
  | info => 20
  | warning => 30
  | error => 40
  | critical => 50

/-- The severity with the given name. -/
def ofName? (name : String) : Option Severity :=
  all.find? (·.name == name)

end Severity

namespace Threshold

/-- The numbers of the thresholds that have a name. -/
def named : List (String × Nat) :=
  [("CRITICAL", 50), ("FATAL", 50), ("ERROR", 40), ("WARNING", 30), ("WARN", 30), ("INFO", 20),
    ("DEBUG", 10), ("NOTSET", 0)]

/-- The threshold of the given name. -/
def ofName? (name : String) : Option Nat :=
  named.lookup name

/-- The threshold of the given name; any other name means that of `info`. -/
def ofNameOrInfo (name : String) : Nat :=
  (ofName? name).getD Severity.info.number

/-- The threshold of a logger to which one was given: zero stands for that of the logger above,
which shows warnings. -/
def effective (threshold : Nat) : Nat :=
  if threshold = 0 then Severity.warning.number else threshold

/-- The threshold of a logger to which the one of the given name was given. -/
def ofLoggerLevel (name : String) : Except Failure Nat :=
  match ofName? name with
  | some threshold => .ok (effective threshold)
  | none => .error (.unknownChoice name)

end Threshold

end CypherText
