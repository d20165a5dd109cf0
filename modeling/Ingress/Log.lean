/-!
# Log lines

What the program says about its work, as values that its operations return.
-/

namespace Ingress

/-- How much a log line matters. -/
inductive LogLevel where
  /-- Something needs intervention. -/
  | error
  /-- Something went wrong that may mend itself. -/
  | warn
  /-- Something changed. -/
  | info
  /-- Something was looked at. -/
  | debug
  deriving DecidableEq, Repr

/-- The name of a level. -/
def LogLevel.name : LogLevel → String
  | .error => "ERROR"
  | .warn => "WARN"
  | .info => "INFO"
  | .debug => "DEBUG"

/-- A line of the log. -/
structure LogLine where
  /-- How much it matters. -/
  level : LogLevel
  /-- What it says. -/
  message : String
  deriving DecidableEq, Repr

/-- The line as it is written. -/
def LogLine.text (line : LogLine) : String :=
  line.level.name ++ " " ++ line.message

/-- Lines in the order in which they were written. -/
abbrev Log := List LogLine

/-- How much more than errors a level tells: the rank of a level among the levels. -/
def LogLevel.rank : LogLevel → Nat
  | .error => 1
  | .warn => 2
  | .info => 3
  | .debug => 4

/-- Which lines are shown. -/
inductive LogFilter where
  /-- None. -/
  | off
  /-- Those of a level, and those that matter more. -/
  | upTo (level : LogLevel)
  /-- All. -/
  | all
  deriving DecidableEq, Repr

namespace LogFilter

/-- Whether a line is shown. -/
def admits (filter : LogFilter) (line : LogLine) : Bool :=
  match filter with
  | .off => false
  | .upTo level => line.level.rank ≤ level.rank
  | .all => true

/-- The filter that goes by a name, in any case. -/
def ofText? (text : String) : Option LogFilter :=
  match text.toUpper with
  | "OFF" => some .off
  | "ERROR" => some (.upTo .error)
  | "WARN" => some (.upTo .warn)
  | "INFO" => some (.upTo .info)
  | "DEBUG" => some (.upTo .debug)
  | "TRACE" => some .all
  | _ => none

/-- The lines that are shown. -/
def apply (filter : LogFilter) (log : Log) : Log :=
  log.filter filter.admits

end LogFilter

end Ingress
