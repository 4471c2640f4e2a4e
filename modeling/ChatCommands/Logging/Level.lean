/-!
# ChatCommands.Logging.Level

How much a log entry matters.
-/

namespace ChatCommands

/-- The levels of log entries, the least one first. -/
inductive Level where
  /-- For those who look for a fault. -/
  | debug
  /-- What happens in due course. -/
  | info
  /-- Something is amiss. -/
  | warning
  /-- Something failed. -/
  | error
  /-- Nothing works. -/
  | critical
deriving DecidableEq, Repr

namespace Level

/-- All levels. -/
def all : List Level := [debug, info, warning, error, critical]

/-- The name of a level in settings and log lines. -/
def name : Level → String
  | debug => "DEBUG"
  | info => "INFO"
  | warning => "WARNING"
  | error => "ERROR"
  | critical => "CRITICAL"

/-- The name of a level in log entries with fields. -/
def lowerName : Level → String
  | debug => "debug"
  | info => "info"
  | warning => "warning"
  | error => "error"
  | critical => "critical"

/-- The weight of a level. -/
def number : Level → Nat
  | debug => 10
  | info => 20
  | warning => 30
  | error => 40
  | critical => 50

/-- The levels by their names. -/
def byName : List (String × Level) := all.map fun l => (l.name, l)

end Level

end ChatCommands
