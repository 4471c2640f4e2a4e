import ChatCommands.Datum
import ChatCommands.Logging.Level

/-!
# ChatCommands.Logging.Record

What one line of the log is made from, and the fields that a layout can name.
A record does not know from the start in which surroundings the program runs;
it has that field as soon as something has tagged it.
-/

namespace ChatCommands

/-- What one line of the log is made from. -/
structure LogRecord where
  /-- How much it matters. -/
  level : Level
  /-- The name of the logger. -/
  logger : String
  /-- The message. -/
  message : String
  /-- Whether it has been tagged. -/
  tagged : Bool := false
deriving DecidableEq, Repr

namespace LogRecord

/-- The surroundings that records are tagged with. -/
def surroundings : String := "prod"

/-- The name that a logger is shown under; the one without a name is the root. -/
def loggerName (logger : String) : String := if logger = "" then "root" else logger

/-- The thread that everything is logged by. -/
def threadName : String := "MainThread"

/-- The process that everything is logged by. -/
def processName : String := "MainProcess"

/-- The fields of every record. -/
def ownFields (r : LogRecord) : Members :=
  [("name", .text (loggerName r.logger)), ("msg", .text r.message),
   ("levelname", .text r.level.name), ("levelno", .integer r.level.number),
   ("exc_info", .null), ("exc_text", .null), ("stack_info", .null),
   ("threadName", .text threadName), ("processName", .text processName),
   ("message", .text r.message)]

/-- The fields of a record. -/
def fields (r : LogRecord) : Members :=
  r.ownFields ++ if r.tagged then [("env_tag", .text surroundings)] else []

end LogRecord

end ChatCommands
