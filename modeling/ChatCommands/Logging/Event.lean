import ChatCommands.Logging.Level
import ChatCommands.Datum.Literal

/-!
# ChatCommands.Logging.Event

The text of a named event with fields: the event first, then every other field
in the order of the names, each as its name and its value. A field that the
event has itself counts more than one of the context that it is logged in; the
name and the level of the event count more than both. A field that would say
which failure the event is about is left out, because events are not logged
while a failure is handled.

Some names cannot be given to fields, because they mean something else where
fields are handed over.
-/

namespace ChatCommands

/-- A named event that is logged in a context. -/
structure LoggedEvent where
  /-- How much it matters. -/
  level : Level
  /-- Its name. -/
  name : String
  /-- The fields of the context. -/
  context : Members
  /-- The fields of the event. -/
  fields : Members
deriving Repr

namespace LoggedEvent

/-- The field that the name of an event goes into. -/
def nameKey : String := "event"

/-- The field that the level of an event goes into. -/
def levelKey : String := "level"

/-- All fields of an event. -/
def allFields (e : LoggedEvent) : Members :=
  Pairs.set (Pairs.set (Pairs.setAll e.context e.fields) nameKey (.text e.name)) levelKey
    (.text e.level.lowerName)

/-- A field as a name and a value. -/
def fieldText (p : String × Datum) : String := p.1 ++ "=" ++ p.2.literal

/-- The field that says which failure an event is about. -/
def failureKey : String := "exc_info"

/-- The text of an event. -/
def message (e : LoggedEvent) : String :=
  let others := e.allFields.filter fun p => p.1 != nameKey && p.1 != failureKey
  " ".intercalate (fieldText (nameKey, .text e.name) ::
    (others.mergeSort fun p q => decide (p.1 ≤ q.1)).map fieldText)

/-- The names that the fields of a context cannot have. -/
def takenInContext : List String := ["self", "logger"]

/-- The names that the fields of an event cannot have. -/
def takenInEvent : List String := ["self", "method_name", nameKey]

/-- Whether a field has a name that it cannot have. -/
def hasTakenName (e : LoggedEvent) : Bool :=
  e.context.any (fun p => takenInContext.contains p.1) ||
    e.fields.any fun p => takenInEvent.contains p.1

end LoggedEvent

/-- Why an event is not logged. -/
inductive LoggingFault where
  /-- The logger of a context is asked for outside of the context. -/
  | notBound
  /-- A field has a name that it cannot have. -/
  | nameTaken
deriving DecidableEq, Repr

/-- A fault in words. -/
def LoggingFault.message : LoggingFault → String
  | notBound => "Logger not bound. Use this context manager in a with statement."
  | nameTaken => "The name of a field is taken."

/-- The text of an event that may be logged. -/
def LoggedEvent.message? (e : LoggedEvent) : Except LoggingFault String :=
  if e.hasTakenName then .error .nameTaken else .ok e.message

end ChatCommands
