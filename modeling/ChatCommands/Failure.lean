import ChatCommands.Datum.Literal

/-!
# ChatCommands.Failure

Errors as callers get them: a sort, a message, details, and any further
attributes that whoever raised the error attached to it. Three sorts carry a
value of their own (the parameter, the command or the depth concerned), which
is an attribute and is also noted in the details, under a key that the
caller's details have not taken.
-/

namespace ChatCommands

/-! ## sorts -/

/-- The sorts of errors. -/
inductive FailureSort where
  /-- Any error of the interpreter. -/
  | general
  /-- The interpreter was set up incorrectly. -/
  | configuration
  /-- An invocation does not fit its command. -/
  | parsing
  /-- An invoker may not run a command. -/
  | permission
  /-- Macros were nested too deeply. -/
  | expansion
deriving DecidableEq, Repr

namespace FailureSort

/-- The name that a sort is reported under. -/
def name : FailureSort → String
  | general => "BotCommandError"
  | configuration => "ConfigurationError"
  | parsing => "ParsingError"
  | permission => "CommandPermissionError"
  | expansion => "MacroExpansionError"

/-- All sorts. -/
def all : List FailureSort := [general, configuration, parsing, permission, expansion]

/-- The message of an error that was raised without one; a general error needs one. -/
def defaultMessage? : FailureSort → Option String
  | general => none
  | configuration => some "Configuration error"
  | parsing => some "Parsing failed"
  | permission => some "Permission denied"
  | expansion => some "Macro expansion depth exceeded"

/-- The attribute that a sort has of its own. -/
def ownAttribute? : FailureSort → Option String
  | general => none
  | configuration => none
  | parsing => some "parameter_name"
  | permission => some "command_name"
  | expansion => some "depth"

/-- Whether a value of the own attribute is noted in the details: a depth that is there, and a
name that is not empty. -/
def isNoted (sort : FailureSort) (value : Datum) : Bool :=
  match sort, value with
  | expansion, .null => false
  | expansion, _ => true
  | _, value => value.isGiven

end FailureSort

/-! ## errors -/

/-- An error. -/
structure Failure where
  /-- Its sort. -/
  sort : FailureSort
  /-- Its message. -/
  message : Datum
  /-- Its details. -/
  details : Members
  /-- Its attributes, in the order in which they were set. -/
  attributes : Members
  /-- The values that it is displayed by. -/
  shown : List Datum
deriving Repr

namespace Failure

/-- The details of an error whose own attribute has a value. -/
def notedDetails (sort : FailureSort) (own : Datum) (details : Members) : Members :=
  match sort.ownAttribute? with
  | some key => if sort.isNoted own then Pairs.setNew details key own else details
  | none => details

/-- The own attribute of an error, as a list of no or one attribute. -/
def ownAttributes (sort : FailureSort) (own : Datum) : Members :=
  match sort.ownAttribute? with
  | some key => [(key, own)]
  | none => []

/-- An error with a message, a value of its own attribute and details. -/
def make (sort : FailureSort) (message : String) (own : Datum) (details : Members) : Failure :=
  { sort := sort, message := .text message, details := notedDetails sort own details
    attributes := ownAttributes sort own, shown := [.text message] }

/-- An error of setting up, with details. -/
def configuration (message : String) (details : Members) : Failure :=
  make .configuration message .null details

/-! ## raising with named values -/

/-- The name of the attribute that holds the values an error is displayed by. -/
def shownKey : String := "args"

/-- The name under which an error's own record is asked for. -/
def recordKey : String := "to_dict"

/-- The name of the error itself, which cannot be given. -/
def selfKey : String := "self"

/-- The values that a datum lists, if it can be listed. -/
def listed? : Datum → Option (List Datum)
  | .list items => some items
  | .text s => some (s.toList.map fun c => .text (String.singleton c))
  | .foreign (.bytes bs) => some (bs.map fun b => .integer b.toNat)
  | .record members => some (members.map fun p => .text p.1)
  | _ => none

/-- The details that a value gives; no value gives none. -/
def detailsOf : Datum → Members
  | .record members => members
  | _ => []

/-- Whether a named value is one that errors of a sort declare. -/
def isDeclared (sort : FailureSort) (key : String) : Bool :=
  key == "message" || key == "details" || some key == sort.ownAttribute?

/-- An error raised with named values. The message, the details and the sort's own attribute
are declared; every other value becomes an attribute. Nothing if a value is given twice, if the
error itself is given, if a message is needed and missing, or if the values to display by are
not a list. -/
def ofNamed? (sort : FailureSort) (named : Members) : Option Failure := do
  if !decide (Pairs.keys named).Nodup || Pairs.contains named selfKey then none
  let message ←
    match Pairs.get? named "message" with
    | some m => some m
    | none => sort.defaultMessage?.map .text
  let details := detailsOf ((Pairs.get? named "details").getD .null)
  let own := (sort.ownAttribute?.bind (Pairs.get? named)).getD .null
  let extra := named.filter fun p => !isDeclared sort p.1
  let shown ←
    match Pairs.get? extra shownKey with
    | some d => listed? d
    | none => some [message]
  some { sort := sort, message := message, details := notedDetails sort own details
         attributes := extra ++ ownAttributes sort own, shown := shown }

/-! ## reporting -/

/-- Whether an attribute is listed in an error's record. -/
def isListed (key : String) : Bool :=
  !key.startsWith "_" && key != "message" && key != "details" && key != shownKey

/-- The record of an error: message, type and details, then every listed attribute under its
own name. -/
def toRecord (f : Failure) : Members :=
  Pairs.setAll
    [("message", f.message), ("type", .text f.sort.name), ("details", .record f.details)]
    (f.attributes.filter fun p => isListed p.1)

/-- The record of an error, unless an attribute hides it. -/
def toRecord? (f : Failure) : Option Members :=
  if Pairs.contains f.attributes recordKey then none else some f.toRecord

/-- An error as a message shows it. -/
def display (f : Failure) : String := Datum.displayAll f.shown

end Failure

end ChatCommands
