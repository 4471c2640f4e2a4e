import ChatCommands.Logging.Notice
import ChatCommands.Settings

/-!
# ChatCommands.Settings.Environment

Settings from the environment. Five variables can set something:

* the marker, the bound on macros and the number of workers are set by a
  variable that is there, even if it is empty;
* the level of the log and its file by a variable that is not empty. The level
  is trimmed and taken in capitals.

A variable for an integer that does not hold one is reported and sets the
default.
-/

namespace ChatCommands

/-- The values of the variables that are there. -/
abbrev Environment := String → Option String

namespace Environment

/-! ## variables -/

/-- What the names of all variables begin with. -/
def namespaceLead : String := "BOTCMD_"

/-- The variable of the marker. -/
def markerName : String := namespaceLead ++ "COMMAND_PREFIX"

/-- The variable of the bound on macros. -/
def maxMacroDepthName : String := namespaceLead ++ "MAX_MACRO_DEPTH"

/-- The variable of the number of workers. -/
def workersName : String := namespaceLead ++ "WORKER_THREADS"

/-- The variable of the level of the log. -/
def levelName : String := namespaceLead ++ "LOG_LEVEL"

/-- The variable of the file of the log. -/
def fileName : String := namespaceLead ++ "LOG_FILE"

/-- The environment of a list of variables. -/
def ofPairs (ps : List (String × String)) : Environment := Pairs.get? ps

/-- The environment in which nothing is set. -/
def empty : Environment := fun _ => none

/-- An environment without one of its variables. -/
def without (env : Environment) (name : String) : Environment :=
  fun other => if other = name then none else env other

/-! ## values -/

/-- The value of a variable, unless it is empty. -/
def nonEmpty? (env : Environment) (name : String) : Option String :=
  (env name).filter (· ≠ "")

/-- The capital of a letter; besides the ASCII letters the dotless i has an ASCII capital that
occurs in the name of a level. -/
def capital (c : Char) : Char := if c = 'ı' then 'I' else c.toUpper

/-- The text of a level without blanks around it, in capitals. -/
def levelText (s : String) : String := String.ofList ((Text.strip s.toList).map capital)

/-- The integer that a variable sets. -/
def integer? (env : Environment) (name : String) (default : Nat) : Option Int :=
  (env name).map fun s => (Numeral.readInteger? s).getD default

/-- What is logged about a variable for an integer. -/
def integerNotices (env : Environment) (name : String) : List Notice :=
  match env name with
  | some s => if (Numeral.readInteger? s).isSome then [] else [.ignoredInteger s name]
  | none => []

/-! ## settings -/

/-- A member of a record, if there is a value for it. -/
def member? (key : String) (value : Option Datum) : Members :=
  match value with
  | some d => [(key, d)]
  | none => []

/-- The settings of the log that are set. -/
def loggingMembers (env : Environment) : Members :=
  member? SettingKey.level ((env.nonEmpty? levelName).map fun s => .text (levelText s)) ++
    member? SettingKey.file ((env.nonEmpty? fileName).map .text)

/-- The settings that are set, and no others. -/
def members (env : Environment) : Members :=
  let logging := env.loggingMembers
  member? SettingKey.marker ((env markerName).map .text) ++
    member? SettingKey.maxMacroDepth
      ((env.integer? maxMacroDepthName Settings.default.maxMacroDepth).map .integer) ++
    member? SettingKey.workers
      ((env.integer? workersName Settings.default.workers).map .integer) ++
    if logging.isEmpty then [] else [(SettingKey.logging, .record logging)]

/-- What is logged when the variables are read. -/
def notices (env : Environment) : List Notice :=
  env.integerNotices maxMacroDepthName ++ env.integerNotices workersName

/-- The settings of an environment alone. -/
def settings (env : Environment) : Checked Settings := Settings.readMembers env.members

end Environment

end ChatCommands
