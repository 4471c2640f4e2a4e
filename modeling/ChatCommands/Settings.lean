import ChatCommands.Logging.Level
import ChatCommands.Marker
import ChatCommands.Validation

/-!
# ChatCommands.Settings

The settings of the interpreter and how they are read from a record. Members
that name no setting are ignored, settings that are not named keep their
defaults, and the faults of all settings are reported together, in the order
of the fields below.
-/

namespace ChatCommands

/-! ## settings -/

/-- The settings of the log. -/
structure LogSettings where
  /-- The least level that is logged. -/
  level : Level := .info
  /-- The file that is logged to, besides the console. -/
  file : Option String := none
deriving DecidableEq, Repr

/-- The settings of the interpreter. -/
structure Settings where
  /-- What a command starts with. -/
  marker : String := "!"
  /-- How deeply macros may be nested; with zero none is dispatched. -/
  maxMacroDepth : Nat := 8
  /-- How many tasks may run at a time. -/
  workers : Nat := 4
  /-- What a user is told who may not run a command. -/
  deniedMessage : String := "You don't have permission."
  /-- What stands in front of a parse fault. -/
  parseErrorLead : String := "Error:\n"
  /-- The settings of the log. -/
  logging : LogSettings := {}
deriving DecidableEq, Repr

/-- The settings when nothing is set. -/
def Settings.default : Settings := {}

/-! ## their names in records -/

namespace SettingKey

/-- The name of the marker. -/
def marker : String := "command_prefix"

/-- The name of the bound on macros. -/
def maxMacroDepth : String := "max_macro_depth"

/-- The name of the number of workers. -/
def workers : String := "worker_threads"

/-- The name of the denial. -/
def deniedMessage : String := "permission_denied_message"

/-- The name of what stands in front of a parse fault. -/
def parseErrorLead : String := "parse_error_prefix"

/-- The name of the log's settings. -/
def logging : String := "logging"

/-- The name of the log's level, among the log's settings. -/
def level : String := "level"

/-- The name of the log's file, among the log's settings. -/
def file : String := "log_file"

end SettingKey

/-! ## reading -/

namespace LogSettings

/-- The sort under which log settings are shown. -/
def sort : String := "LoggingConfig"

/-- A text, or no value. -/
def readFile : Datum → Checked (Option String)
  | .null => .ok none
  | d => Checked.app (.ok some) d.readText

/-- Reads log settings. -/
def read : Datum → Checked LogSettings
  | .record members =>
    Checked.app (Checked.app (.ok LogSettings.mk)
      (Datum.readFieldOr members SettingKey.level Level.info (Datum.readChoice Level.byName)))
      (Datum.readFieldOr members SettingKey.file none readFile)
  | _ => Checked.fault (.notRecord sort)

/-- Log settings as a record with all members. -/
def toRecord (s : LogSettings) : Datum :=
  .record [(SettingKey.level, .text s.level.name), (SettingKey.file, .ofText? s.file)]

end LogSettings

namespace Settings

/-- The sort under which settings are shown. -/
def sort : String := "BotCommandConfig"

/-- Reads a marker. -/
def readMarker (d : Datum) : Checked String :=
  match d.readText with
  | .error es => .error es
  | .ok s =>
    match Marker.textFault? s with
    | some f => Checked.fault (.refused f.message)
    | none => .ok s

/-- Reads a count that is not below a bound. -/
def readCount (least : Nat) (d : Datum) : Checked Nat :=
  Checked.app (.ok Int.toNat) (d.readIntegerFrom least)

/-- Reads the members of a record as settings. -/
def readMembers (members : Members) : Checked Settings :=
  Checked.app (Checked.app (Checked.app (Checked.app (Checked.app (Checked.app
    (.ok Settings.mk)
    (Datum.readFieldOr members SettingKey.marker Settings.default.marker readMarker))
    (Datum.readFieldOr members SettingKey.maxMacroDepth Settings.default.maxMacroDepth
      (readCount 0)))
    (Datum.readFieldOr members SettingKey.workers Settings.default.workers (readCount 1)))
    (Datum.readFieldOr members SettingKey.deniedMessage Settings.default.deniedMessage
      Datum.readText))
    (Datum.readFieldOr members SettingKey.parseErrorLead Settings.default.parseErrorLead
      Datum.readText))
    (Datum.readFieldOr members SettingKey.logging Settings.default.logging LogSettings.read)

/-- Reads settings. -/
def read : Datum → Checked Settings
  | .record members => readMembers members
  | _ => Checked.fault (.notRecord sort)

/-- Settings as a record with all members. -/
def toRecord (s : Settings) : Members :=
  [(SettingKey.marker, .text s.marker), (SettingKey.maxMacroDepth, .integer s.maxMacroDepth),
   (SettingKey.workers, .integer s.workers), (SettingKey.deniedMessage, .text s.deniedMessage),
   (SettingKey.parseErrorLead, .text s.parseErrorLead),
   (SettingKey.logging, s.logging.toRecord)]

/-- Settings as a log line shows them. -/
def literal (_ : Settings) : String := "<" ++ sort ++ ">"

end Settings

end ChatCommands
