import ChatCommands.Datum.Literal
import ChatCommands.Logging.Level

/-!
# ChatCommands.Logging.Notice

What the interpreter logs. Each thing that is worth a log entry is a `Notice`;
`Notice.entry` says how it is written. Most entries are a line of text from
the logger of one service; those of a dispatch are named events with fields,
among them which command is dispatched, for whom and how deep in macros.
-/

namespace ChatCommands

/-! ## entries -/

/-- A log entry. -/
inductive LogEntry where
  /-- A line of text from a logger. -/
  | line (level : Level) (logger text : String)
  /-- A named event with fields. -/
  | event (level : Level) (name : String) (fields : Members)
deriving Repr

/-- The services that log lines. -/
inductive Service where
  /-- The registry of commands. -/
  | registry
  /-- The permission gates. -/
  | permission
  /-- The binding of tokens to parameters. -/
  | matching
  /-- The expansion of macros. -/
  | macros
  /-- The settings. -/
  | settings
  /-- The pool that runs tasks. -/
  | tasks
deriving DecidableEq, Repr

/-- The logger of a service. -/
def Service.logger : Service → String
  | registry => "botcmd.core.services.command_registry"
  | permission => "botcmd.core.services.permission_evaluator"
  | matching => "botcmd.core.services.parameter_matcher"
  | macros => "botcmd.core.services.macro_expander"
  | settings => "botcmd.core.config.app_config"
  | tasks => "botcmd.core.services.background_task_runner"

/-! ## notices -/

/-- The step of a dispatch that an event belongs to. -/
structure Occasion where
  /-- The name of the command. -/
  command : String
  /-- The id of the invoker. -/
  userId : String
  /-- How many macros deep the command was found. -/
  depth : Nat
deriving DecidableEq, Repr

/-- The fields of an occasion. -/
def Occasion.fields (o : Occasion) : Members :=
  [("command", .text o.command), ("user_id", .text o.userId), ("depth", .integer o.depth)]

/-- Something that is logged. -/
inductive Notice where
  /-- Commands are accepted from now on. -/
  | started (marker : String)
  /-- Commands have been accepted already. -/
  | alreadyStarted
  /-- A command has been registered. -/
  | registered (name : String)
  /-- A command has taken the place of an earlier one. -/
  | replaced (name : String)
  /-- A user does not satisfy the requirement of a command. -/
  | refused (userId command : String)
  /-- A command has been denied. -/
  | denied (on : Occasion)
  /-- Arguments do not fit. -/
  | parseFailed (on : Occasion) (reason : String)
  /-- Tokens have been ignored. -/
  | surplus (count : Nat)
  /-- A macro has been expanded. -/
  | expanded (name : String) (count : Nat)
  /-- A macro was not dispatched again, because macros are nested too deeply. -/
  | tooDeep (on : Occasion) (limit : Nat)
  /-- A task has been handed on. -/
  | submitted (on : Occasion) (arguments : Nat)
  /-- A variable of the environment does not hold an integer. -/
  | ignoredInteger (value name : String)
  /-- There is no settings file. -/
  | fileMissing (path : String)
  /-- The settings are invalid. -/
  | invalidSettings
  /-- A task has failed. -/
  | taskFailed (reason : String)
deriving DecidableEq, Repr

namespace Notice

/-- How a notice is written. -/
def entry : Notice → LogEntry
  | started marker => .event .info "dispatcher_started" [("prefix", .text marker)]
  | alreadyStarted => .event .debug "dispatcher_already_started" []
  | registered name => .line .info Service.registry.logger ("Registered command: " ++ name)
  | replaced name => .line .info Service.registry.logger ("Replaced command: " ++ name)
  | refused userId command =>
    .line .debug Service.permission.logger ("User " ++ userId ++ " denied command " ++ command)
  | denied o => .event .info "permission_denied" o.fields
  | parseFailed o reason =>
    .event .info "parse_failed" (o.fields ++ [("reason", .text reason)])
  | surplus count =>
    .line .debug Service.matching.logger ("Ignoring " ++ toString count ++ " surplus token(s)")
  | expanded name count =>
    .line .debug Service.macros.logger
      ("Macro " ++ name ++ " expanded to " ++ toString count ++ " command(s)")
  | tooDeep o limit =>
    .event .warning "macro_depth_exceeded" (o.fields ++ [("limit", .integer limit)])
  | submitted o arguments =>
    .event .debug "task_submitted" (o.fields ++ [("arguments", .integer arguments)])
  | ignoredInteger value name =>
    .line .warning Service.settings.logger
      ("Ignoring non-integer value " ++ Text.quoted value ++ " for " ++ name)
  | fileMissing path =>
    .line .warning Service.settings.logger ("Configuration file not found: " ++ path)
  | invalidSettings => .line .critical Service.settings.logger "Invalid configuration"
  | taskFailed reason =>
    .line .error Service.tasks.logger ("Command task failed: " ++ reason)

end Notice

end ChatCommands
