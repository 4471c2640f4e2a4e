import ChatCommands.Dispatch
import ChatCommands.Help
import ChatCommands.Schema.Builder
import ChatCommands.Task
import ChatCommands.World

/-!
# ChatCommands.Session

Interpreters at work on one platform. Each interpreter has settings of its
own; each has a registry of its own too, unless they share one. Tasks that are
submitted wait in one queue until they are run, all of them, in the order in
which they were submitted.

The world may change between two steps. Which services the host supplies does
not: that is settled when the session begins.
-/

namespace ChatCommands

/-! ## sessions -/

/-- An interpreter: its settings, and which registry of its session it uses. -/
structure Interpreter where
  /-- The settings. -/
  settings : Settings
  /-- The position of its registry. -/
  registry : Nat

/-- Interpreters on one platform. -/
structure Session where
  /-- The platform as it is now. -/
  world : World
  /-- Whether the host supplies permission bits. -/
  suppliesBits : Bool
  /-- Whether the host supplies macros. -/
  suppliesMacros : Bool
  /-- The interpreters. -/
  interpreters : List Interpreter
  /-- The registries. -/
  registries : List (Registry Task)
  /-- The tasks that wait. -/
  queue : List (Job Task) := []

/-- Something that happens in a session. Where it matters, `position` is that of the
interpreter that it happens to. -/
inductive SessionStep where
  /-- An interpreter is started. -/
  | start (position : Nat)
  /-- A command is declared and registered. -/
  | register (position : Nat) (name : Datum) (steps : List (Step Task))
  /-- The world changes. -/
  | change (world : World)
  /-- A message comes in. -/
  | dispatch (position : Nat) (text : String) (user : User) (channel : Channel)
    (server : Server)
  /-- The tasks that wait are run. -/
  | runTasks
  /-- A user asks for a line of help about a name. -/
  | tooltip (position : Nat) (name : String) (server : Server) (user : User)
  /-- A user asks for detailed help about a name. -/
  | help (position : Nat) (name : String) (server : Server) (user : User)
  /-- A user asks for a line of help about every command. -/
  | summary (position : Nat) (server : Server) (user : User)
  /-- Someone looks into a registry. -/
  | inspect (position : Nat) (names : List String)

/-- What a registry shows of itself. -/
structure RegistryView where
  /-- Whether it is active. -/
  active : Bool
  /-- How many commands there are. -/
  size : Nat
  /-- The names of the commands. -/
  names : List String
  /-- The tooltips of the names that were asked for. -/
  tooltips : List (Option String)
deriving DecidableEq, Repr

/-- What comes of a step. -/
inductive SessionResult where
  /-- It is done. -/
  | done
  /-- The command cannot be declared. -/
  | undeclared (error : BuildError)
  /-- The command cannot be registered. -/
  | unregistered (fault : RegistrationFault)
  /-- An integer with too many digits broke the dispatch off. -/
  | aborted
  /-- The tasks have been run; for each of them, why it failed if it did. -/
  | ran (outcomes : List (Option TaskFault))
  /-- A text. -/
  | text (s : String)
  /-- What a registry shows. -/
  | registry (view : RegistryView)

/-- A step with everything that it did. -/
structure SessionAnswer where
  /-- What came of it. -/
  result : SessionResult
  /-- The messages that were sent. -/
  sent : List (Channel × String) := []
  /-- The tasks that were run. -/
  jobs : List (Job Task) := []
  /-- The questions that were asked. -/
  lookups : List Lookup := []
  /-- What was logged. -/
  notices : List Notice := []

namespace Session

/-- The session in which nothing has happened. -/
def begin (world : World) (settings : List Settings) (shared : Bool) : Session :=
  { world := world
    suppliesBits := world.bits.isSome
    suppliesMacros := world.macros.isSome
    interpreters := settings.mapIdx fun i s => ⟨s, if shared then 0 else i⟩
    registries := settings.map fun _ => .empty }

/-- The surroundings as they are now. -/
def host (s : Session) : Host := s.world.host s.suppliesBits s.suppliesMacros

/-- The settings of an interpreter. -/
def settingsOf (s : Session) (position : Nat) : Settings :=
  ((s.interpreters[position]?).map Interpreter.settings).getD {}

/-- The position of the registry of an interpreter. -/
def registryIndex (s : Session) (position : Nat) : Nat :=
  ((s.interpreters[position]?).map Interpreter.registry).getD position

/-- The registry of an interpreter. -/
def registryOf (s : Session) (position : Nat) : Registry Task :=
  (s.registries[s.registryIndex position]?).getD .empty

/-- A session in which the registry of an interpreter is another one. -/
def withRegistry (s : Session) (position : Nat) (r : Registry Task) : Session :=
  { s with registries := s.registries.set (s.registryIndex position) r }

/-! ## steps -/

/-- Starts an interpreter. -/
def start (s : Session) (position : Nat) : Session × SessionAnswer :=
  let r := s.registryOf position
  (s.withRegistry position r.activate,
    { result := .done, notices := [r.startNotice (s.settingsOf position).marker] })

/-- Registers the command that a name and some steps declare. -/
def register (s : Session) (position : Nat) (name : Datum) (steps : List (Step Task)) :
    Session × SessionAnswer :=
  match Builder.declare name steps with
  | .error e => (s, { result := .undeclared e })
  | .ok schema =>
    let r := s.registryOf position
    match r.register schema with
    | .error f => (s, { result := .unregistered f })
    | .ok r' =>
      (s.withRegistry position r', { result := .done, notices := [r.registrationNotice schema] })

/-- Dispatches a message. -/
def dispatch (s : Session) (position : Nat) (text : String) (user : User) (channel : Channel)
    (server : Server) : Session × SessionAnswer :=
  let scene : Scene Task :=
    { settings := s.settingsOf position, registry := s.registryOf position, host := s.host
      user := user, channel := channel, server := server }
  let t := scene.dispatch text
  ({ s with queue := s.queue ++ t.jobs },
    { result := if t.aborted then .aborted else .done
      sent := t.messages, lookups := t.lookups, notices := t.notices })

/-- The message that a job sends, if it sends one. -/
def messageOf (j : Job Task) : Option (Channel × String) :=
  match j.schema.task.run j.arguments with
  | .ok (some text) => some (j.channel, text)
  | _ => none

/-- Why a job fails, if it does. -/
def faultOf (j : Job Task) : Option TaskFault :=
  match j.schema.task.run j.arguments with
  | .ok _ => none
  | .error fault => some fault

/-- Runs the tasks that wait. -/
def runTasks (s : Session) : Session × SessionAnswer :=
  ({ s with queue := [] },
    { result := .ran (s.queue.map faultOf), sent := s.queue.filterMap messageOf
      jobs := s.queue })

/-- What a registry shows when some names are asked for. -/
def view (r : Registry Task) (names : List String) : RegistryView :=
  { active := r.active, size := r.size, names := r.names
    tooltips := names.map fun n => (r.get? n).map Schema.tooltip }

/-- An answer that is a help text. -/
def helpAnswer (h : HelpText) : SessionAnswer := { result := .text h.text, lookups := h.lookups }

/-- Takes a step. -/
def step (s : Session) : SessionStep → Session × SessionAnswer
  | .start position => s.start position
  | .register position name steps => s.register position name steps
  | .change world => ({ s with world := world }, { result := .done })
  | .dispatch position text user channel server => s.dispatch position text user channel server
  | .runTasks => s.runTasks
  | .tooltip position name server user =>
    (s, helpAnswer (Help.tooltip s.host (s.registryOf position) name server user))
  | .help position name server user =>
    (s, helpAnswer (Help.full s.host (s.registryOf position) name server user))
  | .summary position server user =>
    (s, helpAnswer (Help.summary s.host (s.registryOf position) server user))
  | .inspect position names => (s, { result := .registry (view (s.registryOf position) names) })

end Session

end ChatCommands
