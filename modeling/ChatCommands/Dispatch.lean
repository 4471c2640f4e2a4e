import ChatCommands.CommandName
import ChatCommands.Macro
import ChatCommands.Matching
import ChatCommands.Registry
import ChatCommands.Settings

/-!
# ChatCommands.Dispatch

What happens with an inbound message. A text of an automated sender, and one
that is no command, is ignored. A registered command goes through the
permission gates and then through matching; what comes of it is one reply or
one task. Any other name is looked up as a macro, whose commands are
dispatched again in its place, one level deeper, as far as the settings allow.

A dispatch is a `Trace`: everything that it does, in order, as a list of
events. Nothing is thrown except in one case: an integer with too many digits
to be read breaks the dispatch off, and what was done before it stays done.
-/

namespace ChatCommands

/-! ## traces -/

/-- A task to run, with everything that it gets to work with. -/
structure Job (τ : Type) where
  /-- The command that was invoked. -/
  schema : Schema τ
  /-- Its arguments. -/
  arguments : Bag
  /-- Who invoked it. -/
  user : User
  /-- Where it was invoked. -/
  channel : Channel
  /-- On which server it was invoked. -/
  server : Server

/-- Something that a dispatch does. -/
inductive Event (τ : Type) where
  /-- It takes up a text, some macros deep. -/
  | step (depth : Nat) (text : String)
  /-- It asks a question. -/
  | asked (lookup : Lookup)
  /-- It logs something. -/
  | noted (notice : Notice)
  /-- It sends a message. -/
  | sent (channel : Channel) (text : String)
  /-- It hands a task on to be run. -/
  | submitted (job : Job τ)

/-- What a dispatch does. -/
structure Trace (τ : Type) where
  /-- The events, in order. -/
  events : List (Event τ)
  /-- Whether an integer with too many digits broke it off. -/
  aborted : Bool := false

namespace Trace

variable {τ : Type}

/-- Nothing at all. -/
def nil : Trace τ := ⟨[], false⟩

/-- Some events. -/
def of (events : List (Event τ)) : Trace τ := ⟨events, false⟩

/-- Some events and then the end. -/
def abort (events : List (Event τ)) : Trace τ := ⟨events, true⟩

/-- Questions that were asked. -/
def asking (lookups : List Lookup) : Trace τ := .of (lookups.map .asked)

/-- One trace after another, unless the first was broken off. -/
def andThen (t : Trace τ) (next : Unit → Trace τ) : Trace τ :=
  if t.aborted then t
  else
    let u := next ()
    ⟨t.events ++ u.events, u.aborted⟩

/-- The traces of some texts, one after another. -/
def each (run : String → Trace τ) : List String → Trace τ
  | [] => .nil
  | c :: cs => (run c).andThen fun _ => each run cs

/-- The questions of a trace. -/
def lookups (t : Trace τ) : List Lookup :=
  t.events.filterMap fun
    | .asked l => some l
    | _ => none

/-- The notices of a trace. -/
def notices (t : Trace τ) : List Notice :=
  t.events.filterMap fun
    | .noted n => some n
    | _ => none

/-- The messages of a trace. -/
def messages (t : Trace τ) : List (Channel × String) :=
  t.events.filterMap fun
    | .sent c s => some (c, s)
    | _ => none

/-- The tasks of a trace. -/
def jobs (t : Trace τ) : List (Job τ) :=
  t.events.filterMap fun
    | .submitted j => some j
    | _ => none

end Trace

/-! ## dispatching -/

/-- What a dispatch depends on, besides the text. -/
structure Scene (τ : Type) where
  /-- The settings. -/
  settings : Settings
  /-- The registered commands. -/
  registry : Registry τ
  /-- The surroundings. -/
  host : Host
  /-- Who sent the message. -/
  user : User
  /-- Where it was sent. -/
  channel : Channel
  /-- On which server it was sent. -/
  server : Server

namespace Scene

variable {τ : Type}

/-- The step that a command of a name is dispatched in. -/
def occasion (s : Scene τ) (name : String) (depth : Nat) : Occasion := ⟨name, s.user.id, depth⟩

/-- A command that the user may not run: one message, always the same. -/
def deny (s : Scene τ) (schema : Schema τ) (on : Occasion) : Trace τ :=
  .of [.noted (.refused s.user.id schema.name), .noted (.denied on),
    .sent s.channel s.settings.deniedMessage]

/-- A command that the user may run: its task, or one message about its arguments. -/
def invoke (s : Scene τ) (schema : Schema τ) (text : String) (on : Occasion) : Trace τ :=
  let m := matchText s.host.toDirectory s.server schema text s.settings.marker
  (Trace.asking m.lookups).andThen fun _ =>
    match m.result with
    | .error .overlongNumeral => .abort []
    | .error (.parse fault) =>
      .of [.noted (.parseFailed on fault.message),
        .sent s.channel (s.settings.parseErrorLead ++ fault.message)]
    | .ok bag =>
      .of ((if m.surplus = 0 then [] else [.noted (.surplus m.surplus)]) ++
        [.submitted ⟨schema, bag, s.user, s.channel, s.server⟩,
          .noted (.submitted on bag.size)])

/-- A registered command. -/
def command (s : Scene τ) (schema : Schema τ) (text : String) (on : Occasion) : Trace τ :=
  let v := Permission.check s.host schema.requirement s.server s.user
  (Trace.asking v.lookups).andThen fun _ =>
    if v.allowed then s.invoke schema text on else s.deny schema on

/-- A name that is not registered: if it is a macro, its commands are passed on. -/
def expansion (s : Scene τ) (name text : String) (next : List String → Trace τ) : Trace τ :=
  match s.host.macros? with
  | none => .nil
  | some resolve =>
    (Trace.asking [.macroBody s.server name]).andThen fun _ =>
      match resolve s.server name with
      | none => .nil
      | some body =>
        match Macro.expand? body (Token.arguments text) s.user.id with
        | none => .abort []
        | some commands =>
          (Trace.of [.noted (.expanded name commands.length)]).andThen fun _ => next commands

/-- One step of a dispatch; `next` takes the commands of a macro. -/
def step (s : Scene τ) (depth : Nat) (text : String) (next : Occasion → List String → Trace τ) :
    Trace τ :=
  (Trace.of [.step depth text, .asked (.automated s.user)]).andThen fun _ =>
    if s.host.isAutomated s.user then .nil
    else
      match commandName? text s.settings.marker with
      | none => .nil
      | some name =>
        let on := s.occasion name depth
        match s.registry.get? name with
        | some schema => s.command schema text on
        | none => s.expansion name text (next on)

/-- Dispatches a text at some depth; macros may be nested `remaining` levels deeper. -/
def dispatchFrom (s : Scene τ) : (remaining depth : Nat) → String → Trace τ
  | 0, depth, text =>
    s.step depth text fun on _ => .of [.noted (.tooDeep on s.settings.maxMacroDepth)]
  | remaining + 1, depth, text =>
    s.step depth text fun _ commands => .each (s.dispatchFrom remaining (depth + 1)) commands

/-- Dispatches a message. -/
def dispatch (s : Scene τ) (text : String) : Trace τ :=
  s.dispatchFrom s.settings.maxMacroDepth 0 text

end Scene

end ChatCommands
