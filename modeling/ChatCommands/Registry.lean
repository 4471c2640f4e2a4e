import ChatCommands.Failure
import ChatCommands.Logging.Notice
import ChatCommands.Schema

/-!
# ChatCommands.Registry

The registered commands by their names. Registration is refused until the
registry is active; a command registered under a name that is taken replaces
the earlier one and keeps its place. Nothing is ever removed.
-/

namespace ChatCommands

/-- The registered commands. -/
structure Registry (τ : Type) where
  /-- Whether commands may be registered. -/
  active : Bool := false
  /-- The commands by their names, in the order of their first registration. -/
  commands : OrderedMap String (Schema τ) := .empty

/-- Why a command is not registered. -/
inductive RegistrationFault where
  /-- The registry is not active yet. -/
  | inactive (command : String)
deriving DecidableEq, Repr

namespace RegistrationFault

/-- A fault in words. -/
def message : RegistrationFault → String
  | inactive command =>
    "Cannot register command '" ++ command ++ "' before the dispatcher is started"

/-- A fault as an error. -/
def failure (f : RegistrationFault) : Failure :=
  match f with
  | inactive command => Failure.configuration f.message [("command_name", .text command)]

end RegistrationFault

namespace Registry

variable {τ : Type}

/-- The registry that nothing has been done to. -/
def empty : Registry τ := {}

/-- Allows registration. -/
def activate (r : Registry τ) : Registry τ := { r with active := true }

/-- What is logged when registration is allowed. -/
def startNotice (r : Registry τ) (marker : String) : Notice :=
  if r.active then .alreadyStarted else .started marker

/-- The command of a name. -/
def get? (r : Registry τ) (name : String) : Option (Schema τ) := r.commands.get? name

/-- Whether a name is taken. -/
def contains (r : Registry τ) (name : String) : Bool := r.commands.contains name

/-- The names, in the order of their first registration. -/
def names (r : Registry τ) : List String := r.commands.keys

/-- The number of names. -/
def size (r : Registry τ) : Nat := r.commands.size

/-- Registers a command. -/
def register (r : Registry τ) (s : Schema τ) : Except RegistrationFault (Registry τ) :=
  if r.active then .ok { r with commands := r.commands.insert s.name s }
  else .error (.inactive s.name)

/-- What is logged when a command is registered. -/
def registrationNotice (r : Registry τ) (s : Schema τ) : Notice :=
  if r.contains s.name then .replaced s.name else .registered s.name

end Registry

end ChatCommands
