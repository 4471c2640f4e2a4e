import ChatCommands.Argument
import ChatCommands.Template.Fill

/-!
# ChatCommands.Task

What commands do when they are run: nothing that anyone sees, fail, or reply.
A reply is a template with arguments, each of them a constant or an argument
of the invocation. A reply without arguments is sent as it is written, percent
signs and all.
-/

namespace ChatCommands

/-- An argument of a reply. -/
inductive ReplyArgument where
  /-- A constant. -/
  | constant (value : Datum)
  /-- The argument of a name, read as a value of some kind. -/
  | bound (kind : Kind) (name : String)
deriving Repr

/-- A bound value as an argument of a reply: a user or a channel goes by its name. -/
def Value.toDatum : Value → Datum
  | .long i => .integer i
  | .double x => .real x
  | .bool b => .bool b
  | .string s => .text s
  | .user u => (u.map fun u => Datum.text u.name).getD .null
  | .channel c => (c.map fun c => Datum.text c.name).getD .null

/-- The value of an argument of a reply; an argument that is not there is no value. -/
def ReplyArgument.value (bag : Bag) : ReplyArgument → Datum
  | constant value => value
  | bound kind name => ((bag.typed? kind name).map Value.toDatum).getD .null

/-- What a command does. -/
inductive Task where
  /-- Nothing. -/
  | quiet
  /-- It fails. -/
  | fail (reason : String)
  /-- It replies. -/
  | reply (template : String) (arguments : List ReplyArgument)
deriving Repr

/-- Why a task did not come to its end. -/
inductive TaskFault where
  /-- It failed by itself. -/
  | failed (reason : String)
  /-- The template of its reply cannot be filled. -/
  | template (fault : TemplateFault)
deriving DecidableEq, Repr

namespace Task

/-- The text of a reply. -/
def replyText (template : String) (values : List Datum) : Except TemplateFault String :=
  if values.isEmpty then .ok template else Template.fill template values

/-- Runs a task with the arguments of an invocation; the outcome is the message that it sends,
if it sends one. -/
def run (bag : Bag) : Task → Except TaskFault (Option String)
  | quiet => .ok none
  | fail reason => .error (.failed reason)
  | reply template arguments =>
    match replyText template (arguments.map (ReplyArgument.value bag)) with
    | .ok text => .ok (some text)
    | .error fault => .error (.template fault)

end Task

end ChatCommands
