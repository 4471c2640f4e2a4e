import ChatCommands.Binary64
import ChatCommands.OrderedMap
import ChatCommands.Parameter
import ChatCommands.Reference

/-!
# ChatCommands.Argument

Values bound to parameters. A bag maps the names of the bound parameters, in
the order in which they were bound, to their arguments; it is read through one
accessor for each kind.
-/

namespace ChatCommands

/-! ## arguments -/

/-- The value of an argument. A user or channel that the directory does not know is no value,
yet the argument is there. -/
inductive Value where
  /-- An integer. -/
  | long (i : Int)
  /-- A floating-point number. -/
  | double (x : Binary64)
  /-- A truth value. -/
  | bool (b : Bool)
  /-- A text. -/
  | string (s : String)
  /-- A user. -/
  | user (u : Option User)
  /-- A channel. -/
  | channel (c : Option Channel)
deriving DecidableEq, Repr

/-- The kind that a value is of. -/
def Value.kind : Value → Kind
  | long _ => .long
  | double _ => .double
  | bool _ => .bool
  | string _ => .string
  | user _ => .user
  | channel _ => .channel

/-- Whether two values are equal as values; the two floating-point zeros are. -/
def Value.same : Value → Value → Bool
  | double x, double y => x.sameNumber y
  | v, w => v == w

/-- A value with the name of its parameter. -/
structure Argument where
  /-- The name of the parameter. -/
  name : String
  /-- The value. -/
  value : Value
deriving DecidableEq, Repr

/-- Whether two arguments have the same name and the same value. -/
def Argument.same (a b : Argument) : Bool := a.name == b.name && a.value.same b.value

/-! ## bags -/

/-- The arguments of an invocation by the names of their parameters. -/
abbrev Bag := OrderedMap String Argument

namespace Bag

/-- The bag of arguments that were bound one after another. -/
def ofArguments (arguments : List Argument) : Bag :=
  OrderedMap.ofList (arguments.map fun a => (a.name, a))

/-- The integer of a name, if its argument is one. -/
def long? (b : Bag) (name : String) : Option Int :=
  match (b.get? name).map Argument.value with
  | some (.long i) => some i
  | _ => none

/-- The floating-point number of a name, if its argument is one. -/
def double? (b : Bag) (name : String) : Option Binary64 :=
  match (b.get? name).map Argument.value with
  | some (.double x) => some x
  | _ => none

/-- The truth value of a name, if its argument is one. -/
def bool? (b : Bag) (name : String) : Option Bool :=
  match (b.get? name).map Argument.value with
  | some (.bool x) => some x
  | _ => none

/-- The text of a name, if its argument is one. -/
def string? (b : Bag) (name : String) : Option String :=
  match (b.get? name).map Argument.value with
  | some (.string s) => some s
  | _ => none

/-- The user of a name, if its argument is one that the directory knows. -/
def user? (b : Bag) (name : String) : Option User :=
  match (b.get? name).map Argument.value with
  | some (.user u) => u
  | _ => none

/-- The channel of a name, if its argument is one that the directory knows. -/
def channel? (b : Bag) (name : String) : Option Channel :=
  match (b.get? name).map Argument.value with
  | some (.channel c) => c
  | _ => none

/-- The value of a name as its typed accessor gives it. -/
def typed? (b : Bag) (kind : Kind) (name : String) : Option Value :=
  match kind with
  | .long => (b.long? name).map .long
  | .double => (b.double? name).map .double
  | .bool => (b.bool? name).map .bool
  | .string => (b.string? name).map .string
  | .user => (b.user? name).map fun u => .user (some u)
  | .channel => (b.channel? name).map fun c => .channel (some c)

/-- Whether two bags have the same arguments under the same keys, in whatever order. -/
def same (b c : Bag) : Bool :=
  b.size == c.size && b.entries.all fun p =>
    match c.get? p.1 with
    | some a => p.2.same a
    | none => false

end Bag

end ChatCommands
