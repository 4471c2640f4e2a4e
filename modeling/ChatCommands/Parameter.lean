import ChatCommands.Validation

/-!
# ChatCommands.Parameter

The positional parameters that a command declares.
-/

namespace ChatCommands

/-- What a parameter takes. -/
inductive Kind where
  /-- An integer of 64 bits. -/
  | long
  /-- A floating-point number. -/
  | double
  /-- A truth value. -/
  | bool
  /-- A text. -/
  | string
  /-- A user of the server. -/
  | user
  /-- A channel of the server. -/
  | channel
deriving DecidableEq, Repr

namespace Kind

/-- All kinds. -/
def all : List Kind := [long, double, bool, string, user, channel]

/-- The word for a kind in declarations and help. -/
def keyword : Kind → String
  | long => "long"
  | double => "double"
  | bool => "bool"
  | string => "string"
  | user => "user"
  | channel => "channel"

/-- The word for a kind in error messages. -/
def title : Kind → String
  | long => "LONG"
  | double => "DOUBLE"
  | bool => "BOOL"
  | string => "STRING"
  | user => "USER"
  | channel => "CHANNEL"

/-- The kinds by their keywords. -/
def byKeyword : List (String × Kind) := all.map fun k => (k.keyword, k)

end Kind

/-- A parameter of a command. -/
structure Parameter where
  /-- What it takes. -/
  kind : Kind
  /-- Its name. -/
  name : String
  /-- Whether it may be left out. -/
  optional : Bool := false
deriving DecidableEq, Repr

namespace Parameter

/-- Reads a parameter from a record. -/
def read (members : Members) : Checked Parameter :=
  Checked.app (Checked.app (Checked.app (.ok Parameter.mk)
    (Datum.readField members "type" (Datum.readChoice Kind.byKeyword)))
    (Datum.readField members "name" Datum.readText))
    (Datum.readFieldOr members "optional" false Datum.readBool)

/-- A parameter as help shows it: its kind and its name, with `?` if it may be left out. -/
def describe (p : Parameter) : String :=
  p.kind.keyword ++ " " ++ p.name ++ if p.optional then "?" else ""

end Parameter

end ChatCommands
