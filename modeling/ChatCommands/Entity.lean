import ChatCommands.Argument.Literal
import ChatCommands.Permission

/-!
# ChatCommands.Entity

The immutable records of the domain, taken together: references, parameters
and requirements. Each can be read from a record of any form and written back
with all of its fields; two are equal if they are of the same sort and agree
in every field; and no field can be changed.
-/

namespace ChatCommands

/-! ## reading references -/

/-- The id and the name of a reference. -/
def readReference (make : String → String → α) (members : Members) : Checked α :=
  Checked.app (Checked.app (.ok make) (Datum.readField members "id" Datum.readText))
    (Datum.readFieldOr members "name" "" Datum.readText)

/-- Reads a user from a record. -/
def User.read (members : Members) : Checked User := readReference User.mk members

/-- Reads a channel from a record. -/
def Channel.read (members : Members) : Checked Channel := readReference Channel.mk members

/-- Reads a server from a record. -/
def Server.read (members : Members) : Checked Server := readReference Server.mk members

/-! ## records of the domain -/

/-- The sorts of immutable records. -/
inductive EntitySort where
  /-- A user. -/
  | user
  /-- A channel. -/
  | channel
  /-- A server. -/
  | server
  /-- A parameter. -/
  | parameter
  /-- A requirement. -/
  | requirement
deriving DecidableEq, Repr

/-- An immutable record. -/
inductive Entity where
  /-- A user. -/
  | user (u : User)
  /-- A channel. -/
  | channel (c : Channel)
  /-- A server. -/
  | server (s : Server)
  /-- A parameter. -/
  | parameter (p : Parameter)
  /-- A requirement. -/
  | requirement (r : Requirement)
deriving DecidableEq, Repr

namespace Entity

/-- Reads a record of a certain sort. -/
def read (members : Members) : EntitySort → Checked Entity
  | .user => Checked.app (.ok user) (User.read members)
  | .channel => Checked.app (.ok channel) (Channel.read members)
  | .server => Checked.app (.ok server) (Server.read members)
  | .parameter => Checked.app (.ok parameter) (Parameter.read members)
  | .requirement => Checked.app (.ok requirement) (Requirement.read members)

/-- Texts as a list in the order of their code points. -/
def sortedTexts (texts : List String) : Datum :=
  .list ((texts.mergeSort fun a b => decide (a ≤ b)).map .text)

/-- The members of a reference. -/
def referenceRecord (id name : String) : Members := [("id", .text id), ("name", .text name)]

/-- A record with all its fields; sets are listed in order. -/
def toRecord : Entity → Members
  | user u => referenceRecord u.id u.name
  | channel c => referenceRecord c.id c.name
  | server s => referenceRecord s.id s.name
  | parameter p =>
    [("type", .text p.kind.keyword), ("name", .text p.name), ("optional", .bool p.optional)]
  | requirement r =>
    [("special_restrictions", sortedTexts (r.restrictions.map Restriction.keyword)),
     ("required_capabilities", sortedTexts r.capabilities),
     ("permission_bits", .integer r.bits)]

/-- A record as a log line shows it. -/
def literal : Entity → String
  | user u => u.literal
  | channel c => c.literal
  | server s => s.literal
  | parameter p => p.literal
  | requirement r => r.literal

/-- Whether two records are of the same sort and agree in every field. -/
def same : Entity → Entity → Bool
  | requirement a, requirement b => a.same b
  | a, b => a == b

/-- The answer to an attempt to change a field, which always fails. -/
def assign (_ : Entity) (field : String) : FieldError := ⟨[.field field], .frozen⟩

end Entity

end ChatCommands
