import ChatCommands.Directory
import ChatCommands.Permission.Bits
import ChatCommands.Validation

/-!
# ChatCommands.Permission

Who may run a command. A requirement is checked by three gates in order:

1. if there are special restrictions, only a matching owner of the bot or of
   the server passes, and nothing else is looked at;
2. otherwise every required capability has to be held;
3. and the permission bits have to pass, if the host supplies any.

A requirement of at most `2` is a moderator's: any bit in common with it or
with the administrator's bit is enough. A greater one needs all of its bits.
-/

namespace ChatCommands

/-! ## requirements -/

/-- A restriction to certain owners. -/
inductive Restriction where
  /-- The owner of the bot. -/
  | botOwner
  /-- The owner of the server. -/
  | serverOwner
  /-- Nobody at all. -/
  | nobody
deriving DecidableEq, Repr

namespace Restriction

/-- All restrictions. -/
def all : List Restriction := [botOwner, serverOwner, nobody]

/-- The word for a restriction in declarations. -/
def keyword : Restriction → String
  | botOwner => "bot_owner"
  | serverOwner => "server_owner"
  | nobody => "nobody"

/-- The restrictions by their keywords. -/
def byKeyword : List (String × Restriction) := all.map fun r => (r.keyword, r)

end Restriction

/-- What an invoker has to satisfy. The first two fields are sets: they are only asked for
their members. -/
structure Requirement where
  /-- The special restrictions. -/
  restrictions : List Restriction := []
  /-- The platform permissions to hold. -/
  capabilities : List String := []
  /-- The permission bits to have. -/
  bits : Int := 0
deriving DecidableEq, Repr

namespace Requirement

/-- Whether everybody passes. -/
def isUnrestricted (r : Requirement) : Bool :=
  r.restrictions.isEmpty && r.capabilities.isEmpty && r.bits == 0

/-- A list without the items that occurred before. -/
def distinct [DecidableEq α] (xs : List α) : List α :=
  xs.foldl (fun acc x => if x ∈ acc then acc else acc ++ [x]) []

/-- Reads a requirement from a record. -/
def read (members : Members) : Checked Requirement :=
  let restrictions := Datum.readFieldOr members "special_restrictions" []
    (Datum.readSet (Datum.readChoice Restriction.byKeyword))
  let capabilities := Datum.readFieldOr members "required_capabilities" []
    (Datum.readSet Datum.readText)
  let bits := Datum.readFieldOr members "permission_bits" 0 Datum.readInteger
  Checked.app (Checked.app (Checked.app
    (.ok fun rs cs b => ⟨distinct rs, distinct cs, b⟩) restrictions) capabilities) bits

/-- Whether two requirements ask for the same. -/
def same (a b : Requirement) : Bool :=
  Restriction.all.all (fun r => a.restrictions.contains r == b.restrictions.contains r) &&
    a.capabilities.all b.capabilities.contains && b.capabilities.all a.capabilities.contains &&
    a.bits == b.bits

/-- A requirement as a log line shows it. -/
def literal (_ : Requirement) : String := "<PermissionRequirement>"

end Requirement

/-! ## gates -/

/-- The answer of a gate with the questions it asked. -/
structure Verdict where
  /-- Whether the user passes. -/
  allowed : Bool
  /-- The questions, in order. -/
  lookups : List Lookup
deriving DecidableEq, Repr

namespace Verdict

/-- Asks a second gate if the first one gives a certain answer. -/
def andThenIf (answer : Bool) (v : Verdict) (next : Verdict) : Verdict :=
  if v.allowed = answer then ⟨next.allowed, v.lookups ++ next.lookups⟩ else v

/-- A gate that lets everybody pass. -/
def pass : Verdict := ⟨true, []⟩

/-- A gate that nobody passes. -/
def deny : Verdict := ⟨false, []⟩

end Verdict

namespace Permission

/-- The bit that administrators have. -/
def adminBits : Int := 2

/-- The greatest requirement that is a moderator's. -/
def adminCeiling : Int := 2

/-- Whether a user's bits pass a requirement that is not zero. -/
def bitsPass (required userBits : Int) : Bool :=
  if required ≤ adminCeiling then Bits.and userBits (Bits.or required adminBits) != 0
  else Bits.and userBits required == required

/-- The gate of special restrictions. -/
def specialGate (directory : Directory) (restrictions : List Restriction) (server : Server)
    (user : User) : Verdict :=
  let bot : Verdict :=
    if restrictions.contains .botOwner then
      ⟨directory.isBotOwner user, [.botOwner user]⟩
    else .deny
  let owner : Verdict :=
    if restrictions.contains .serverOwner then
      ⟨(directory.ownerOf server).id == user.id, [.owner server]⟩
    else .deny
  bot.andThenIf false owner

/-- The gate of required capabilities. -/
def capabilityGate (directory : Directory) (capabilities : List String) (server : Server)
    (user : User) : Verdict :=
  if capabilities.isEmpty then .pass
  else
    ⟨capabilities.all (directory.capabilitiesOf server user).contains,
      [.capabilities server user]⟩

/-- The gate of permission bits. -/
def bitGate (bits? : Option (Server → User → Int)) (required : Int) (server : Server)
    (user : User) : Verdict :=
  if required = 0 then .pass
  else
    match bits? with
    | none => .pass
    | some supply => ⟨bitsPass required (supply server user), [.bits server user]⟩

/-- Whether a user satisfies a requirement on a server. -/
def check (host : Host) (requirement : Requirement) (server : Server) (user : User) : Verdict :=
  if requirement.isUnrestricted then .pass
  else if !requirement.restrictions.isEmpty then
    specialGate host.toDirectory requirement.restrictions server user
  else
    (capabilityGate host.toDirectory requirement.capabilities server user).andThenIf true
      (bitGate host.bits? requirement.bits server user)

end Permission

end ChatCommands
