import ChatCommands.Failure
import ChatCommands.Schema

/-!
# ChatCommands.Schema.Builder

Declaring a command step by step. Every step takes values as they come; the
parameters are read at once, and everything else when the declaration is
finished by `build`. That checks, in order, the name, that no parameter occurs
twice, that there is a task, who may run the command, and the texts.

A step that sets a single value replaces what an earlier one set; parameters,
warnings and special restrictions are collected.
-/

namespace ChatCommands

/-! ## faults -/

/-- Why a declaration is not a command. -/
inductive DeclarationFault where
  /-- The name is empty or has a blank. -/
  | badName (name : Datum)
  /-- Two parameters have the same name. -/
  | duplicate (parameter : String) (command : Datum)
  /-- There is nothing to run. -/
  | noTask (command : Datum)
deriving Repr

namespace DeclarationFault

/-- A fault in words. -/
def message : DeclarationFault → String
  | badName name => "Invalid command name " ++ name.literal
  | duplicate parameter command =>
    "Duplicate parameter '" ++ parameter ++ "' in command '" ++ command.display ++ "'"
  | noTask command => "Command '" ++ command.display ++ "' has no task"

/-- The name of the command concerned. -/
def command : DeclarationFault → Datum
  | badName name => name
  | duplicate _ command => command
  | noTask command => command

/-- A fault as an error. -/
def failure (f : DeclarationFault) : Failure :=
  Failure.configuration f.message [("command_name", f.command)]

end DeclarationFault

/-- Why a step of a declaration, or its end, failed. -/
inductive BuildError where
  /-- Some fields have values that they cannot have. -/
  | invalid (errors : List FieldError)
  /-- The declaration breaks a rule. -/
  | declaration (fault : DeclarationFault)
  /-- A value that has to be a collection, or to be put into a set, cannot be used so. -/
  | unsuitable
  /-- An item of a name has no characters that could be looked at. -/
  | withoutCharacters
deriving Repr

/-! ## steps -/

/-- A declaration under way. -/
structure Builder (τ : Type) where
  /-- The name. -/
  name : Datum
  /-- The parameters, in order. -/
  parameters : List Parameter := []
  /-- Whether everything behind the name is one argument. -/
  raw : Bool := false
  /-- What to run. -/
  task : Option τ := none
  /-- The line of help. -/
  tooltip : Datum := .text defaultTooltip
  /-- The detailed help. -/
  longHelp : Datum := .text defaultLongHelp
  /-- The badges, in order. -/
  warnings : List Warning := []
  /-- The permission bits to have. -/
  bits : Datum := .integer 0
  /-- The platform permissions to hold. -/
  capabilities : List Datum := []
  /-- The special restrictions. -/
  restrictions : List Restriction := []

/-- A step of a declaration. -/
inductive Step (τ : Type) where
  /-- Declares a parameter; it is required unless said otherwise. -/
  | arg (kind name : Datum) (optional : Option Datum)
  /-- Passes everything behind the name as one argument. -/
  | raw
  /-- Sets what to run. -/
  | runs (task : τ)
  /-- Sets the line of help. -/
  | tip (tooltip : Datum)
  /-- Sets the detailed help. -/
  | help (longHelp : Datum)
  /-- Adds badges. -/
  | warn (warnings : List Warning)
  /-- Sets the permission bits to have. -/
  | restrictInternal (bits : Datum)
  /-- Sets the platform permissions to hold: several values, or one collection. -/
  | restrictExternal (required : List Datum)
  /-- Adds a special restriction. -/
  | restrictSpecial (restriction : Restriction)

namespace Builder

variable {τ : Type}

/-- A declaration of which only the name is known. -/
def new (name : Datum) : Builder τ := { name := name }

/-- The integer that a value counts as in a set, where a truth value counts as one or zero. -/
def wholeNumber? : Datum → Option Int
  | .bool b => some (if b then 1 else 0)
  | .integer i => some i
  | .real x => x.toInt?
  | _ => none

/-- Whether two values are the same member of a set. Numbers are, whatever their form, if they
are equal. -/
def sameMember (d e : Datum) : Bool :=
  match wholeNumber? d, wholeNumber? e with
  | some i, some j => i == j
  | none, none =>
    match d, e with
    | .text s, .text t => s == t
    | .real x, .real y => x.sameNumber y
    | .foreign x, .foreign y => x == y
    | .null, .null => true
    | _, _ => false
  | _, _ => false

/-- Whether a value can be a member of a set. -/
def isMember : Datum → Bool
  | .list _ => false
  | .record _ => false
  | _ => true

/-- The set of some values: each once, in the order of their first occurrence. -/
def setOf? (items : List Datum) : Option (List Datum) :=
  if items.all isMember then
    some (items.foldl (fun acc d => if acc.any (sameMember d) then acc else acc ++ [d]) [])
  else none

/-- The set that the values of a capability step make: one value that is no text is a
collection, a record being the collection of its keys, and bytes that of their numbers. -/
def capabilitySet? : List Datum → Option (List Datum)
  | [.text s] => setOf? [.text s]
  | [.list items] => setOf? items
  | [.foreign (.bytes bs)] => setOf? (bs.map fun b => .integer b.toNat)
  | [.record members] => setOf? (members.map fun p => .text p.1)
  | [_] => none
  | items => setOf? items

/-- Takes a step. -/
def step (b : Builder τ) : Step τ → Except BuildError (Builder τ)
  | .arg kind name optional =>
    match Parameter.read [("type", kind), ("name", name),
        ("optional", optional.getD (.bool false))] with
    | .ok p => .ok { b with parameters := b.parameters ++ [p] }
    | .error es => .error (.invalid es)
  | .raw => .ok { b with raw := true }
  | .runs task => .ok { b with task := some task }
  | .tip tooltip => .ok { b with tooltip := tooltip }
  | .help longHelp => .ok { b with longHelp := longHelp }
  | .warn warnings => .ok { b with warnings := b.warnings ++ warnings }
  | .restrictInternal bits => .ok { b with bits := bits }
  | .restrictExternal required =>
    match capabilitySet? required with
    | some cs => .ok { b with capabilities := cs }
    | none => .error .unsuitable
  | .restrictSpecial r =>
    .ok { b with restrictions :=
      if r ∈ b.restrictions then b.restrictions else b.restrictions ++ [r] }

/-- Takes several steps, until one fails. -/
def steps (b : Builder τ) : List (Step τ) → Except BuildError (Builder τ)
  | [] => .ok b
  | s :: ss =>
    match b.step s with
    | .ok b => b.steps ss
    | .error e => .error e

/-! ## finishing -/

/-- Whether a text is made of blanks only, and has one. -/
def isAllBlank (s : String) : Bool := s != "" && s.toList.all Text.isBlank

/-- Whether bytes are made of blanks only, and there are some. -/
def areAllBlank (bs : List UInt8) : Bool :=
  !bs.isEmpty && bs.all fun b => b == 0x20 || (0x09 ≤ b && b ≤ 0x0d)

/-- Whether the items of a name have one that is made of blanks only. They are looked at in
order, up to the first such one. -/
def anyAllBlank : List Datum → Except BuildError Bool
  | [] => .ok false
  | .text s :: ds => if isAllBlank s then .ok true else anyAllBlank ds
  | .foreign (.bytes bs) :: ds => if areAllBlank bs then .ok true else anyAllBlank ds
  | _ :: _ => .error .withoutCharacters

/-- Whether a value is refused as a name: nothing is, and so is a text with a blank. A
collection counts by its items; other values cannot be looked into. -/
def nameRefused (d : Datum) : Except BuildError Bool :=
  if d.isGiven then
    match d with
    | .text s => .ok (Text.hasBlank s)
    | .list items => anyAllBlank items
    | .foreign (.bytes _) => .error .withoutCharacters
    | .record members => .ok (members.any fun p => isAllBlank p.1)
    | _ => .error .unsuitable
  else .ok true

/-- The first name that occurred before. -/
def firstRepeated? : (seen names : List String) → Option String
  | _, [] => none
  | seen, n :: ns => if n ∈ seen then some n else firstRepeated? (seen ++ [n]) ns

/-- Who may run the command. -/
def requirement (b : Builder τ) : Checked Requirement :=
  Requirement.read
    [("special_restrictions", .list (b.restrictions.map fun r => .text r.keyword)),
     ("required_capabilities", .list b.capabilities), ("permission_bits", b.bits)]

/-- The command, once its name, its task and who may run it are known to be in order. -/
def schema (b : Builder τ) (task : τ) (requirement : Requirement) : Checked (Schema τ) :=
  Checked.app (Checked.app (Checked.app
    (.ok fun name tooltip longHelp =>
      { name := name, parameters := b.parameters, raw := b.raw, task := task, tooltip := tooltip
        longHelp := longHelp, warnings := b.warnings, requirement := requirement })
    (Checked.under (.field "name") b.name.readText))
    (Checked.under (.field "tooltip") b.tooltip.readText))
    (Checked.under (.field "long_help") b.longHelp.readText)

/-- Finishes a declaration. -/
def build (b : Builder τ) : Except BuildError (Schema τ) :=
  match nameRefused b.name with
  | .error e => .error e
  | .ok true => .error (.declaration (.badName b.name))
  | .ok false =>
    match firstRepeated? [] (b.parameters.map Parameter.name), b.task with
    | some n, _ => .error (.declaration (.duplicate n b.name))
    | none, none => .error (.declaration (.noTask b.name))
    | none, some task =>
      match b.requirement with
      | .error es => .error (.invalid es)
      | .ok requirement =>
        match b.schema task requirement with
        | .error es => .error (.invalid es)
        | .ok s => .ok s

/-- The command that a name and some steps declare. -/
def declare (name : Datum) (ss : List (Step τ)) : Except BuildError (Schema τ) :=
  match (new name).steps ss with
  | .ok b => b.build
  | .error e => .error e

end Builder

end ChatCommands
