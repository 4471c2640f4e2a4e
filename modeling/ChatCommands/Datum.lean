import ChatCommands.Binary64
import ChatCommands.OrderedMap

/-!
# ChatCommands.Datum

Values whose form is not known beforehand: what a configuration document
holds, what a caller hands to a builder or a validated field, what an error
carries as details and what a log line shows.
-/

namespace ChatCommands

/-- A value of a sort that documents have and callers do not. -/
inductive Foreign where
  /-- A date, perhaps with a time of day, as it is written. -/
  | date (s : String)
  /-- Bytes. -/
  | bytes (bs : List UInt8)
deriving DecidableEq, Repr

/-- A value of any form. The members of a record keep their order. -/
inductive Datum where
  /-- No value. -/
  | null
  /-- A truth value. -/
  | bool (b : Bool)
  /-- An integer of any size. -/
  | integer (i : Int)
  /-- A floating-point number. -/
  | real (x : Binary64)
  /-- A text. -/
  | text (s : String)
  /-- A value of a sort that documents have and callers do not. -/
  | foreign (x : Foreign)
  /-- A list of values. -/
  | list (items : List Datum)
  /-- Named values. -/
  | record (members : List (String × Datum))
deriving Repr, Inhabited

/-- The members of a record. -/
abbrev Members := List (String × Datum)

/-- The text whose UTF-8 code some bytes are, if they are that of a text. -/
def Foreign.textOf? (bs : List UInt8) : Option String := String.fromUTF8? ⟨bs.toArray⟩

namespace Datum

/-- A value of a sort that documents have, by the name of the commonest of them. -/
@[match_pattern] def moment (x : Foreign) : Datum := foreign x

/-- Whether a value counts as given: nothing, false, zero, no bytes and the empty text, list and
record do not. -/
def isGiven : Datum → Bool
  | null => false
  | bool b => b
  | integer i => i != 0
  | real x => !x.isZero
  | text s => s != ""
  | foreign (.date _) => true
  | foreign (.bytes bs) => !bs.isEmpty
  | list items => !items.isEmpty
  | record members => !members.isEmpty

/-- The text that a value is, if it is one. -/
def text? : Datum → Option String
  | text s => some s
  | _ => none

/-- A text, or no value. -/
def ofText? : Option String → Datum
  | some s => text s
  | none => null

end Datum

end ChatCommands
