import ChatCommands.Datum
import ChatCommands.Text.Blank

/-!
# ChatCommands.Marker

The command marker: the one character that a message starts with to be taken
for a command. It is an ASCII punctuation character other than the quote mark,
so that it is neither part of a name nor taken for the start of a quoted span.
-/

namespace ChatCommands

/-- Why a value is not a marker, in the order in which the rules are checked. -/
inductive MarkerFault where
  /-- It is no text, or an empty one. -/
  | empty
  /-- It has more than one character. -/
  | notSingle
  /-- It is white space. -/
  | blank
  /-- It is not one of the printable characters. -/
  | unprintable
  /-- It is a letter or a digit. -/
  | alphanumeric
  /-- It is the quote mark. -/
  | quote
deriving DecidableEq, Repr

namespace MarkerFault

/-- A fault in words. -/
def message : MarkerFault → String
  | empty => "command prefix must be a non-empty string"
  | notSingle => "command prefix must be exactly one character"
  | blank => "command prefix cannot be whitespace"
  | unprintable => "command prefix must be a printable character"
  | alphanumeric => "command prefix cannot be a letter or digit"
  | quote => "command prefix cannot be the quote character"

end MarkerFault

namespace Marker

/-- The fault of a single character as a marker. -/
def charFault? (c : Char) : Option MarkerFault :=
  if Text.isBlank c then some .blank
  else if !(0x20 ≤ c.toNat && c.toNat ≤ 0x7e) then some .unprintable
  else if c.isAlphanum then some .alphanumeric
  else if c = '"' then some .quote
  else none

/-- The fault of a text as a marker. -/
def textFault? (s : String) : Option MarkerFault :=
  match s.toList with
  | [] => some .empty
  | [c] => charFault? c
  | _ => some .notSingle

/-- The fault of any value as a marker. -/
def fault? (d : Datum) : Option MarkerFault :=
  match d.text? with
  | some s => textFault? s
  | none => some .empty

end Marker

end ChatCommands
