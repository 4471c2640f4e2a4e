import ChatCommands.Text.Blank

/-!
# ChatCommands.CommandName

Which command a text names. A text is a command if it starts with the marker
and a word follows directly; that word is the name.
-/

namespace ChatCommands

open ChatCommands.Text

/-- The rest of a text behind its beginning, if it begins that way. -/
def afterStart? : (start text : List Char) → Option (List Char)
  | [], text => some text
  | _ :: _, [] => none
  | c :: start, d :: text => if c = d then afterStart? start text else none

theorem afterStart?_eq_some_iff {start text rest : List Char} :
    afterStart? start text = some rest ↔ text = start ++ rest := by
  induction start generalizing text with
  | nil => simp [afterStart?, eq_comm]
  | cons c start ih =>
    cases text with
    | nil => simp [afterStart?]
    | cons d text =>
      by_cases h : c = d
      · simp [afterStart?, h, ih]
      · simp [afterStart?, h, Ne.symm h]

/-- The name of the command that a text gives, if it is a command. -/
def commandName? (text marker : String) : Option String :=
  match afterStart? marker.toList text.toList with
  | none => none
  | some rest =>
    match word rest with
    | [] => none
    | name => some (String.ofList name)

end ChatCommands
