import ChatCommands.Datum.Literal
import ChatCommands.Template

/-!
# ChatCommands.Logging.Layout.Dollar

Layouts whose fields stand behind a dollar sign, in braces or not. Names are
made of ASCII letters, digits and underscores and do not start with a digit;
without braces a name is as long as it can be. Two dollar signs in a row are
one dollar sign of text. Any other dollar sign makes a text no layout, and so
does the lack of a field.
-/

namespace ChatCommands

/-- A part of a layout with dollar signs. -/
inductive DollarPart where
  /-- A character of text. -/
  | char (c : Char)
  /-- A field. -/
  | field (name : List Char)
deriving DecidableEq, Repr

namespace DollarLayout

/-- Whether a character can be part of a name. -/
def isNameChar (c : Char) : Bool := c.isAlphanum || c = '_'

/-- Whether a text is a name. -/
def isName : List Char → Bool
  | [] => false
  | c :: cs => !c.isDigit && (c :: cs).all isNameChar

/-- The name at the start of a text, and what follows it. -/
def cutPlainName? (cs : List Char) : Option (List Char × List Char) :=
  let name := cs.takeWhile isNameChar
  if isName name then some (name, cs.dropWhile isNameChar) else none

/-- The name of a field behind its dollar sign, and what follows the field. -/
def cutName? : List Char → Option (List Char × List Char)
  | '\x7b' :: cs =>
    match cutPlainName? cs with
    | some (name, '\x7d' :: rest) => some (name, rest)
    | _ => none
  | cs => cutPlainName? cs

theorem length_cutPlainName?_le {cs name rest : List Char}
    (h : cutPlainName? cs = some (name, rest)) : rest.length ≤ cs.length := by
  simp only [cutPlainName?, Option.ite_none_right_eq_some, Option.some.injEq,
    Prod.mk.injEq] at h
  rw [← h.2.2]
  exact Slot.length_dropWhile_le _ _

/-- What follows a field is no longer than the text that the field is read from. -/
theorem length_cutName?_le {cs name rest : List Char} (h : cutName? cs = some (name, rest)) :
    rest.length ≤ cs.length := by
  unfold cutName? at h
  split at h
  · split at h
    · next hcut =>
      have := length_cutPlainName?_le hcut
      simp only [Option.some.injEq, Prod.mk.injEq] at h
      simp only [List.length_cons] at this ⊢
      rw [← h.2]
      omega
    · contradiction
  · exact length_cutPlainName?_le h

/-- The parts of a text; nothing if it has a dollar sign that is neither doubled nor in front of
a name. -/
def parts? : List Char → Option (List DollarPart)
  | [] => some []
  | '$' :: '$' :: cs => (parts? cs).map (.char '$' :: ·)
  | '$' :: cs =>
    match h : cutName? cs with
    | none => none
    | some (name, rest) =>
      have := length_cutName?_le h
      (parts? rest).map (.field name :: ·)
  | c :: cs => (parts? cs).map (.char c :: ·)
termination_by cs => cs.length
decreasing_by
  all_goals
    simp only [List.length_cons]
    omega

/-- Whether a part is a field. -/
def isField : DollarPart → Bool
  | .char _ => false
  | .field _ => true

/-- Whether a text is a layout. -/
def isValid (cs : List Char) : Bool := ((parts? cs).map fun ps => ps.any isField).getD false

/-- A part as part of a line; nothing if there is no such field. -/
def part? (fields : Members) : DollarPart → Option (List Char)
  | .char c => some [c]
  | .field name => (Pairs.get? fields (String.ofList name)).map fun d => d.display.toList

/-- The line of a record with some fields; nothing if one is missing. -/
def line? (fields : Members) (text : String) : Option String := do
  let parts ← parts? text.toList
  let texts ← parts.mapM (part? fields)
  some (String.ofList texts.flatten)

end DollarLayout

end ChatCommands
