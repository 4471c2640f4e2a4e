import ChatCommands.Logging.Layout.Brace.Parts
import ChatCommands.Presentation
import ChatCommands.Text.WordChar

/-!
# ChatCommands.Logging.Layout.Brace.Validity

Which texts are layouts with fields in braces. The braces have to be in their
places, and at least one field has to have a name. Moreover, of every field

* the name, unless it is empty, is a word, followed by attributes, each a point
  and a word, and indexes, each in brackets;
* the letter of the conversion is one of three;
* the presentation is written as such, but for its width and precision, which
  may be words in braces, and its form, which may be a capital.

A line break at the end of a name or a presentation is passed over.
-/

namespace ChatCommands.BraceLayout

/-- Where in the name of a field a character stands. -/
inductive NamePlace where
  /-- At the start of the name or of an attribute. -/
  | start
  /-- In the name or in an attribute. -/
  | word
  /-- Behind an opening bracket. -/
  | opened
  /-- In an index. -/
  | index
  /-- Behind a closing bracket. -/
  | closed
deriving DecidableEq, Repr

/-- Where the next character stands, if a character may stand where it does. -/
def NamePlace.after? (c : Char) : NamePlace → Option NamePlace
  | start => if Text.isWordChar c then some word else none
  | opened => if c = ']' then none else some index
  | index => some (if c = ']' then closed else index)
  | word =>
    if c = '.' then some start
    else if c = '[' then some opened
    else if Text.isWordChar c then some word
    else none
  | closed => if c = '.' then some start else if c = '[' then some opened else none

/-- Whether the rest of a name may be written; a line break at the end does not count. -/
def isRestOfName : NamePlace → List Char → Bool
  | p, [] => p = .word || p = .closed
  | p, c :: cs =>
    (c = '\n' && cs.isEmpty && (p = .word || p = .closed)) ||
      match p.after? c with
      | some p => isRestOfName p cs
      | none => false

/-- Whether a name may be written. -/
def isName (cs : List Char) : Bool := isRestOfName .start cs

/-- The letters of conversions. -/
def conversions : List Char := ['r', 's', 'a']

/-- The letters that a presentation may end with, in lower case. -/
def forms : List Char := "bcdefgnosx%".toList

/-- Whether a character is the letter of a form, the long `s` being another `s`. -/
def isForm (c : Char) : Bool := forms.contains c.toLower || c = '\u017f'

/-- A text without its first character, if that is one of some characters. -/
def skipOne (options cs : List Char) : List Char := (Presentation.cutOne options cs).2

/-- A text without the side at its start, and the character that fills the rest; a line break
does not. -/
def skipSide : List Char → List Char
  | [] => []
  | [c] => if (Side.ofChar? c).isSome then [] else [c]
  | c :: d :: cs =>
    if (Side.ofChar? d).isSome && c ≠ '\n' then cs
    else if (Side.ofChar? c).isSome then d :: cs
    else c :: d :: cs

/-- What follows the numeral or the name in braces at the start of a text, if there is one. -/
def afterNumber? : List Char → Option (List Char)
  | '\x7b' :: cs =>
    match cs.dropWhile Text.isWordChar with
    | '\x7d' :: rest => if (cs.takeWhile Text.isWordChar).isEmpty then none else some rest
    | _ => none
  | c :: cs => if Text.isDecimal c then some (cs.dropWhile Text.isDecimal) else none
  | [] => none

/-- What follows the precision at the start of a text, if there is one. -/
def afterPrecision? : List Char → Option (List Char)
  | '.' :: cs => afterNumber? cs
  | _ => none

/-- A text without the letter of a form at its start. -/
def skipForm : List Char → List Char
  | [] => []
  | c :: cs => if isForm c then cs else c :: cs

/-- Whether a presentation may be written; a line break at the end does not count. -/
def isSpec (cs : List Char) : Bool :=
  let cs := skipOne ['0'] (skipOne ['#'] (skipOne ['+', ' ', '-'] (skipSide cs)))
  let cs := skipOne [',', '_'] ((afterNumber? cs).getD cs)
  let cs := skipForm ((afterPrecision? cs).getD cs)
  cs.isEmpty || cs == ['\n']

/-- Whether a field may be written. -/
def isField (f : BraceField) : Bool :=
  (f.name.isEmpty || isName f.name) && (f.conversion.map conversions.contains).getD true &&
    (f.spec.isEmpty || isSpec f.spec)

/-- The fields of a layout. -/
def fieldsOf (ps : List BracePart) : List BraceField :=
  ps.filterMap fun
    | .char _ => none
    | .field f => some f

/-- Whether a text is a layout. -/
def isValid (cs : List Char) : Bool :=
  match parts? cs with
  | none => false
  | some ps => (fieldsOf ps).all isField && (fieldsOf ps).any fun f => !f.name.isEmpty

end ChatCommands.BraceLayout
