import ChatCommands.Template.Fill
import ChatCommands.Text.WordChar

/-!
# ChatCommands.Logging.Layout.Percent

Layouts whose fields stand in the slots of a template.

A text is such a layout if something in it looks like a slot with a name: a
percent sign, a name in parentheses, flags, a width, a precision and the letter
of a conversion, small or capital. That is all that is asked of it. The percent
sign may itself be the second of two, which are text for the template; and
other slots may be such that nothing can fill them.
-/

namespace ChatCommands.PercentLayout

/-- The letters that a field ends with, in lower case. -/
def letters : List Char := "diouxefgcrsa%".toList

/-- The other characters that are one of the letters but for their case: the `i` with its dot as
a capital and without its dot, and the long `s`. -/
def otherLetters : List Char := ['\u0130', '\u0131', '\u017f']

/-- Whether a character is the letter of a field. -/
def isLetter (c : Char) : Bool := letters.contains c.toLower || otherLetters.contains c

/-- What follows the star or the numeral at the start of a text, if there is one. -/
def afterExtent? : List Char → Option (List Char)
  | '*' :: cs => some cs
  | c :: cs => if Text.isDecimal c then some (cs.dropWhile Text.isDecimal) else none
  | [] => none

/-- What follows the precision at the start of a text, if there is one. -/
def afterPrecision? : List Char → Option (List Char)
  | '.' :: cs => afterExtent? cs
  | _ => none

/-- Whether flags, a width and a precision, which may all be missing, and a letter are at the
start of a text. -/
def endsField (cs : List Char) : Bool :=
  let cs := cs.dropWhile Slot.isFlag
  let cs := (afterExtent? cs).getD cs
  let cs := (afterPrecision? cs).getD cs
  (cs.head?.map isLetter).getD false

/-- Whether the rest of a field, behind its percent sign, is at the start of a text. -/
def isField : List Char → Bool
  | '(' :: cs =>
    match cs.dropWhile Text.isWordChar with
    | ')' :: rest => !(cs.takeWhile Text.isWordChar).isEmpty && endsField rest
    | _ => false
  | _ => false

/-- Whether there is a field somewhere in a text. -/
def isValid : List Char → Bool
  | [] => false
  | '%' :: cs => isField cs || isValid cs
  | _ :: cs => isValid cs

/-- The line of a record with some fields; nothing if they do not fill the slots. -/
def line? (fields : Members) (text : String) : Option String :=
  (Template.fillNamed text fields).toOption

end ChatCommands.PercentLayout
