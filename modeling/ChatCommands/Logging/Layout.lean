import ChatCommands.Logging.Layout.Brace
import ChatCommands.Logging.Layout.Brace.Validity
import ChatCommands.Logging.Layout.Dollar
import ChatCommands.Logging.Layout.Percent
import ChatCommands.Logging.Record

/-!
# ChatCommands.Logging.Layout

How log lines are laid out. A layout is a text in which fields of a log record
are named, in one of three styles: in the slots of a template, in braces, or
behind a dollar sign. Each style says which texts are layouts; a text that is
none is refused. A layout may name fields that a record does not have, and then
there is no line for the record.

A layout is either plain or tagging. A tagging layout sees to it that the
record is tagged before it is laid out.
-/

namespace ChatCommands

/-- How fields are named in a layout. -/
inductive LayoutStyle where
  /-- In the slots of a template. -/
  | percent
  /-- In braces. -/
  | brace
  /-- Behind a dollar sign. -/
  | dollar
deriving DecidableEq, Repr

namespace LayoutStyle

/-- The text that names the message only. -/
def messageText : LayoutStyle → String
  | percent => "%(message)s"
  | brace => "\x7bmessage\x7d"
  | dollar => "$\x7bmessage\x7d"

/-- Whether a text is a layout. -/
def isValid (text : String) : LayoutStyle → Bool
  | percent => PercentLayout.isValid text.toList
  | brace => BraceLayout.isValid text.toList
  | dollar => DollarLayout.isValid text.toList

/-- The line of a record with some fields; nothing if they do not fill the layout. -/
def line? (fields : Members) (text : String) : LayoutStyle → Option String
  | percent => PercentLayout.line? fields text
  | brace => BraceLayout.line? fields text
  | dollar => DollarLayout.line? fields text

end LayoutStyle

/-- How log lines are laid out. -/
structure LogLayout where
  /-- Whether it is a tagging layout. -/
  tagging : Bool
  /-- The text. -/
  text : String
  /-- The style of the text. -/
  style : LayoutStyle
deriving DecidableEq, Repr

namespace LogLayout

/-- The text of a tagging layout that is given none. -/
def taggingText : String :=
  "%(asctime)s [%(levelname)-8s] [%(env_tag)s] %(name)s:%(lineno)d %(message)s"

/-- Makes a layout from a text; an empty text is that of the message. Nothing if the text is no
layout of the style. -/
def make? (tagging : Bool) (text : Option String) (style : LayoutStyle) : Option LogLayout :=
  let given := text.getD (if tagging then taggingText else "")
  let used := if given = "" then style.messageText else given
  if style.isValid used then some ⟨tagging, used, style⟩ else none

/-- The line of a record; nothing if its fields do not fill the layout. -/
def line? (l : LogLayout) (r : LogRecord) : Option String := l.style.line? r.fields l.text

end LogLayout

end ChatCommands
