import ChatCommands.Datum
import ChatCommands.Binary64.Shortest
import ChatCommands.Text.Quoted

/-!
# ChatCommands.Datum.Literal

The text of a value. `literal` shows a value as a log line does, with texts
in quotes; `display` shows it as a message does, where a text stands for
itself. The words for no value and for the two truth values, the brackets and
the separators are decided here.
-/

namespace ChatCommands.Datum

/-- The word for no value. -/
def nullWord : String := "None"

/-- The word for a truth value. -/
def boolWord (b : Bool) : String := if b then "True" else "False"

/-- Bytes in quotes behind a `b`, those that are no ASCII character by their numbers. -/
def bytesLiteral (bs : List UInt8) : String :=
  let cs := bs.map fun b => Char.ofNat b.toNat
  let mark := Text.quoteMark cs
  let escaped c := if c.toNat < 0x80 then Text.escaped mark c else Text.codePointEscape c
  String.ofList ('b' :: mark :: cs.flatMap escaped ++ [mark])

/-- A value of a sort that only documents have is written like this. -/
instance : Coe Foreign String where
  coe
    | .date s => s
    | .bytes bs => bytesLiteral bs

/-- Texts between an opening and a closing bracket. -/
def bracketed (left right : String) (parts : List String) : String :=
  left ++ String.intercalate ", " parts ++ right

/-- Texts in the brackets of a record. -/
def inBraces (parts : List String) : String := bracketed "\x7b" "\x7d" parts

mutual

/-- A value as a log line shows it. -/
def literal : Datum → String
  | null => nullWord
  | bool b => boolWord b
  | integer i => toString i
  | real x => x.text
  | text s => Text.quoted s
  | foreign x => x
  | list items => bracketed "[" "]" (literals items)
  | record members => inBraces (memberLiterals members)

/-- The literals of a list of values. -/
def literals : List Datum → List String
  | [] => []
  | item :: items => literal item :: literals items

/-- The members of a record, each as its name and its value. -/
def memberLiterals : List (String × Datum) → List String
  | [] => []
  | (name, value) :: members =>
    (Text.quoted name ++ ": " ++ literal value) :: memberLiterals members

end

/-- A value as a message shows it. -/
def display : Datum → String
  | text s => s
  | value => value.literal

/-- Several values in a row, as a message shows them together. -/
def displayAll : List Datum → String
  | [] => ""
  | [value] => value.display
  | values => bracketed "(" ")" (literals values)

end ChatCommands.Datum
