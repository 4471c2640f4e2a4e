import ChatCommands.Logging.Layout.Brace.Parts
import ChatCommands.Presentation

/-!
# ChatCommands.Logging.Layout.Brace

Lines in a layout with fields in braces. The name of a field stands for a value
of the record, or, with indexes behind it, for a character of a text. The value
is converted, and then presented; fields within the presentation are filled in
first.
-/

namespace ChatCommands.BraceLayout

/-- The indexes of a name, the brackets taken off; nothing if there are attributes among them,
which no value has. `inside` is what has been read of an index. -/
def indexes? : (inside : Option (List Char)) → List Char → Option (List (List Char))
  | none, [] => some []
  | none, '[' :: cs => indexes? (some []) cs
  | none, _ => none
  | some _, [] => none
  | some read, ']' :: cs => (indexes? none cs).map (read :: ·)
  | some read, c :: cs => indexes? (some (read ++ [c])) cs

/-- The value at an index of a value: a character of a text. -/
def at? (d : Datum) (index : List Char) : Option Datum :=
  match d with
  | .text s =>
    if index.all Text.isDecimal then
      (s.toList[Numeral.ofValues (index.filterMap Text.digitValue?)]?).map fun c =>
        .text (String.ofList [c])
    else none
  | _ => none

/-- The value that a name stands for. -/
def value? (fields : Members) (name : List Char) : Option Datum := do
  let isPlain (c : Char) : Bool := c ≠ '.' && c ≠ '['
  let d ← Pairs.get? fields (String.ofList (name.takeWhile isPlain))
  (← indexes? none (name.dropWhile isPlain)).foldlM at? d

/-- A value after a conversion. -/
def converted (d : Datum) : Option Char → Datum
  | some 's' => .text d.display
  | some 'r' => .text d.literal
  | some 'a' => .text (String.ofList (Text.inAscii d.literal.toList))
  | _ => d

/-- A field as part of a line, presented as said. -/
def fieldText? (fields : Members) (f : BraceField) (spec : List Char) : Option (List Char) := do
  let d ← value? fields f.name
  Presentation.present? spec (converted d f.conversion)

/-- A part of a presentation as it counts: a field in it is shown as it is. -/
def specPart? (fields : Members) : BracePart → Option (List Char)
  | .char c => some [c]
  | .field f => fieldText? fields f []

/-- A presentation with the fields in it filled in. -/
def spec? (fields : Members) (spec : List Char) : Option (List Char) := do
  let texts ← (← parts? spec).mapM (specPart? fields)
  some texts.flatten

/-- A part as part of a line; nothing if it cannot be filled in. -/
def part? (fields : Members) : BracePart → Option (List Char)
  | .char c => some [c]
  | .field f => do fieldText? fields f (← spec? fields f.spec)

/-- The line of a record with some fields; nothing if they do not fill the layout. -/
def line? (fields : Members) (text : String) : Option String := do
  let texts ← (← parts? text.toList).mapM (part? fields)
  some (String.ofList texts.flatten)

end ChatCommands.BraceLayout
