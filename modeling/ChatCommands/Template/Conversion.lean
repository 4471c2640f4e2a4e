import ChatCommands.Binary64.Rounded
import ChatCommands.Datum.Literal

/-!
# ChatCommands.Template.Conversion

How the value of a slot is written. The letter of the slot names a conversion:
the value as it is shown, an integer to some base, a floating-point number or
a character.

A converted value is a `Converted`: the sign and the mark of the base in front
of its digits are kept apart, because zeros that fill up a width go between.
-/

namespace ChatCommands

/-! ## faults -/

/-- Why a template cannot be filled. -/
inductive TemplateFault where
  /-- The template ends within a slot. -/
  | incomplete
  /-- There is no such conversion. -/
  | unknownConversion (letter : Char)
  /-- A numeral of the template is too large. -/
  | excessive
  /-- A slot asks for a value by its name, but the values have none. -/
  | named
  /-- There is no value of the name that a slot asks for. -/
  | absent
  /-- There are fewer arguments than slots. -/
  | tooFew
  /-- There are more arguments than slots. -/
  | tooMany
  /-- The argument is not of the kind that the conversion takes. -/
  | unsuitable
  /-- The argument is undefined as a number. -/
  | undefined
  /-- The argument is out of the range of the conversion. -/
  | outOfRange
  /-- The text of a slot would be too long. -/
  | tooLong
deriving DecidableEq, Repr

/-! ## conversions -/

/-- What is done with the argument of a slot. -/
inductive Conversion where
  /-- It is shown as in a message. -/
  | display
  /-- It is shown as in a log line. -/
  | literal
  /-- It is shown as in a log line, in ASCII characters. -/
  | ascii
  /-- It is written as an integer without its fraction. -/
  | decimal
  /-- It is written as an integer to the base eight. -/
  | octal
  /-- It is written as an integer to the base sixteen, with small or capital letters. -/
  | hexadecimal (capital : Bool)
  /-- It is written as a floating-point number, with small or capital letters. -/
  | real (style : Binary64.Style) (capital : Bool)
  /-- It is written as a character. -/
  | character
deriving DecidableEq, Repr

/-- The conversion of a letter. -/
def Conversion.ofLetter? : Char → Option Conversion
  | 's' => some .display
  | 'r' => some .literal
  | 'a' => some .ascii
  | 'd' => some .decimal
  | 'i' => some .decimal
  | 'u' => some .decimal
  | 'o' => some .octal
  | 'x' => some (.hexadecimal false)
  | 'X' => some (.hexadecimal true)
  | 'e' => some (.real .exponential false)
  | 'E' => some (.real .exponential true)
  | 'f' => some (.real .fixed false)
  | 'F' => some (.real .fixed true)
  | 'g' => some (.real .general false)
  | 'G' => some (.real .general true)
  | 'c' => some .character
  | _ => none

/-- A value as it goes into a template. -/
structure Converted where
  /-- What stands in front of the digits of a number. -/
  lead : List Char
  /-- The digits, or all of the text. -/
  body : List Char
  /-- Whether it is a number. -/
  numeric : Bool
deriving DecidableEq, Repr

namespace Converted

/-- A text, cut off at the precision. -/
def ofText (precision : Option Nat) (cs : List Char) : Converted :=
  ⟨[], (precision.map cs.take).getD cs, false⟩

/-- The sign of a number. -/
def sign (flags : List Char) (negative : Bool) : List Char :=
  if negative then ['-']
  else if flags.contains '+' then ['+']
  else if flags.contains ' ' then [' ']
  else []

/-- An integer with at least as many digits as the precision says; `mark` stands for its base. -/
def ofInteger (flags : List Char) (precision : Option Nat) (base : Nat) (mark : List Char)
    (i : Int) : Converted :=
  let digits := Nat.toDigits base i.natAbs
  { lead := sign flags (i < 0) ++ if flags.contains '#' then mark else []
    body := List.replicate (precision.getD 0 - digits.length) '0' ++ digits
    numeric := true }

/-- The precision of a floating-point number that is given none. -/
def realPrecision : Nat := 6

/-- A floating-point number in a style; the precision says how many digits it has. -/
def ofReal (flags : List Char) (precision : Option Nat) (style : Binary64.Style)
    (x : Binary64) : Converted :=
  { lead := sign flags (x.isNegative && x.magnitude ≤ Binary64.infinityBits)
    body := x.inStyle style (flags.contains '#') (precision.getD realPrecision)
    numeric := true }

/-- A value with capital letters, if so asked. -/
def inCapitals (capital : Bool) (c : Converted) : Converted :=
  if capital then { c with lead := c.lead.map Char.toUpper, body := c.body.map Char.toUpper }
  else c

/-- A value in its width: at the left or the right end, or filled up with zeros. -/
def padded (flags : List Char) (width : Nat) (c : Converted) : List Char :=
  let gap := width - (c.lead.length + c.body.length)
  if flags.contains '-' then c.lead ++ c.body ++ List.replicate gap ' '
  else if flags.contains '0' && c.numeric then c.lead ++ List.replicate gap '0' ++ c.body
  else List.replicate gap ' ' ++ c.lead ++ c.body

end Converted

namespace Conversion

/-- The integer that a value is, as it stands. -/
def integer? : Datum → Except TemplateFault Int
  | .integer i => .ok i
  | .bool b => .ok (if b then 1 else 0)
  | _ => .error .unsuitable

/-- The integer that a number is without its fraction. -/
def truncated? : Datum → Except TemplateFault Int
  | .real x =>
    if x.isFinite then .ok x.truncated
    else if x.magnitude = Binary64.infinityBits then .error .outOfRange
    else .error .undefined
  | d => integer? d

/-- The floating-point number that a number is, or is nearest to. -/
def real? : Datum → Except TemplateFault Binary64
  | .real x => .ok x
  | d => do
    let x := Binary64.ofInt (← integer? d)
    if x.isFinite then .ok x else .error .outOfRange

/-- The character that a value is: a text of one character, or the number of one. -/
def character? : Datum → Except TemplateFault Char
  | .text s =>
    match s.toList with
    | [c] => .ok c
    | _ => .error .unsuitable
  | d => do
    let i ← integer? d
    if 0 ≤ i ∧ i.toNat.isValidChar then .ok (Char.ofNat i.toNat) else .error .outOfRange

/-- The greatest number of characters that one slot makes. -/
def longest : Nat := 0x8000000

/-- A number of characters, unless it is too great. -/
def limited (count : Nat) : Except TemplateFault Unit :=
  if count ≤ longest then .ok () else .error .tooLong

/-- Converts a value. -/
def apply (flags : List Char) (precision : Option Nat) (d : Datum) :
    Conversion → Except TemplateFault Converted
  | display => .ok (.ofText precision d.display.toList)
  | literal => .ok (.ofText precision d.literal.toList)
  | ascii => .ok (.ofText precision (Text.inAscii d.literal.toList))
  | decimal => do
    let i ← truncated? d
    limited (precision.getD 0)
    .ok (.ofInteger flags precision 10 [] i)
  | octal => do
    let i ← integer? d
    limited (precision.getD 0)
    .ok (.ofInteger flags precision 8 ['0', 'o'] i)
  | hexadecimal capital => do
    let i ← integer? d
    limited (precision.getD 0)
    .ok ((Converted.ofInteger flags precision 16 ['0', 'x'] i).inCapitals capital)
  | real style capital => do
    let x ← real? d
    limited (precision.getD 0)
    .ok ((Converted.ofReal flags precision style x).inCapitals capital)
  | character => (character? d).map fun c => ⟨[], [c], false⟩

end Conversion

end ChatCommands
