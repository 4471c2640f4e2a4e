import ChatCommands.Numeral
import ChatCommands.Template.Conversion

/-!
# ChatCommands.Presentation

How a value is presented in a field of a text. A presentation is written as
follows, in this order and every part optional:

1. the side of its width that the value stands at, perhaps with the character
   in front that fills the rest: `<` the left, `>` the right, `^` the middle,
   `=` with the rest behind the sign;
2. for numbers, what stands where a minus sign would: `+`, `-` or a blank;
3. `z`, by which a zero has no minus sign;
4. `#`, which marks the base of a number or keeps its point;
5. `0`, which fills the rest with zeros;
6. the width;
7. `,` or `_`, which separates the digits in groups;
8. a point and a precision;
9. the letter of a form.

Texts and integers have presentations. Other values are shown as they are, and
not at all if a presentation is asked for.
-/

namespace ChatCommands

/-- Where a value stands in its width. -/
inductive Side where
  /-- At the left. -/
  | left
  /-- At the right. -/
  | right
  /-- In the middle, or half a character to the left of it. -/
  | middle
  /-- At both ends: its sign at the left, its digits at the right. -/
  | apart
deriving DecidableEq, Repr

namespace Side

/-- The side that a character stands for. -/
def ofChar? : Char → Option Side
  | '<' => some left
  | '>' => some right
  | '^' => some middle
  | '=' => some apart
  | _ => none

/-- A text in two pieces with characters that fill it up. -/
def place (fill : Char) (gap : Nat) (lead body : List Char) : Side → List Char
  | left => lead ++ body ++ List.replicate gap fill
  | right => List.replicate gap fill ++ lead ++ body
  | middle => List.replicate (gap / 2) fill ++ lead ++ body ++ List.replicate (gap - gap / 2) fill
  | apart => lead ++ List.replicate gap fill ++ body

end Side

/-- How a value is presented. -/
structure Presentation where
  /-- The character that fills the rest of the width. -/
  fill : Option Char
  /-- Where the value stands in its width. -/
  side : Option Side
  /-- What stands where a minus sign would. -/
  sign : Option Char
  /-- Whether a zero has no minus sign. -/
  plainZero : Bool
  /-- Whether the base of a number is marked, or its point kept. -/
  marked : Bool
  /-- Whether the rest is filled with zeros. -/
  zeros : Bool
  /-- The least width. -/
  width : Nat
  /-- What separates groups of digits. -/
  separator : Option Char
  /-- The precision. -/
  precision : Option Nat
  /-- The letter of the form. -/
  form : Option Char
deriving DecidableEq, Repr

namespace Presentation

/-! ## reading -/

/-- The first character of a text if it is one of some characters, and what follows it. -/
def cutOne (options : List Char) : List Char → Option Char × List Char
  | [] => (none, [])
  | c :: cs => if options.contains c then (some c, cs) else (none, c :: cs)

/-- The character that fills the rest and the side, and what follows them. -/
def cutSide : List Char → Option Char × Option Side × List Char
  | [] => (none, none, [])
  | [c] => match Side.ofChar? c with
    | some side => (none, some side, [])
    | none => (none, none, [c])
  | c :: d :: cs => match Side.ofChar? d, Side.ofChar? c with
    | some side, _ => (some c, some side, cs)
    | none, some side => (none, some side, d :: cs)
    | none, none => (none, none, c :: d :: cs)

/-- The greatest width or precision that can be written. -/
def greatest : Nat := 0x7fffffffffffffff

/-- The number at the start of a text, in digits of any script, and what follows it; nothing if
it is too large. -/
def cutNumber? (cs : List Char) : Option (Option Nat × List Char) :=
  let digits := cs.takeWhile Text.isDecimal
  let n := Numeral.ofValues (digits.filterMap Text.digitValue?)
  if digits.isEmpty then some (none, cs)
  else if n ≤ greatest then some (some n, cs.dropWhile Text.isDecimal)
  else none

/-- The precision at the start of a text, and what follows it; nothing if there is no number
behind the point. -/
def cutPrecision? : List Char → Option (Option Nat × List Char)
  | '.' :: cs => (cutNumber? cs).filter fun p => p.1.isSome
  | cs => some (none, cs)

/-- The presentation that a text stands for. Zeros are no sign of their own if there is another
character that fills the rest. -/
def ofChars? (cs : List Char) : Option Presentation := do
  let (fill, side, cs) := cutSide cs
  let (sign, cs) := cutOne ['+', '-', ' '] cs
  let (plainZero, cs) := cutOne ['z'] cs
  let (marked, cs) := cutOne ['#'] cs
  let (zeros, cs) := cutOne (if fill.isSome then [] else ['0']) cs
  let (width, cs) ← cutNumber? cs
  let (separator, cs) := cutOne [',', '_'] cs
  let (precision, cs) ← cutPrecision? cs
  if 1 < cs.length then none
  some
    { fill, side, sign, separator, precision
      plainZero := plainZero.isSome
      marked := marked.isSome
      zeros := zeros.isSome
      width := width.getD 0
      form := cs.head? }

/-- The character that fills the rest of the width. -/
def filler (p : Presentation) : Char := p.fill.getD (if p.zeros then '0' else ' ')

/-! ## texts -/

/-- A text as it is presented; it has no sign, no base and no digits. -/
def text? (p : Presentation) (cs : List Char) : Option (List Char) :=
  if p.sign.isSome || p.plainZero || p.marked || p.separator.isSome || p.side = some .apart ||
      p.form.getD 's' ≠ 's' then none
  else
    let cs := (p.precision.map cs.take).getD cs
    some ((p.side.getD .left).place p.filler (p.width - cs.length) [] cs)

/-! ## integers -/

/-- A number in pieces. -/
structure Figures where
  /-- The mark of its base. -/
  mark : List Char
  /-- The digits in front of its point. -/
  digits : List Char
  /-- Its point and what is behind it. -/
  tail : List Char
  /-- How many digits make a group. -/
  group : Nat
deriving DecidableEq, Repr

namespace Figures

/-- An integer to a base. -/
def ofInteger (base : Nat) (mark : List Char) (group : Nat) (i : Int) : Figures :=
  ⟨mark, Nat.toDigits base i.natAbs, [], group⟩

/-- The text of a number without its sign, cut where its digits end. -/
def ofText (cs : List Char) : Figures :=
  ⟨[], cs.takeWhile Char.isDigit, cs.dropWhile Char.isDigit, 3⟩

/-- A number with capital letters. -/
def inCapitals (f : Figures) : Figures :=
  { f with
    mark := f.mark.map Char.toUpper
    digits := f.digits.map Char.toUpper
    tail := f.tail.map Char.toUpper }

end Figures

/-- Digits with separators between groups, the first group having `room` more digits. The digits
come in reverse. -/
def separated (separator : Char) (group : Nat) : (room : Nat) → List Char → List Char
  | _, [] => []
  | 0, c :: cs => separator :: c :: separated separator group (group - 1) cs
  | room + 1, c :: cs => c :: separated separator group room cs

/-- The least number of digits that have a width, separators counted. -/
def digitsIn (group width : Nat) : Nat := width - (width - 1) / (group + 1)

/-- A number as it is presented. Zeros that fill the rest behind the sign are digits like the
others, and separated like them. -/
def figures (p : Presentation) (negative : Bool) (f : Figures) : List Char :=
  let sign :=
    if negative then ['-'] else (p.sign.filter (· ≠ '-')).toList
  let lead := sign ++ if p.marked then f.mark else []
  let side := p.side.getD (if p.zeros then .apart else .right)
  let room :=
    if p.filler = '0' && side = .apart then p.width - (lead.length + f.tail.length) else 0
  let digits := match p.separator with
    | none => Binary64.padded room f.digits
    | some separator =>
      let all := Binary64.padded (digitsIn f.group room) f.digits
      (separated separator f.group f.group all.reverse).reverse
  let body := digits ++ f.tail
  side.place p.filler (p.width - (lead.length + body.length)) lead body

/-- The forms of an integer that are to another base than ten. -/
def otherBase? : Char → Option (Int → Figures)
  | 'b' => some (.ofInteger 2 ['0', 'b'] 4)
  | 'o' => some (.ofInteger 8 ['0', 'o'] 4)
  | 'x' => some (.ofInteger 16 ['0', 'x'] 4)
  | 'X' => some fun i => (Figures.ofInteger 16 ['0', 'x'] 4 i).inCapitals
  | _ => none

/-- The forms that have a fraction. -/
def style? : Char → Option Binary64.Style
  | 'e' => some .exponential
  | 'f' => some .fixed
  | 'g' => some .general
  | '%' => some .fixed
  | _ => none

/-- What a number is multiplied by if it is written as a percentage. -/
def hundred : Binary64 := .ofInt 100

/-- An integer as a floating-point number, as it is presented; nothing if it is out of range. -/
def fraction? (p : Presentation) (form : Char) (style : Binary64.Style) (i : Int) :
    Option (List Char) := do
  let x := Binary64.ofInt i
  if !x.isFinite then none
  let percent := form = '%'
  let x := if percent then x.mul hundred else x
  let count := p.precision.getD Converted.realPrecision
  if Conversion.longest < count then none
  let f := Figures.ofText (x.inStyle style p.marked count ++ if percent then ['%'] else [])
  some (p.figures (i < 0) (if form.isUpper then f.inCapitals else f))

/-- An integer as it is presented. -/
def integer? (p : Presentation) (i : Int) : Option (List Char) :=
  let form := p.form.getD 'd'
  match style? form.toLower with
  | some style => p.fraction? form style i
  | none =>
    if p.precision.isSome || p.plainZero then none
    else
      match otherBase? form with
      | some figuresOf =>
        if p.separator = some ',' then none else some (p.figures (i < 0) (figuresOf i))
      | none =>
        if form = 'd' || (form = 'n' && p.separator.isNone) then
          some (p.figures (i < 0) (.ofInteger 10 [] 3 i))
        else if form = 'c' && p.separator.isNone && p.sign.isNone && !p.marked then
          match Conversion.character? (.integer i) with
          | .ok c => some (p.figures false ⟨[], [], [c], 3⟩)
          | .error _ => none
        else none

/-! ## values -/

/-- A value as it is presented; a width that makes too long a text is none. -/
def value? (p : Presentation) (d : Datum) : Option (List Char) :=
  if Conversion.longest < p.width then none
  else
    match d with
    | .text s => p.text? s.toList
    | .integer i => p.integer? i
    | _ => none

/-- A value as it is presented by what a text stands for. -/
def present? (spec : List Char) (d : Datum) : Option (List Char) :=
  if spec.isEmpty then some d.display.toList else (ofChars? spec).bind fun p => p.value? d

end Presentation

end ChatCommands
