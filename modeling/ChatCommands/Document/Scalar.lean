import ChatCommands.Datum
import ChatCommands.Document
import ChatCommands.Document.Base64
import ChatCommands.Document.Moment
import ChatCommands.Text.Split

/-!
# ChatCommands.Document.Scalar

What a scalar stands for. A plain scalar has the kind that its text looks
like, and is a text if it looks like nothing else; a tag may give a scalar
another kind, among them that of bytes, which no plain scalar looks like. The
kinds have their own ways of reading a text, which accept at
least what is seen to be of the kind:

| kind        | texts                                                        |
|-------------|--------------------------------------------------------------|
| null        | `~`, `null`, nothing                                         |
| truth value | `yes`, `no`, `true`, `false`, `on`, `off`                    |
| integer     | `0b11`, `017`, `0x1f`, `1_000`, `1:30` (in base sixty)       |
| real        | `1.5`, `.5`, `1.0e+3`, `1:30.5` (in base sixty), `.inf`      |
| moment      | `2001-12-14`, `2001-12-14 21:59:43`                          |
-/

namespace ChatCommands.Document

/-- What a scalar may stand for. -/
inductive ScalarKind where
  /-- No value. -/
  | null
  /-- A truth value. -/
  | bool
  /-- An integer. -/
  | integer
  /-- A floating-point number. -/
  | real
  /-- A date, perhaps with a time of day. -/
  | moment
  /-- Bytes. -/
  | binary
  /-- A text. -/
  | text
  /-- As a key, the members of other mappings. -/
  | merge
  /-- As a key, the value that stands for a whole mapping. -/
  | standIn
deriving DecidableEq, Repr

/-! ## words -/

/-- The plain scalars that are no value. -/
def nullWords : List String := ["", "~", "null", "Null", "NULL"]

/-- The words for the truth values, in lower case. -/
def boolWords : List (List Char × Bool) :=
  [("yes".toList, true), ("no".toList, false), ("true".toList, true), ("false".toList, false),
   ("on".toList, true), ("off".toList, false)]

/-- A word with a capital in front. -/
def capitalized : List Char → List Char
  | [] => []
  | c :: cs => c.toUpper :: cs

/-- Whether a plain scalar is a truth value: its word is written in lower case, in upper case or
with a capital in front. -/
def isBoolWord (cs : List Char) : Bool :=
  boolWords.any fun p => cs == p.1 || cs == p.1.map Char.toUpper || cs == capitalized p.1

/-! ## numbers in base sixty -/

/-- Whether a text is a row of digits in base sixty, each with a colon in front. -/
def isSixtyRow : List Char → Bool
  | [] => true
  | ':' :: c :: d :: cs =>
    if d = ':' then c.isDigit && isSixtyRow (d :: cs)
    else '0' ≤ c && c ≤ '5' && d.isDigit && isSixtyRow cs
  | [':', c] => c.isDigit
  | _ => false

/-! ## integers -/

/-- Whether a character is a digit or an underscore. -/
def isGrouped (c : Char) : Bool := c.isDigit || c == '_'

/-- Whether a text has some character, all of them being underscores or of a class. -/
def isGroupedRun (isPart : Char → Bool) (cs : List Char) : Bool :=
  !cs.isEmpty && cs.all fun c => c == '_' || isPart c

/-- Whether a plain scalar is an integer: behind a sign it is binary after `0b`, hexadecimal
after `0x`, octal after another zero, or decimal or in base sixty. -/
def isInteger (cs : List Char) : Bool :=
  match (Numeral.cutSign cs).2 with
  | ['0'] => true
  | '0' :: 'b' :: ds => isGroupedRun (fun c => c == '0' || c == '1') ds
  | '0' :: 'x' :: ds => isGroupedRun isHexDigit ds
  | '0' :: ds => isGroupedRun (fun c => '0' ≤ c && c ≤ '7') ds
  | d :: ds => d.isDigit && isSixtyRow (ds.dropWhile isGrouped)
  | [] => false

/-- A text without its underscores. -/
def withoutUnderscores (cs : List Char) : List Char := cs.filter (· ≠ '_')

/-- The number that a run of digits of a base stands for. -/
def naturalOf (base : Nat) (isPart : Char → Bool) (ds : List Char) : Except Fault Int :=
  if !ds.isEmpty && ds.all isPart then .ok (ofBase base ds) else .error .unreadableNumeral

/-- The integer that is written in decimal. -/
def decimalOf (cs : List Char) : Except Fault Int :=
  match Numeral.readInteger? (String.ofList cs) with
  | some i => .ok i
  | none => .error .unreadableNumeral

/-- The integer whose base-sixty digits are given in decimal, behind a first part of any
size. -/
def sixtiesOf (acc : Int) : List (List Char) → Except Fault Int
  | [] => .ok acc
  | p :: ps =>
    match decimalOf p with
    | .ok i => sixtiesOf (60 * acc + i) ps
    | .error f => .error f

/-- The integer that a text without a sign is written as. -/
def unsignedInteger (cs : List Char) : Except Fault Int :=
  match cs with
  | [] => .error .emptyNumeral
  | ['0'] => .ok 0
  | '0' :: 'b' :: ds => naturalOf 2 (fun c => c == '0' || c == '1') ds
  | '0' :: 'x' :: ds => naturalOf 16 isHexDigit ds
  | '0' :: ds => naturalOf 8 (fun c => '0' ≤ c && c ≤ '7') ds
  | ds => if ':' ∈ ds then sixtiesOf 0 (Text.splitAt ':' ds) else decimalOf ds

/-- The integer that a text is written as. -/
def integerOf (cs : List Char) : Except Fault Int :=
  let (negative, digits) := Numeral.cutSign (withoutUnderscores cs)
  match unsignedInteger digits with
  | .ok i => .ok (if negative then -i else i)
  | .error f => .error f

/-! ## floating-point numbers -/

/-- The plain scalars that are infinite, without a sign. -/
def infinityWords : List String := [".inf", ".Inf", ".INF"]

/-- The plain scalars that are undefined numbers. -/
def undefinedWords : List String := [".nan", ".NaN", ".NAN"]

/-- Whether a text is an exponent with a sign, or nothing. -/
def isExponent : List Char → Bool
  | [] => true
  | e :: sign :: ds => (e == 'e' || e == 'E') && (sign == '+' || sign == '-') &&
    Numeral.isDigitRun ds
  | _ => false

/-- Whether a plain scalar without a sign is a finite floating-point number: it has a point,
with a digit on either side. Behind digits in base sixty there is no exponent. -/
def isUnsignedReal (cs : List Char) : Bool :=
  let whole := cs.takeWhile (· ≠ '.')
  match whole, cs.dropWhile (· ≠ '.') with
  | d :: ds, _ :: fraction =>
    d.isDigit &&
      ((ds.all isGrouped && isExponent (fraction.dropWhile isGrouped)) ||
        (ds.contains ':' && isSixtyRow (ds.dropWhile isGrouped) && fraction.all isGrouped))
  | _, _ => false

/-- Whether a plain scalar is a floating-point number. In front of a point there is no sign. -/
def isReal (cs : List Char) : Bool :=
  let unsigned := (Numeral.cutSign cs).2
  match cs with
  | '.' :: d :: ds => (d.isDigit && isExponent (ds.dropWhile isGrouped)) ||
    undefinedWords.contains (String.ofList cs) || infinityWords.contains (String.ofList cs)
  | _ => isUnsignedReal unsigned || infinityWords.contains (String.ofList unsigned)

/-- The exponent that a text is, with or without a sign; nothing counts as zero. -/
def exponent? : List Char → Option Int
  | [] => some 0
  | e :: cs =>
    let (negative, ds) := Numeral.cutSign cs
    if (e = 'e' ∨ e = 'E') ∧ Numeral.isDigitRun ds then
      some (Numeral.signed negative (Numeral.ofDigits ds))
    else none

/-- The floating-point number that is written in decimal, without a sign. -/
def unsignedReal? (cs : List Char) : Option Binary64 :=
  let whole := cs.takeWhile Char.isDigit
  let rest := cs.dropWhile Char.isDigit
  let (fraction, rest) := match rest with
    | '.' :: rest => (rest.takeWhile Char.isDigit, rest.dropWhile Char.isDigit)
    | rest => ([], rest)
  match exponent? rest with
  | some e =>
    if (whole ++ fraction).isEmpty then none
    else
      some (Binary64.ofDecimal false (Numeral.ofDigits (whole ++ fraction)) (e - fraction.length))
  | none => none

/-- The sum of some numbers, each multiplied by sixty as often as there are others in front of
it. -/
def sumOfSixties (acc : Binary64) (power : Nat) : List (List Char) → Except Fault Binary64
  | [] => .ok acc
  | p :: ps =>
    match unsignedReal? p with
    | none => .error .unreadableNumeral
    | some x =>
      let scale := Binary64.ofInt (Nat.pow 60 power)
      if scale.isFinite then sumOfSixties (acc.add (x.mul scale)) (power + 1) ps
      else .error .outOfRange

/-- The floating-point number that a text is written as. -/
def realOf (cs : List Char) : Except Fault Binary64 :=
  let body := (withoutUnderscores cs).map Char.toLower
  let (negative, digits) := Numeral.cutSign body
  let signed (x : Binary64) : Binary64 := Binary64.withSign negative x.magnitude
  if body.isEmpty then .error .emptyNumeral
  else if digits ∈ [".inf", "inf", "infinity"].map String.toList then
    .ok (signed (Binary64.withSign false Binary64.infinityBits))
  else if digits ∈ [".nan", "nan"].map String.toList then .ok Binary64.undefined
  else if ':' ∈ digits then
    match sumOfSixties (Binary64.withSign false 0) 0 (Text.splitAt ':' digits).reverse with
    | .ok x => .ok (signed x)
    | .error f => .error f
  else
    match unsignedReal? digits with
    | some x => .ok (signed x)
    | none => .error .unreadableNumeral

/-! ## kinds and values -/

namespace ScalarKind

/-- The kind that a plain scalar looks like. -/
def ofPlain (s : String) : ScalarKind :=
  let cs := s.toList
  if nullWords.contains s then null
  else if isBoolWord cs then bool
  else if isReal cs then real
  else if isInteger cs then integer
  else if isMoment cs then moment
  else if s = "<<" then merge
  else if s = "=" then standIn
  else text

/-- The date that a text is written as. -/
def momentOf (s : String) : Except Fault Datum :=
  match Moment.read? s.toList with
  | some m => if m.isPossible then .ok (.foreign (.date s)) else .error .impossibleMoment
  | none => .error .unreadableMoment

/-- The bytes that a text is written for. -/
def binaryOf (cs : List Char) : Except Fault Datum :=
  match bytes? cs with
  | some bs => if cs.all fun c => c.toNat < 0x80 then .ok (.foreign (.bytes bs)) else malformed
  | none => malformed

/-- The value of a scalar of some kind. The kinds of keys have none. -/
def value (s : String) : ScalarKind → Except Fault Datum
  | null => .ok .null
  | bool =>
    match boolWords.find? fun p => p.1 == s.toList.map Char.toLower with
    | some p => .ok (.bool p.2)
    | none => .error .unreadableBool
  | integer => (integerOf s.toList).map .integer
  | real => (realOf s.toList).map .real
  | moment => momentOf s
  | binary => binaryOf s.toList
  | text => .ok (.text s)
  | merge => malformed
  | standIn => malformed

end ScalarKind

end ChatCommands.Document
