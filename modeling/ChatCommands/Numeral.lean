import ChatCommands.Text.Blank

/-!
# ChatCommands.Numeral

Numbers written in decimal.

* `ofDigits` reads a run of ASCII digits, as command text and macro bodies
  have them.
* `maxDigits` bounds how long a numeral may be to be read at all: a longer one
  is refused whatever its value is, so leading zeros count.
* `readInteger?` reads the more generous form that settings in the environment
  may take: blanks around it, a sign, digits of any script and single
  underscores between digits. `Text.digitValue?` is what such a digit counts.
-/

namespace ChatCommands.Text

/-! ## decimal digits -/

/-- The zeros of the scripts that write numbers in decimal, as of version 14 of the Unicode
character database. Each is followed by the other nine digits of its script. -/
def decimalZeros : List Nat := [
  0x0030, 0x0660, 0x06f0, 0x07c0, 0x0966, 0x09e6, 0x0a66, 0x0ae6, 0x0b66, 0x0be6, 0x0c66, 0x0ce6,
  0x0d66, 0x0de6, 0x0e50, 0x0ed0, 0x0f20, 0x1040, 0x1090, 0x17e0, 0x1810, 0x1946, 0x19d0, 0x1a80,
  0x1a90, 0x1b50, 0x1bb0, 0x1c40, 0x1c50, 0xa620, 0xa8d0, 0xa900, 0xa9d0, 0xa9f0, 0xaa50, 0xabf0,
  0xff10, 0x104a0, 0x10d30, 0x11066, 0x110f0, 0x11136, 0x111d0, 0x112f0, 0x11450, 0x114d0,
  0x11650, 0x116c0, 0x11730, 0x118e0, 0x11950, 0x11c50, 0x11d50, 0x11da0, 0x16a60, 0x16ac0,
  0x16b50, 0x1d7ce, 0x1d7d8, 0x1d7e2, 0x1d7ec, 0x1d7f6, 0x1e140, 0x1e2f0, 0x1e950, 0x1fbf0]

/-- The value of a decimal digit of any script. -/
def digitValue? (c : Char) : Option Nat :=
  (decimalZeros.find? fun z => z ≤ c.toNat && c.toNat ≤ z + 9).map (c.toNat - ·)

/-- Whether a character is a decimal digit of any script. -/
def isDecimal (c : Char) : Bool := (digitValue? c).isSome

end ChatCommands.Text

namespace ChatCommands.Numeral

open ChatCommands.Text

/-! ## digit runs -/

/-- The number that a list of digit values stands for, most significant first. -/
def ofValues (values : List Nat) : Nat := values.foldl (fun n d => 10 * n + d) 0

/-- The value of an ASCII digit. -/
def valueOf (c : Char) : Nat := c.toNat - '0'.toNat

/-- The number written by a run of ASCII digits. -/
def ofDigits (digits : List Char) : Nat := ofValues (digits.map valueOf)

/-- The longest numeral that is read. -/
def maxDigits : Nat := 4300

/-- The number written by a run of ASCII digits, unless the run is too long to be read. -/
def ofDigits? (digits : List Char) : Option Nat :=
  if digits.length ≤ maxDigits then some (ofDigits digits) else none

/-- Whether a text is a run of ASCII digits with at least one digit. -/
def isDigitRun (cs : List Char) : Bool := !cs.isEmpty && cs.all Char.isDigit

/-- A number with the sign in front of it. -/
def signed (negative : Bool) (n : Nat) : Int := if negative then -n else n

/-! ## integers with blanks, signs and underscores -/

/-- Whether a character is white space around a number; the separators U+001C to U+001F are
not. -/
def isMargin (c : Char) : Bool := isBlank c && !(0x1c ≤ c.toNat && c.toNat ≤ 0x1f)

/-- A text without the margin around it. -/
def withoutMargin (cs : List Char) : List Char :=
  ((cs.dropWhile isMargin).reverse.dropWhile isMargin).reverse

/-- A text without its minus sign, and whether it had one. -/
def cutMinus : List Char → Bool × List Char
  | '-' :: cs => (true, cs)
  | cs => (false, cs)

/-- A text without its sign, and whether the sign was a minus. -/
def cutSign : List Char → Bool × List Char
  | '-' :: cs => (true, cs)
  | '+' :: cs => (false, cs)
  | cs => (false, cs)

/-- The digit values of a text in which single underscores may stand between two digits. -/
def groupedValues? : List Char → Option (List Nat)
  | [] => none
  | [c] => (digitValue? c).map ([·])
  | c :: '_' :: cs => do
    let d ← digitValue? c
    let ds ← groupedValues? cs
    some (d :: ds)
  | c :: cs => do
    let d ← digitValue? c
    let ds ← groupedValues? cs
    some (d :: ds)

/-- The integer that a setting is written as, or nothing if it is not an integer or has too
many digits. -/
def readInteger? (s : String) : Option Int := do
  let (negative, rest) := cutSign (withoutMargin s.toList)
  let values ← groupedValues? rest
  if values.length ≤ maxDigits then some (signed negative (ofValues values)) else none

end ChatCommands.Numeral
