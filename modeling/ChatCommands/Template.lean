/-!
# ChatCommands.Template

Templates of messages and log lines. A template is text with slots in it. A
slot starts with a percent sign and says, in this order and each part but the
last one optional:

1. the name of the value, in parentheses, which may be nested;
2. flags: `-` puts the value at the left end of its width, `+` and blank give
   numbers a sign, `#` marks the base of a number, and `0` fills numbers up
   with zeros;
3. the least width;
4. a point and the precision;
5. a size letter without a meaning;
6. the letter of the conversion.

Width and precision are numerals or a star, for which an argument stands in.
Two percent signs in a row are one percent sign of text. A template may end
within a slot; only what fills the template finds fault with that.
-/

namespace ChatCommands

/-! ## slots -/

/-- A width or a precision. -/
inductive Extent where
  /-- A numeral. -/
  | given (digits : List Char)
  /-- The next argument. -/
  | argument
deriving DecidableEq, Repr

/-- A place in a template where a value goes. -/
structure Slot where
  /-- The name of the value. -/
  name : Option (List Char)
  /-- The flags. -/
  flags : List Char
  /-- The least width. -/
  width : Option Extent
  /-- The precision. -/
  precision : Option Extent
  /-- The letter of the conversion; nothing if the template ends before it. -/
  conversion : Option Char
deriving DecidableEq, Repr

/-- A part of a template. -/
inductive TemplatePart where
  /-- A character of text. -/
  | char (c : Char)
  /-- A slot. -/
  | slot (s : Slot)
deriving DecidableEq, Repr

namespace Slot

/-! ## reading -/

/-- The text up to the parenthesis that closes the one before the text, and what follows it; a
parenthesis that is not closed takes everything. -/
def cutParenthesis : (depth : Nat) → List Char → List Char × List Char
  | _, [] => ([], [])
  | 0, ')' :: cs => ([], cs)
  | depth, c :: cs =>
    let inner := if c = '(' then depth + 1 else if c = ')' then depth - 1 else depth
    let (name, rest) := cutParenthesis inner cs
    (c :: name, rest)

/-- The name of a slot. -/
def cutName : List Char → Option (List Char) × List Char
  | '(' :: cs =>
    let (name, rest) := cutParenthesis 0 cs
    (some name, rest)
  | cs => (none, cs)

/-- Whether a character is a flag. -/
def isFlag (c : Char) : Bool := ['-', '+', ' ', '#', '0'].contains c

/-- A width. -/
def cutWidth : List Char → Option Extent × List Char
  | '*' :: cs => (some .argument, cs)
  | cs =>
    let digits := cs.takeWhile Char.isDigit
    (if digits.isEmpty then none else some (.given digits), cs.dropWhile Char.isDigit)

/-- A precision, which a point announces; without a numeral it is zero. -/
def cutPrecision : List Char → Option Extent × List Char
  | '.' :: cs =>
    let (extent, rest) := cutWidth cs
    (some (extent.getD (.given [])), rest)
  | cs => (none, cs)

/-- A text without the size letter in front of it. -/
def skipSize : List Char → List Char
  | [] => []
  | c :: cs => if c = 'h' || c = 'l' || c = 'L' then cs else c :: cs

/-- Reads a slot from the text behind the percent sign. -/
def read (cs : List Char) : Slot × List Char :=
  let (name, cs) := cutName cs
  let flags := cs.takeWhile isFlag
  let (width, cs) := cutWidth (cs.dropWhile isFlag)
  let (precision, cs) := cutPrecision cs
  let cs := skipSize cs
  (⟨name, flags, width, precision, cs.head?⟩, cs.tail)

/-! ### what is left is no longer than what was there -/

theorem length_cutParenthesis_le (depth : Nat) (cs : List Char) :
    (cutParenthesis depth cs).2.length ≤ cs.length := by
  fun_induction cutParenthesis depth cs <;> simp_all
  omega

theorem length_cutName_le (cs : List Char) : (cutName cs).2.length ≤ cs.length := by
  unfold cutName
  split
  · have := length_cutParenthesis_le 0 (by assumption)
    simp only [List.length_cons]
    omega
  · exact Nat.le_refl _

theorem length_dropWhile_le (p : Char → Bool) (cs : List Char) :
    (cs.dropWhile p).length ≤ cs.length :=
  (List.dropWhile_suffix p).length_le

theorem length_cutWidth_le (cs : List Char) : (cutWidth cs).2.length ≤ cs.length := by
  unfold cutWidth
  split
  · simp
  · exact length_dropWhile_le _ _

theorem length_cutPrecision_le (cs : List Char) : (cutPrecision cs).2.length ≤ cs.length := by
  unfold cutPrecision
  split
  · have := length_cutWidth_le (by assumption)
    simp only [List.length_cons]
    omega
  · exact Nat.le_refl _

theorem length_skipSize_le (cs : List Char) : (skipSize cs).length ≤ cs.length := by
  cases cs with
  | nil => exact Nat.le_refl _
  | cons c cs =>
    simp only [skipSize]
    split <;> simp

/-- What follows a slot is no longer than the text that the slot is read from. -/
theorem length_read_le (cs : List Char) : (read cs).2.length ≤ cs.length := by
  have h₁ := length_cutName_le cs
  have h₂ := length_dropWhile_le isFlag (cutName cs).2
  have h₃ := length_cutWidth_le ((cutName cs).2.dropWhile isFlag)
  have h₄ := length_cutPrecision_le (cutWidth ((cutName cs).2.dropWhile isFlag)).2
  have h₅ := length_skipSize_le
    (cutPrecision (cutWidth ((cutName cs).2.dropWhile isFlag)).2).2
  simp only [read, List.length_tail]
  omega

end Slot

/-! ## templates -/

namespace Template

/-- The parts of a template. -/
def parts : List Char → List TemplatePart
  | [] => []
  | '%' :: '%' :: cs => .char '%' :: parts cs
  | '%' :: cs => .slot (Slot.read cs).1 :: parts (Slot.read cs).2
  | c :: cs => .char c :: parts cs
termination_by cs => cs.length
decreasing_by
  all_goals
    have := Slot.length_read_le cs
    simp only [List.length_cons]
    omega

end Template

end ChatCommands
