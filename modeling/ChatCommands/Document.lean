/-!
# ChatCommands.Document

Settings files are documents of YAML 1.1. A document is read in three passes:

1. `Document.Symbol` cuts the text into symbols, which include those that the
   indentation stands for;
2. `Document.Grammar` puts the symbols together to nodes (`Document.Node`);
3. `Document.Construction` makes values of the nodes, or finds a fault, where
   `Document.Scalar` decides about the scalars.

This module has what the passes share: the faults, the classes of characters
and the folding of lines.
-/

namespace ChatCommands.Document

/-! ## faults -/

/-- Why a document cannot be read. -/
inductive Fault where
  /-- It does not follow the grammar, or a node has a tag that does not suit it. -/
  | malformed
  /-- A number has a text that no number is written as, or too many digits. -/
  | unreadableNumeral
  /-- A number has an empty text. -/
  | emptyNumeral
  /-- A date is none of the calendar, or a time of day none of the clock. -/
  | impossibleMoment
  /-- A date has a text that no date is written as. -/
  | unreadableMoment
  /-- A truth value has a text that none is written as. -/
  | unreadableBool
  /-- An escape has the code of no character. -/
  | noSuchCharacter
  /-- A number is too great to be worked with. -/
  | outOfRange
  /-- It is nested more deeply than its reader can follow. -/
  | tooDeep
deriving DecidableEq, Repr

/-- What was read, and the rest of the text. -/
abbrev Reading (α : Type) := Except Fault (α × List Char)

/-- The reading of a malformed text. -/
def malformed {α : Type} : Except Fault α := .error .malformed

/-! ## characters -/

/-- Whether a character may occur in a document at all. -/
def isAllowed (c : Char) : Bool :=
  let n := c.toNat
  n == 0x09 || n == 0x0a || n == 0x0d || (0x20 ≤ n && n ≤ 0x7e) || n == 0x85 ||
    (0xa0 ≤ n && n ≤ 0xfffd) || 0x10000 ≤ n

/-- The mark that a text may begin with to show its byte order. -/
def byteOrderMark : Char := '\ufeff'

/-- A text with all its line ends written as line feeds. -/
def withLineFeeds : List Char → List Char
  | '\r' :: '\n' :: cs => '\n' :: withLineFeeds cs
  | '\r' :: cs => '\n' :: withLineFeeds cs
  | c :: cs => c :: withLineFeeds cs
  | [] => []

/-- Whether a character ends a line. -/
def isBreak (c : Char) : Bool := c == '\n' || c == '\x85' || c == '\u2028' || c == '\u2029'

/-- Whether a character is a space, a tab or the end of a line. -/
def isGap (c : Char) : Bool := c == ' ' || c == '\t' || isBreak c

/-- Whether a text is at the end of a word: at a gap or at its end. -/
def atGap : List Char → Bool
  | [] => true
  | c :: _ => isGap c

/-- Whether a text is at the end of a line: at a line break or at its end. -/
def atLineEnd : List Char → Bool
  | [] => true
  | c :: _ => isBreak c

/-- Whether a line begins with one of the two markers between documents. -/
def atMarker : List Char → Bool
  | '-' :: '-' :: '-' :: cs => atGap cs
  | '.' :: '.' :: '.' :: cs => atGap cs
  | _ => false

/-- Whether a character may be in the name of an anchor, a directive or a tag handle. -/
def isNameChar (c : Char) : Bool := c.isAlphanum || c == '-' || c == '_'

/-- Whether a character is a hexadecimal digit. -/
def isHexDigit (c : Char) : Bool :=
  c.isDigit || ('a' ≤ c && c ≤ 'f') || ('A' ≤ c && c ≤ 'F')

/-- The number that digits of a base stand for. -/
def ofBase (base : Nat) (digits : List Char) : Nat :=
  digits.foldl (fun n c =>
    base * n + if c.isDigit then c.toNat - '0'.toNat else c.toLower.toNat - 'a'.toNat + 10) 0

/-! ## lines -/

/-- The line break that a character which ends a line stands for. -/
def breakOf (c : Char) : Char := if c = '\x85' then '\n' else c

/-- The line breaks among the characters of a gap. -/
def breaksOf (gap : List Char) : List Char := (gap.filter isBreak).map breakOf

/-- What the line breaks between two words stand for: a line feed alone for a space, and with
others behind it for these. The separators of lines and paragraphs stay as they are. -/
def folded : List Char → List Char
  | [] => []
  | b :: more => if b = '\n' then (if more.isEmpty then [' '] else more) else b :: more

/-- The rest of a text behind a comment and the line break, which have to be all that is left
of the line besides spaces. -/
def endOfLine (cs : List Char) : Except Fault (List Char) :=
  let rest := cs.dropWhile (· = ' ')
  let rest := if rest.head? = some '#' then rest.dropWhile fun c => !isBreak c else rest
  if atLineEnd rest then .ok (rest.drop 1) else malformed

end ChatCommands.Document
