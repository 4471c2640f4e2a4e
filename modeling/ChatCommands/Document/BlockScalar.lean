import ChatCommands.Document

/-!
# ChatCommands.Document.BlockScalar

Scalars that are given line by line. Behind the character that begins such a
scalar, its header says what becomes of the line breaks at its end and how far
its lines are indented; without the latter the first lines decide. The lines
keep their breaks, or are folded: then a single break between two lines that
do not begin with a space stands for a space.
-/

namespace ChatCommands.Document

/-! ## headers -/

/-- What becomes of the line breaks at the end of a scalar. -/
inductive Chomping where
  /-- The first one stays. -/
  | clip
  /-- None stays. -/
  | strip
  /-- All stay. -/
  | keep
deriving DecidableEq, Repr

/-- The header of a scalar that is given line by line. -/
structure BlockHeader where
  /-- What becomes of the line breaks at the end. -/
  chomping : Chomping := .clip
  /-- How much further than the collection around it the scalar is indented, if it is said. -/
  indentation : Option Nat := none
deriving DecidableEq, Repr

/-- The chomping at the beginning of a text. -/
def chomping? : List Char → Option Chomping
  | '+' :: _ => some .keep
  | '-' :: _ => some .strip
  | _ => none

/-- The indentation at the beginning of a text, which is not zero. -/
def indentation? : List Char → Except Fault (Option Nat)
  | [] => .ok none
  | c :: _ =>
    if c = '0' then malformed
    else if c.isDigit then .ok (some (c.toNat - '0'.toNat))
    else .ok none

/-- The header at the beginning of a text, and the rest of the text from the next line on. The
chomping and the indentation come in any order. -/
def blockHeader (cs : List Char) : Except Fault (BlockHeader × List Char) := do
  let first := chomping? cs
  let cs := if first.isSome then cs.drop 1 else cs
  let indentation ← indentation? cs
  let cs := if indentation.isSome then cs.drop 1 else cs
  let last := if first.isNone && indentation.isSome then chomping? cs else none
  let cs := if last.isSome then cs.drop 1 else cs
  if cs.head? = some ' ' ∨ atLineEnd cs then
    let rest ← endOfLine cs
    .ok (⟨(first.or last).getD .clip, indentation⟩, rest)
  else malformed

/-! ## lines -/

/-- The empty lines at the beginning of a text. -/
structure EmptyLines where
  /-- Their line breaks. -/
  breaks : List Char
  /-- The most columns that one of them is indented by, or the line behind them. -/
  deepest : Nat
  /-- The column of the rest of the text. -/
  column : Nat
  /-- The rest of the text. -/
  rest : List Char

/-- The empty lines at the beginning of a text. Spaces are left out up to a column; without it,
all of them are. -/
def emptyLines (upTo : Option Nat) (acc : List Char) (deepest column : Nat) :
    List Char → EmptyLines
  | [] => ⟨acc.reverse, deepest, column, []⟩
  | c :: cs =>
    if c = ' ' ∧ upTo.all (column < ·) then
      emptyLines upTo acc (max deepest (column + 1)) (column + 1) cs
    else if isBreak c then emptyLines upTo (breakOf c :: acc) deepest 0 cs
    else ⟨acc.reverse, deepest, column, c :: cs⟩

/-- Whether a line begins with a space or a tab. -/
def startsBlank (line : List Char) : Bool :=
  line.head? == some ' ' || line.head? == some '\t'

/-- The lines of a scalar. -/
structure BlockLines where
  /-- Their text, up to the last line break but without it. -/
  text : List Char
  /-- The line break of the last line; nothing if the text ends without one. -/
  lastBreak : List Char
  /-- The line breaks of the empty lines behind. -/
  breaks : List Char
  /-- The rest of the text. -/
  rest : List Char

/-- Lines with a text in front of them. -/
def BlockLines.behind (lines : BlockLines) (text : List Char) : BlockLines :=
  { lines with text := text ++ lines.text }

/-- The lines of a scalar, from the beginning of one that is not empty, behind its
indentation. -/
def blockLines (folds : Bool) (indent : Nat) : (fuel : Nat) → List Char → BlockLines
  | 0, cs => ⟨[], [], [], cs⟩
  | fuel + 1, cs =>
    let line := cs.takeWhile fun c => !isBreak c
    let behind := cs.dropWhile fun c => !isBreak c
    let lineBreak := breaksOf (behind.take 1)
    let next := emptyLines (some indent) [] 0 0 (behind.drop 1)
    if next.column == indent && !next.rest.isEmpty then
      let joins := folds && lineBreak == ['\n'] && !startsBlank line && !startsBlank next.rest
      let joint := if joins then (if next.breaks.isEmpty then [' '] else []) else lineBreak
      (blockLines folds indent fuel next.rest).behind (line ++ joint ++ next.breaks)
    else ⟨line, lineBreak, next.breaks, next.rest⟩

/-- The lines behind a header; `least` is the least column that they begin in. -/
def linesBehind (folds : Bool) (least : Nat) (header : BlockHeader) (cs : List Char) :
    BlockLines :=
  let first := match header.indentation with
    | some n => emptyLines (some (least + n - 1)) [] 0 0 cs
    | none => emptyLines none [] 0 0 cs
  let indent := match header.indentation with
    | some n => least + n - 1
    | none => max least first.deepest
  if first.column == indent && !first.rest.isEmpty then
    (blockLines folds indent (cs.length + 1) first.rest).behind first.breaks
  else ⟨[], [], first.breaks, first.rest⟩

/-- The text of a scalar whose lines were read. -/
def BlockLines.scalar (lines : BlockLines) : Chomping → String
  | .strip => String.ofList lines.text
  | .clip => String.ofList (lines.text ++ lines.lastBreak)
  | .keep => String.ofList (lines.text ++ lines.lastBreak ++ lines.breaks)

/-- A scalar that is given line by line, from behind the character that begins it. -/
def blockScalar (folds : Bool) (least : Nat) (cs : List Char) :
    Except Fault (String × List Char) := do
  let (header, rest) ← blockHeader cs
  let lines := linesBehind folds (max least 1) header rest
  .ok (lines.scalar header.chomping, lines.rest)

end ChatCommands.Document
