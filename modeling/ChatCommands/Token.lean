import ChatCommands.Text.Blank

/-!
# ChatCommands.Token

Command text is cut into words and quoted spans. Between them only white space
is skipped, and at the first character that is not white space:

1. a `"` with another `"` somewhere after it opens a span, which ends at the
   next `"`; the token is what stands between the two, blanks included;
2. anything else starts a word, which ends before the next blank.

So a word may hold quote marks, and a quote mark that is never closed is part
of a word. The first token of a command text is its head (the marker and the
command's name) and is not an argument.
-/

namespace ChatCommands

open ChatCommands.Text

/-- A piece of command text that makes a token. -/
inductive Piece where
  /-- A span between quote marks, given without them. -/
  | quoted (content : List Char)
  /-- A word. -/
  | bare (word : List Char)
deriving DecidableEq, Repr

namespace Piece

/-- The token that a piece makes. -/
def content : Piece → List Char
  | quoted cs => cs
  | bare cs => cs

/-- The text that a piece takes up. -/
def source : Piece → List Char
  | quoted cs => '"' :: cs ++ ['"']
  | bare cs => cs

/-- The pieces of a text from behind its first `skip` characters. -/
def scan : (skip : Nat) → List Char → List Piece
  | _, [] => []
  | skip + 1, _ :: cs => scan skip cs
  | 0, c :: cs =>
    if isBlank c then scan 0 cs
    else if c = '"' ∧ '"' ∈ cs then
      let inner := cs.takeWhile (· ≠ '"')
      quoted inner :: scan (inner.length + 1) cs
    else bare (c :: word cs) :: scan (word cs).length cs

theorem scan_eq_scan_drop (skip : Nat) (cs : List Char) : scan skip cs = scan 0 (cs.drop skip) := by
  induction cs generalizing skip with
  | nil => simp [scan]
  | cons c cs ih =>
    cases skip with
    | zero => rfl
    | succ skip => simpa [scan] using ih skip

end Piece

namespace Token

/-- All tokens of a text, its head included. -/
def all (text : String) : List String :=
  (Piece.scan 0 text.toList).map fun p => String.ofList p.content

/-- The arguments of a command text: its tokens behind the head. -/
def arguments (text : String) : List String := (all text).drop 1

end Token

end ChatCommands
