import ChatCommands.Document

/-!
# ChatCommands.Document.Plain

Scalars without quotes. Such a scalar is a row of words. Within a flow
collection it ends at the marks of the collection; elsewhere it may go on in
the next lines as long as these are indented enough. It ends before a comment
and before a colon that has a gap behind it. The spaces between its words stay
as they are, and line breaks are folded.
-/

namespace ChatCommands.Document

/-! ## words -/

/-- Whether a character separates or encloses the entries of a flow collection. -/
def isFlowMark (c : Char) : Bool :=
  c == ',' || c == '[' || c == ']' || c == '\x7b' || c == '\x7d'

/-- Whether a text begins a plain scalar: not with a character that means something else, unless
that is `-`, or outside of flow collections `?` or `:`, with more right behind it. -/
def startsPlain (inFlow : Bool) : List Char → Bool
  | [] => false
  | c :: cs =>
    if c = '-' then !atGap cs
    else if c = '?' ∨ c = ':' then !inFlow && !atGap cs
    else !(isGap c || isFlowMark c || "#&*!|>'\"%@\x60".toList.contains c)

/-- Whether a word of a plain scalar ends before a character. -/
def endsWord (inFlow : Bool) (c : Char) (cs : List Char) : Bool :=
  isGap c ||
    (c == ':' && (atGap cs || (inFlow && (cs.head?.map isFlowMark).getD false))) ||
    (inFlow && (c == '?' || isFlowMark c))

/-- The word that a text begins with, and the rest of the text. -/
def plainWord (inFlow : Bool) (acc : List Char) : List Char → List Char × List Char
  | [] => (acc.reverse, [])
  | c :: cs =>
    if endsWord inFlow c cs then (acc.reverse, c :: cs) else plainWord inFlow (c :: acc) cs

/-! ## gaps between words -/

/-- The space behind a word. -/
structure WordGap where
  /-- What it stands for between two words; nothing if it has to end the scalar. -/
  text : List Char
  /-- Whether there is a line break in it. -/
  breaksLine : Bool
  /-- How far the rest of the text is indented, if there is a line break. -/
  column : Nat
  /-- The rest of the text. -/
  rest : List Char

/-- The line breaks at the beginning of a text, with the spaces among them left out, the column
behind these, and the rest of the text. -/
def blankLines (acc : List Char) (column : Nat) : List Char → List Char × Nat × List Char
  | [] => (acc.reverse, column, [])
  | c :: cs =>
    if c = ' ' then blankLines acc (column + 1) cs
    else if isBreak c then blankLines (breakOf c :: acc) 0 cs
    else (acc.reverse, column, c :: cs)

/-- The gap at the beginning of a text. Tabs are no part of it. -/
def WordGap.of (cs : List Char) : WordGap :=
  let spaces := cs.takeWhile (· = ' ')
  let rest := cs.dropWhile (· = ' ')
  if !rest.isEmpty && atLineEnd rest then
    let (breaks, column, rest) := blankLines [] 0 rest
    ⟨if column == 0 && atMarker rest then [] else folded breaks, true, column, rest⟩
  else ⟨spaces, false, 0, rest⟩

/-- Whether the scalar goes on behind a gap: with a word that is no comment and, outside of flow
collections, is indented enough. -/
def WordGap.goesOn (g : WordGap) (inFlow : Bool) (least : Nat) : Bool :=
  match g.rest with
  | [] => false
  | c :: cs =>
    !g.text.isEmpty && c != '#' && (inFlow || !g.breaksLine || least ≤ g.column) &&
      !endsWord inFlow c cs

/-! ## scalars -/

/-- A plain scalar that was read. -/
structure PlainScalar where
  /-- Its text. -/
  text : String
  /-- Whether there is a line break behind it, before the rest of the text. -/
  breaksLine : Bool
  /-- The rest of the text. -/
  rest : List Char

/-- A plain scalar, from the beginning of one of its words. -/
def plainFrom (inFlow : Bool) (least : Nat) : (fuel : Nat) → List Char → List Char → PlainScalar
  | 0, acc, cs => ⟨String.ofList acc.reverse, false, cs⟩
  | fuel + 1, acc, cs =>
    let (word, rest) := plainWord inFlow [] cs
    let acc := word.reverse ++ acc
    let gap := WordGap.of rest
    if gap.goesOn inFlow least then plainFrom inFlow least fuel (gap.text.reverse ++ acc) gap.rest
    else ⟨String.ofList acc.reverse, gap.breaksLine, gap.rest⟩

/-- The plain scalar that a text begins with, whose further lines are indented by at least a
certain number of columns. Every word has a character, so there are no more words than
characters. -/
def plainScalar (inFlow : Bool) (least : Nat) (cs : List Char) : PlainScalar :=
  plainFrom inFlow least (cs.length + 1) [] cs

end ChatCommands.Document
