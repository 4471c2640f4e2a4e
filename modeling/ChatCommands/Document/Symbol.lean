import ChatCommands.Document.BlockScalar
import ChatCommands.Document.Plain
import ChatCommands.Document.Quoted
import ChatCommands.Document.Tag

/-!
# ChatCommands.Document.Symbol

The symbols that a document is made of. Some of them are written out, and
others are seen from the indentation:

1. a node that begins further right than the collection around it, and turns
   out to be an entry, begins a collection of its own;
2. a line that begins further left ends all collections that began right of
   it.

That a node is the key of a mapping is only seen at the colon behind it. Every
node that may be one is kept in mind until then, and the symbols that belong
in front of it are put there afterwards. A key has to be on one line, and not
longer than `keyBound`.
-/

namespace ChatCommands.Document

/-! ## symbols -/

/-- A symbol of a document. -/
inductive Symbol where
  /-- A directive. -/
  | directive (d : Directive)
  /-- The marker in front of a document. -/
  | documentStart
  /-- The marker behind a document. -/
  | documentEnd
  /-- The beginning of a sequence that is given by indentation. -/
  | blockSequence
  /-- The beginning of a mapping that is given by indentation. -/
  | blockMapping
  /-- The end of a collection that is given by indentation. -/
  | blockEnd
  /-- The beginning of a sequence in brackets. -/
  | flowSequence
  /-- The end of a sequence in brackets. -/
  | flowSequenceEnd
  /-- The beginning of a mapping in braces. -/
  | flowMapping
  /-- The end of a mapping in braces. -/
  | flowMappingEnd
  /-- The comma between two entries. -/
  | separator
  /-- The dash in front of an item. -/
  | entry
  /-- What stands in front of a key. -/
  | key
  /-- The colon in front of a value. -/
  | value
  /-- The mention of a node with a name. -/
  | mention (name : String)
  /-- The name of the node behind it. -/
  | anchor (name : String)
  /-- The tag of the node behind it. -/
  | tag (t : Tag)
  /-- A scalar. -/
  | scalar (text : String) (isPlain : Bool)
  /-- A fault of the text from here on. -/
  | fault (f : Fault)
deriving DecidableEq, Repr

/-! ## places -/

/-- A place in a text. -/
structure Place where
  /-- The number of characters in front of it. -/
  index : Nat := 0
  /-- The number of lines in front of it. -/
  line : Nat := 0
  /-- The number of characters in front of it in its line. -/
  column : Nat := 0
deriving DecidableEq, Repr

/-- The place behind a character. A byte order mark takes up no column. -/
def Place.past (p : Place) (c : Char) : Place :=
  if isBreak c then ⟨p.index + 1, p.line + 1, 0⟩
  else ⟨p.index + 1, p.line, if c = byteOrderMark then p.column else p.column + 1⟩

/-! ## scanning -/

/-- A node that may turn out to be a key. -/
structure PossibleKey where
  /-- The number of symbols in front of it. -/
  before : Nat
  /-- Whether it has to be a key, as it begins in the column of a mapping. -/
  isRequired : Bool
  /-- Where it begins. -/
  place : Place
deriving DecidableEq, Repr

/-- A scan under way. -/
structure Scan where
  /-- The rest of the text. -/
  rest : List Char
  /-- Where that begins. -/
  place : Place := {}
  /-- The symbols, the last one first. -/
  symbols : List Symbol := []
  /-- The columns of the open block collections, the innermost first. -/
  columns : List Nat := []
  /-- The possible key on the level of the innermost open flow collection. -/
  key : Option PossibleKey := none
  /-- The possible keys on the levels around that. -/
  outer : List (Option PossibleKey) := []
  /-- Whether a key may begin here. -/
  allowsKey : Bool := true

namespace Scan

/-- How many characters a key may take up, with its quotes and what is behind it before the
colon. -/
def keyBound : Nat := 1024

/-- Whether the scan is within a flow collection. -/
def inFlow (s : Scan) : Bool := !s.outer.isEmpty

/-- The least column that the further lines of a scalar begin in. -/
def leastColumn (s : Scan) : Nat := (s.columns.head?.map (· + 1)).getD 0

/-- The scan with a shorter rest of the text. -/
def moveTo (s : Scan) (rest : List Char) : Scan :=
  let passed := s.rest.take (s.rest.length - rest.length)
  { s with rest := rest, place := passed.foldl Place.past s.place }

/-- The scan with a further symbol. -/
def push (s : Scan) (symbol : Symbol) : Scan := { s with symbols := symbol :: s.symbols }

/-- The scan behind a symbol of one character. -/
def take (s : Scan) (symbol : Symbol) : Scan := (s.moveTo (s.rest.drop 1)).push symbol

/-! ### gaps and indentation -/

/-- The rest of a text behind spaces, comments and line breaks, and whether there were breaks. -/
def skipGap (inComment crossed : Bool) : List Char → Bool × List Char
  | [] => (crossed, [])
  | c :: cs =>
    if isBreak c then skipGap false true cs
    else if inComment then skipGap true crossed cs
    else if c = ' ' then skipGap false crossed cs
    else if c = '#' then skipGap true crossed cs
    else (crossed, c :: cs)

/-- The scan at the next symbol. On a new line, a key may begin. -/
def toSymbol (s : Scan) : Scan :=
  let (crossed, rest) := skipGap false false s.rest
  { s.moveTo rest with allowsKey := s.allowsKey || (crossed && !s.inFlow) }

/-- Ends the block collections whose column suits a test, from the innermost on; there are none
to end within a flow collection. -/
def closeBlocks (s : Scan) (isRightOf : Nat → Bool) : Scan :=
  if s.inFlow then s
  else
    let closed := s.columns.takeWhile isRightOf
    { s with
      columns := s.columns.dropWhile isRightOf
      symbols := closed.map (fun _ => Symbol.blockEnd) ++ s.symbols }

/-- Whether a block collection begins with an entry in a certain column. -/
def opensBlock (s : Scan) (column : Nat) : Bool :=
  !s.inFlow && s.columns.head?.all (· < column)

/-- Begins a block collection with the entry here, if one begins. -/
def openBlock (s : Scan) (symbol : Symbol) : Scan :=
  if s.opensBlock s.place.column then
    { s.push symbol with columns := s.place.column :: s.columns }
  else s

/-! ### possible keys -/

/-- Whether a possible key is too far away from a place to be one. -/
def isStale (p : Place) (k : PossibleKey) : Bool :=
  k.place.line != p.line || keyBound < p.index - k.place.index

/-- A possible key, if it still is one; if it is not, it must not be required. -/
def fresh (p : Place) : Option PossibleKey → Except Fault (Option PossibleKey)
  | none => .ok none
  | some k => if isStale p k then (if k.isRequired then malformed else .ok none) else .ok (some k)

/-- The scan without the possible keys that are too far away. -/
def dropStale (s : Scan) : Except Fault Scan := do
  let key ← fresh s.place s.key
  let outer ← s.outer.mapM (fresh s.place)
  .ok { s with key := key, outer := outer }

/-- The scan without the possible key on this level, which must not be required. -/
def dropKey (s : Scan) : Except Fault Scan :=
  if s.key.any PossibleKey.isRequired then malformed else .ok { s with key := none }

/-- The scan with the node that begins here as a possible key, if a key may begin here. -/
def noteKey (s : Scan) : Except Fault Scan :=
  if s.allowsKey then do
    let s ← s.dropKey
    let required := !s.inFlow && s.columns.head? == some s.place.column
    .ok { s with key := some ⟨s.symbols.length, required, s.place⟩ }
  else .ok s

/-- The scan with symbols put in front of a node that came earlier; they are given the last one
first. -/
def insert (s : Scan) (before : Nat) (symbols : List Symbol) : Scan :=
  let later := s.symbols.length - before
  { s with symbols := s.symbols.take later ++ symbols ++ s.symbols.drop later }

/-- The end of a scan at a fault of the text. The symbols from the first possible key on are not
known yet. -/
def stopAt (s : Scan) (f : Fault) : Scan :=
  let known := ((s.key :: s.outer).filterMap id).foldl (fun n k => min n k.before)
    s.symbols.length
  { rest := [], place := s.place, symbols := .fault f :: s.symbols.drop (s.symbols.length - known) }

/-! ### single symbols -/

/-- A marker between documents, or a directive. -/
def scanMarker (s : Scan) : Except Fault Scan := do
  let s ← (s.closeBlocks fun _ => true).dropKey
  let s := { s with allowsKey := false }
  match s.rest with
  | '%' :: cs =>
    let (d, rest) ← readDirective cs
    .ok ((s.moveTo rest).push (.directive d))
  | c :: _ =>
    .ok ((s.moveTo (s.rest.drop 3)).push (if c = '-' then .documentStart else .documentEnd))
  | [] => .ok s

/-- The beginning of a flow collection, which may be a key. -/
def scanFlowStart (s : Scan) (symbol : Symbol) : Except Fault Scan := do
  let s ← s.noteKey
  .ok { s.take symbol with key := none, outer := s.key :: s.outer, allowsKey := true }

/-- The end of a flow collection. -/
def scanFlowEnd (s : Scan) (symbol : Symbol) : Except Fault Scan :=
  match s.outer with
  | [] => malformed
  | key :: outer => .ok { s.take symbol with key := key, outer := outer, allowsKey := false }

/-- The comma between two entries. -/
def scanSeparator (s : Scan) : Except Fault Scan := do
  let s ← s.dropKey
  .ok { s.take .separator with allowsKey := true }

/-- The dash in front of an item, which may begin a sequence. -/
def scanEntry (s : Scan) : Except Fault Scan :=
  if s.inFlow || s.allowsKey then do
    let s ← (s.openBlock .blockSequence).dropKey
    .ok { s.take .entry with allowsKey := true }
  else malformed

/-- The question mark in front of a key, which may begin a mapping. -/
def scanKey (s : Scan) : Except Fault Scan :=
  if s.inFlow || s.allowsKey then do
    let s ← (s.openBlock .blockMapping).dropKey
    .ok { s.take .key with allowsKey := !s.inFlow }
  else malformed

/-- The colon in front of a value. If there is a possible key, it is one, and it may begin a
mapping. -/
def scanValue (s : Scan) : Except Fault Scan :=
  match s.key with
  | some k =>
    let s := if s.opensBlock k.place.column then
        { s.insert k.before [.key, .blockMapping] with columns := k.place.column :: s.columns }
      else s.insert k.before [.key]
    .ok { s.take .value with key := none, allowsKey := false }
  | none =>
    if s.inFlow || s.allowsKey then
      .ok { (s.openBlock .blockMapping).take .value with allowsKey := !s.inFlow }
    else malformed

/-- The characters that may stand behind the name of an anchor, besides a gap. -/
def nameEnds : List Char := "?:,]\x7d%@\x60".toList

/-- A name of a node, or a mention of one. -/
def scanName (s : Scan) (symbol : String → Symbol) : Except Fault Scan := do
  let s ← s.noteKey
  let name := (s.rest.drop 1).takeWhile isNameChar
  let rest := (s.rest.drop 1).dropWhile isNameChar
  if name.isEmpty || !(atGap rest || (rest.head?.map nameEnds.contains).getD false) then malformed
  else .ok { (s.moveTo rest).push (symbol (String.ofList name)) with allowsKey := false }

/-- A tag. -/
def scanTag (s : Scan) : Except Fault Scan := do
  let s ← s.noteKey
  let (tag, rest) ← readTag (s.rest.drop 1)
  .ok { (s.moveTo rest).push (.tag tag) with allowsKey := false }

/-- A scalar that is given line by line. Behind it, a key may begin. -/
def scanBlockScalar (s : Scan) (folds : Bool) : Except Fault Scan := do
  let s ← s.dropKey
  let (text, rest) ← blockScalar folds s.leastColumn (s.rest.drop 1)
  .ok { (s.moveTo rest).push (.scalar text false) with allowsKey := true }

/-- A scalar in quotes. -/
def scanQuoted (s : Scan) (quote : Char) : Except Fault Scan := do
  let s ← s.noteKey
  match quotedScalar quote (s.rest.drop 1) with
  | .ok (text, rest) =>
    .ok { (s.moveTo rest).push (.scalar text false) with allowsKey := false }
  | .error f => .ok (s.stopAt f)

/-- A plain scalar. Behind it, a key may begin if it ends with a line. -/
def scanPlain (s : Scan) : Except Fault Scan := do
  let s ← s.noteKey
  let scalar := plainScalar s.inFlow s.leastColumn s.rest
  .ok { (s.moveTo scalar.rest).push (.scalar scalar.text true) with
    allowsKey := scalar.breaksLine }

/-- The symbol that a text begins with. -/
def scanSymbol (s : Scan) (c : Char) (cs : List Char) : Except Fault Scan :=
  if s.place.column = 0 ∧ (c = '%' ∨ atMarker (c :: cs)) then s.scanMarker
  else if c = '[' then s.scanFlowStart .flowSequence
  else if c = '\x7b' then s.scanFlowStart .flowMapping
  else if c = ']' then s.scanFlowEnd .flowSequenceEnd
  else if c = '\x7d' then s.scanFlowEnd .flowMappingEnd
  else if c = ',' then s.scanSeparator
  else if c = '-' ∧ atGap cs then s.scanEntry
  else if c = '?' ∧ (s.inFlow ∨ atGap cs) then s.scanKey
  else if c = ':' ∧ (s.inFlow ∨ atGap cs) then s.scanValue
  else if c = '*' then s.scanName .mention
  else if c = '&' then s.scanName .anchor
  else if c = '!' then s.scanTag
  else if (c = '|' ∨ c = '>') ∧ !s.inFlow then s.scanBlockScalar (c == '>')
  else if c = '"' ∨ c = '\x27' then s.scanQuoted c
  else if startsPlain s.inFlow (c :: cs) then s.scanPlain
  else malformed

/-! ### whole texts -/

/-- The symbols from here on, behind those that were scanned. Every step takes up a
character. -/
def run : (fuel : Nat) → Scan → Except Fault (List Symbol)
  | 0, _ => malformed
  | fuel + 1, s => do
    let s ← s.toSymbol.dropStale
    let s := s.closeBlocks (s.place.column < ·)
    match s.rest with
    | [] =>
      let s ← (s.closeBlocks fun _ => true).dropKey
      .ok s.symbols.reverse
    | c :: cs =>
      let s ← s.scanSymbol c cs
      s.run fuel

end Scan

/-- The symbols of a text. A byte order mark at its beginning does not count. -/
def symbolsOf (cs : List Char) : Except Fault (List Symbol) :=
  let cs := if cs.head? = some byteOrderMark then cs.drop 1 else cs
  Scan.run (cs.length + 1) { rest := cs }

end ChatCommands.Document
