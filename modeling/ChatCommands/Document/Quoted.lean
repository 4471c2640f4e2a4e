import ChatCommands.Document
import ChatCommands.OrderedMap

/-!
# ChatCommands.Document.Quoted

Scalars in quotes. Between single quotes every character stands for itself,
and a quote is written twice; between double quotes a backslash begins an
escape. In both, the spaces around a line break do not count and the breaks
are folded, and no line may begin with a marker between documents.
-/

namespace ChatCommands.Document

/-! ## escapes -/

/-- The characters that stand for others behind a backslash. -/
def escapes : List (Char × Char) :=
  [('0', '\x00'), ('a', '\x07'), ('b', '\x08'), ('t', '\t'), ('\t', '\t'), ('n', '\n'),
   ('v', '\x0b'), ('f', '\x0c'), ('r', '\r'), ('e', '\x1b'), (' ', ' '), ('"', '"'), ('\\', '\\'),
   ('/', '/'), ('N', '\x85'), ('_', '\xa0'), ('L', '\u2028'), ('P', '\u2029')]

/-- How many hexadecimal digits a code has behind a backslash and a letter. -/
def escapeWidths : List (Char × Nat) := [('x', 2), ('u', 4), ('U', 8)]

/-- The code at the beginning of a text, if it has enough digits. -/
def code? (width : Nat) (cs : List Char) : Option Nat :=
  let digits := cs.take width
  if digits.length = width ∧ digits.all isHexDigit then some (ofBase 16 digits) else none

/-- The least code that is past the range of signed numbers of 32 bits. -/
def codeBound : Nat := 0x80000000

/-- The least code that is past those of all characters. -/
def characterBound : Nat := 0x110000

/-- What stands for the half of a character, of which texts have none. -/
def halfCharacter : Char := '\ufffd'

/-- The character that has a code. -/
def charOfCode (code : Nat) : Except Fault Char :=
  if code.isValidChar then .ok (Char.ofNat code)
  else if code < characterBound then .ok halfCharacter
  else if code < codeBound then .error .noSuchCharacter
  else .error .outOfRange

/-- Whether a gap ends in front of a marker at the beginning of a line. -/
def endsAtMarker (gap rest : List Char) : Bool :=
  (gap.getLast?.map isBreak).getD false && atMarker rest

/-- What an escape stands for, and how many characters it takes up behind the backslash. Behind
a line break that is escaped, further breaks stay. -/
def escape : List Char → Except Fault (List Char × Nat)
  | [] => malformed
  | c :: cs =>
    match Pairs.get? escapes c, Pairs.get? escapeWidths c with
    | some d, _ => .ok ([d], 1)
    | none, some width =>
      match code? width cs with
      | some code => (charOfCode code).map fun d => ([d], 1 + width)
      | none => malformed
    | none, none =>
      if isBreak c then
        let gap := c :: cs.takeWhile isGap
        if endsAtMarker gap (cs.dropWhile isGap) then malformed
        else .ok ((breaksOf gap).drop 1, gap.length)
      else malformed

/-! ## scalars -/

/-- What a gap between two words in quotes stands for: itself within a line, and the folded
breaks otherwise. -/
def foldedGap (gap : List Char) : List Char :=
  if gap.any isBreak then folded (breaksOf gap) else gap

/-- A scalar in quotes, from behind the first quote and the next `skip` characters. -/
def quotedFrom (quote : Char) (acc : List Char) : (skip : Nat) → List Char → Reading String
  | _, [] => malformed
  | skip + 1, _ :: cs => quotedFrom quote acc skip cs
  | 0, c :: cs =>
    if isGap c then
      let gap := c :: cs.takeWhile isGap
      if endsAtMarker gap (cs.dropWhile isGap) then malformed
      else quotedFrom quote ((foldedGap gap).reverse ++ acc) (gap.length - 1) cs
    else if c = quote then
      if quote = '\x27' ∧ cs.head? = some quote then quotedFrom quote (c :: acc) 1 cs
      else .ok (String.ofList acc.reverse, cs)
    else if c = '\\' ∧ quote = '"' then
      match escape cs with
      | .ok (ds, skip) => quotedFrom quote (ds.reverse ++ acc) skip cs
      | .error f => .error f
    else quotedFrom quote (c :: acc) 0 cs

/-- A scalar in quotes, from behind the first quote. -/
def quotedScalar (quote : Char) (cs : List Char) : Reading String := quotedFrom quote [] 0 cs

end ChatCommands.Document
