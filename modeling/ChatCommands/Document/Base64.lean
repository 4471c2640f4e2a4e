/-!
# ChatCommands.Document.Base64

Bytes that are written as characters, six bits to each. Every four characters
are three bytes; if the last ones are fewer, they are filled up to four by
equals signs. Other characters do not count, nor does what stands behind the
fillers.
-/

namespace ChatCommands.Document

/-- The six bits that a character stands for. -/
def sextet? (c : Char) : Option Nat :=
  if 'A' ≤ c ∧ c ≤ 'Z' then some (c.toNat - 'A'.toNat)
  else if 'a' ≤ c ∧ c ≤ 'z' then some (c.toNat - 'a'.toNat + 26)
  else if c.isDigit then some (c.toNat - '0'.toNat + 52)
  else if c = '+' then some 62
  else if c = '/' then some 63
  else none

/-- The bytes of a text, behind some that are kept in reverse. Of the four characters under way,
`place` were read; `left` has their bits that no byte was made of yet, and behind them there are
`fillers`. -/
def bytesFrom (acc : List UInt8) (place left fillers : Nat) : List Char → Option (List UInt8)
  | [] => if place = 0 then some acc.reverse else none
  | c :: cs =>
    if c = '=' then
      if place < 2 then bytesFrom acc place left fillers cs
      else if 4 ≤ place + fillers + 1 then some acc.reverse
      else bytesFrom acc place left (fillers + 1) cs
    else
      match sextet? c with
      | none => bytesFrom acc place left fillers cs
      | some bits =>
        let rest := Nat.pow 4 (3 - place)
        let byte := UInt8.ofNat (left * Nat.pow 4 place + bits / rest)
        bytesFrom (if place = 0 then acc else byte :: acc) ((place + 1) % 4) (bits % rest) 0 cs

/-- The bytes that a text is written for, if it ends behind whole bytes. -/
def bytes? (cs : List Char) : Option (List UInt8) := bytesFrom [] 0 0 0 cs

example : bytes? "aGk=".toList = some [0x68, 0x69] := by decide

end ChatCommands.Document
