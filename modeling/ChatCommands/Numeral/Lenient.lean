import ChatCommands.Numeral

/-!
# ChatCommands.Numeral.Lenient

The integers that a text may stand for in a typed field. The form is more
generous than that of the environment in some ways and stricter in others:

1. blanks around it do not count, and neither does a plus sign;
2. leading zeros are dropped, with the underscores among them;
3. a fraction of zeros is dropped, if it has one zero at least;
4. single underscores within the rest are dropped;
5. a minus sign stands in front or behind the leading zeros, but not in both
   places;
6. what is left is a run of ASCII digits without a leading zero.
-/

namespace ChatCommands.Numeral

/-- Whether the digits of an integer that count begin with a character; a minus sign may stand
behind zeros. -/
def startsInteger (c : Char) : Bool := ('1' ≤ c && c ≤ '9') || c == '-'

/-- The text of an integer from behind one of its leading zeros, without the further ones, among
which underscores may stand. The last of them stays if nothing or a point comes next. -/
def behindZeros? (last : Char) : List Char → Option (List Char)
  | [] => some [last]
  | c :: cs =>
    if c = '.' then some (last :: c :: cs)
    else if c = '0' ∨ c = '_' then behindZeros? c cs
    else if startsInteger c then some (c :: cs)
    else none

/-- The text of an integer without its leading zeros. -/
def withoutLeadingZeros? : List Char → Option (List Char)
  | [] => none
  | c :: cs =>
    if c = '0' then behindZeros? c cs
    else if startsInteger c then some (c :: cs)
    else none

/-- A text without a point and the zeros after it, if it ends in these. -/
def withoutZeroFraction (cs : List Char) : List Char :=
  match cs.dropWhile (· ≠ '.') with
  | _ :: '0' :: zeros => if zeros.all (· = '0') then cs.takeWhile (· ≠ '.') else cs
  | _ => cs

/-- A text without its underscores, of which each has to stand alone and in front of
something. -/
def withoutGrouping? : List Char → Option (List Char)
  | [] => some []
  | c :: cs =>
    if c = '_' then
      match cs with
      | [] => none
      | d :: _ => if d = '_' then none else withoutGrouping? cs
    else (withoutGrouping? cs).map (c :: ·)

/-- A text without its plus sign, behind which there is no minus sign. -/
def withoutPlus? : List Char → Option (List Char)
  | '+' :: '-' :: _ => none
  | '+' :: cs => some cs
  | cs => some cs

/-- The digits of the integer that a text is and whether it is negative. There may be blanks
around it, a sign, leading zeros, a fraction of zeros and underscores between digits; the minus
sign may also stand behind the leading zeros. -/
def fieldInteger? (s : String) : Option (Bool × List Char) := do
  let (negative, body) := cutMinus (← withoutPlus? (withoutMargin s.toList))
  let body := withoutZeroFraction (← withoutLeadingZeros? body)
  if body.head? = some '_' then none
  else
    let (inner, digits) := cutMinus (← withoutGrouping? body)
    let plain := isDigitRun digits && (digits.head? != some '0' || digits.length == 1)
    if plain && !(negative && inner) then some (negative || inner, digits) else none

end ChatCommands.Numeral
