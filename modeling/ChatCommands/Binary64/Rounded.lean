import ChatCommands.Binary64.Shortest

/-!
# ChatCommands.Binary64.Rounded

Decimals with a set number of digits. A finite number is an exact quotient, so
its digits are those of one rounded quotient of natural numbers; a tie goes to
the even neighbour.

* `fixed` has a set number of digits behind the point;
* `exponential` has one digit in front of it, and an exponent;
* `general` has a set number of digits altogether, and is laid out in one of
  the two ways above, whichever is shorter.
-/

namespace ChatCommands.Binary64

/-! ## digits -/

/-- The decimal digits of a natural number. -/
def digitsOf (n : Nat) : List Char := Nat.toDigits 10 n

/-- The numerator of a finite number without its sign. -/
def numerator (x : Binary64) : Nat := x.mantissa * twoPow x.exponent.toNat

/-- The denominator of a finite number. -/
def denominator (x : Binary64) : Nat := twoPow (-x.exponent).toNat

/-- The number times `10 ^ places`, without its sign and rounded to a natural number. -/
def roundedAt (x : Binary64) (places : Int) : Nat :=
  roundQuotient (x.numerator * tenPow places.toNat) (x.denominator * tenPow (-places).toNat)

/-- The exponent of the highest power of ten that is at most a number that is not zero. A number
below one is at least `10 ^ -k` if `10 ^ k` is at least its inverse, rounded up. -/
def floorLog10 (x : Binary64) : Int :=
  if x.denominator ≤ x.numerator then
    (digitsOf (x.numerator / x.denominator)).length - 1
  else -((digitsOf ((x.denominator - 1) / x.numerator)).length : Int)

/-- A rounded number: its digits, and the exponent of the first one. -/
structure Digits where
  /-- The digits. -/
  digits : List Char
  /-- The exponent of the first digit. -/
  leading : Int
deriving DecidableEq, Repr

/-- A number with one digit and `more` further ones. Rounding up to the next power of ten moves
the exponent. -/
def significant (more : Nat) (x : Binary64) : Digits :=
  if x.isZero then ⟨List.replicate (more + 1) '0', 0⟩
  else
    let leading := x.floorLog10
    let n := x.roundedAt (more - leading)
    if n < tenPow (more + 1) then ⟨digitsOf n, leading⟩ else ⟨digitsOf (n / 10), leading + 1⟩

/-! ## layouts -/

/-- Digits behind a point; without digits there is none, unless it is asked for. -/
def pointed (keepPoint : Bool) (digits : List Char) : List Char :=
  if digits.isEmpty && !keepPoint then [] else '.' :: digits

/-- Digits without the zeros at their end. -/
def withoutEndZeros (digits : List Char) : List Char :=
  (digits.reverse.dropWhile (· = '0')).reverse

/-- A number with a set number of digits behind the point. -/
def fixed (keepPoint : Bool) (places : Nat) (x : Binary64) : List Char :=
  let all := padded (places + 1) (digitsOf (x.roundedAt places))
  let whole := all.length - places
  all.take whole ++ pointed keepPoint (all.drop whole)

/-- An exponent, with a sign and at least two digits. -/
def exponentText (e : Int) : List Char :=
  'e' :: (if e < 0 then '-' else '+') :: padded plain.exponentDigits (digitsOf e.natAbs)

/-- Digits with a point behind the first one, and an exponent. -/
def withExponent (keepPoint : Bool) (d : Digits) : List Char :=
  d.digits.take 1 ++ pointed keepPoint (d.digits.drop 1) ++ exponentText d.leading

/-- A number with a set number of digits behind the first one, and an exponent. -/
def exponential (keepPoint : Bool) (places : Nat) (x : Binary64) : List Char :=
  withExponent keepPoint (x.significant places)

/-- A number with a set number of digits, at least one. It has an exponent if its first digit is
further behind the point than the shortest text allows, or so far in front of it that not all
digits up to the point are known. Zeros at the end of a fraction are left out, unless the point is
asked for. -/
def general (keepPoint : Bool) (count : Nat) (x : Binary64) : List Char :=
  let d := x.significant (count - 1)
  let cut (fraction : List Char) := if keepPoint then fraction else withoutEndZeros fraction
  if plain.leastPositional ≤ d.leading ∧ d.leading < max count 1 then
    let all := List.replicate (-d.leading).toNat '0' ++ d.digits
    let whole := d.leading.toNat + 1
    all.take whole ++ pointed keepPoint (cut (all.drop whole))
  else withExponent keepPoint { d with digits := d.digits.take 1 ++ cut (d.digits.drop 1) }

/-! ## styles -/

/-- The three ways of laying out a number. -/
inductive Style where
  /-- With a set number of digits behind the point. -/
  | fixed
  /-- With a set number of digits behind the point, and an exponent. -/
  | exponential
  /-- With a set number of digits altogether. -/
  | general
deriving DecidableEq, Repr

/-- A number in a style, without its sign; one that is not finite is written as a word. -/
def inStyle (style : Style) (keepPoint : Bool) (count : Nat) (x : Binary64) : List Char :=
  if infinityBits < x.magnitude then plain.undefined.toList
  else if x.magnitude = infinityBits then plain.infinity.toList
  else
    match style with
    | .fixed => fixed keepPoint count x
    | .exponential => exponential keepPoint count x
    | .general => general keepPoint count x

end ChatCommands.Binary64
