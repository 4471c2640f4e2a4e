/-!
# ChatCommands.Binary64

Floating-point numbers of 64 bits, held by their bit pattern: a sign bit, an
exponent of eleven bits and a fraction of 52. A finite number is
`± mantissa · 2 ^ exponent` with a mantissa below `2 ^ 53` and an exponent of
at least `-1074`.

`ofRatio` rounds a quotient of natural numbers to the nearest such number, and
to the one with an even mantissa when two are equally near. All of it is
exact arithmetic on natural numbers.
-/

namespace ChatCommands

/-- A floating-point number of 64 bits. -/
structure Binary64 where
  /-- The sign, the exponent and the fraction, from the top bit down. -/
  bits : UInt64
deriving DecidableEq, Repr, Inhabited

namespace Binary64

/-! ## powers -/

/-- A power of two. -/
def twoPow (n : Nat) : Nat := Nat.pow 2 n

/-- A power of ten. -/
def tenPow (n : Nat) : Nat := Nat.pow 10 n

/-! ## rounding -/

/-- The natural number nearest to a quotient, the even one of two equally near. -/
def roundQuotient (num den : Nat) : Nat :=
  let q := num / den
  let r := num % den
  if den < 2 * r || (2 * r == den && q % 2 == 1) then q + 1 else q

/-- The exponent of the highest power of two that is at most a positive quotient. -/
def floorLog2 (num den : Nat) : Int :=
  let k : Int := (Nat.log2 num : Int) - Nat.log2 den
  if den * twoPow k.toNat ≤ num * twoPow (-k).toNat then k else k - 1

/-- The bit pattern of positive infinity. -/
def infinityBits : Nat := 0x7ff * twoPow 52

/-- The bit pattern that a sign and a pattern without a sign make up. -/
def withSign (negative : Bool) (magnitude : Nat) : Binary64 :=
  ⟨UInt64.ofNat (if negative then twoPow 63 + magnitude else magnitude)⟩

/-- The number nearest to a quotient. The mantissa has 53 bits unless the exponent is the
least one; a mantissa that rounds up to `2 ^ 53` carries into the exponent, and a number past
the greatest finite one is infinite. -/
def ofRatio (negative : Bool) (num den : Nat) : Binary64 :=
  if num = 0 then withSign negative 0
  else
    let exponent := max (floorLog2 num den - 52) (-1074)
    let mantissa := roundQuotient (num * twoPow (-exponent).toNat) (den * twoPow exponent.toNat)
    withSign negative (min ((exponent + 1074).toNat * twoPow 52 + mantissa) infinityBits)

/-- The number nearest to an integer; zero has no minus sign. -/
def ofInt (i : Int) : Binary64 := ofRatio (i < 0) i.natAbs 1

/-- The number nearest to `± mantissa · 2 ^ exponent`. -/
def ofScaled (negative : Bool) (mantissa : Nat) (exponent : Int) : Binary64 :=
  ofRatio negative (mantissa * twoPow exponent.toNat) (twoPow (-exponent).toNat)

/-- The least power of ten that is past the greatest finite number. -/
def infinitePower : Int := 309

/-- How many binary places behind the point a number is zero from. -/
def zeroPlaces : Nat := 1080

/-- The number nearest to `± coefficient · 10 ^ exponent`. The power is worked out only if it
matters: a coefficient of zero is zero, from `10 ^ 309` on a number is infinite, and as
`10 ^ 1` is more than `2 ^ 3`, a number whose coefficient has too few bits for its exponent is
zero. -/
def ofDecimal (negative : Bool) (coefficient : Nat) (exponent : Int) : Binary64 :=
  if coefficient = 0 then withSign negative 0
  else if infinitePower ≤ exponent then withSign negative infinityBits
  else if Nat.log2 coefficient + zeroPlaces < 3 * (-exponent).toNat then withSign negative 0
  else ofRatio negative (coefficient * tenPow exponent.toNat) (tenPow (-exponent).toNat)

/-! ## parts -/

/-- Whether the sign bit is set. -/
def isNegative (x : Binary64) : Bool := twoPow 63 ≤ x.bits.toNat

/-- The bits without the sign. -/
def magnitude (x : Binary64) : Nat := x.bits.toNat % twoPow 63

/-- Whether the number is one of the two zeros. -/
def isZero (x : Binary64) : Bool := x.magnitude == 0

/-- Whether the number is neither infinite nor undefined. -/
def isFinite (x : Binary64) : Bool := x.magnitude < infinityBits

/-- The mantissa of a finite number. -/
def mantissa (x : Binary64) : Nat :=
  if x.magnitude < twoPow 52 then x.magnitude else twoPow 52 + x.magnitude % twoPow 52

/-- The exponent that goes with the mantissa. -/
def exponent (x : Binary64) : Int :=
  if x.magnitude < twoPow 52 then -1074 else (x.magnitude / twoPow 52 : Nat) - 1075

/-- Equality of the numbers, not of the patterns: the two zeros are equal, and an undefined
number equals nothing. -/
def sameNumber (x y : Binary64) : Bool :=
  (x.isZero && y.isZero) || (x.magnitude ≤ infinityBits && x == y)

/-- A finite number without its fraction. -/
def truncated (x : Binary64) : Int :=
  let whole := x.mantissa * twoPow x.exponent.toNat / twoPow (-x.exponent).toNat
  if x.isNegative then -(whole : Int) else whole

/-- The integer that a number is, if it is one. -/
def toInt? (x : Binary64) : Option Int :=
  if !x.isFinite then none
  else
    let num := x.mantissa * twoPow x.exponent.toNat
    let den := twoPow (-x.exponent).toNat
    if num % den = 0 then
      some (if x.isNegative then -((num / den : Nat) : Int) else (num / den : Nat))
    else none

/-! ## arithmetic -/

/-- The number that is none. -/
def undefined : Binary64 := withSign false (infinityBits + twoPow 51)

/-- The mantissa of a finite number with the sign in front. -/
def signedMantissa (x : Binary64) : Int := if x.isNegative then -(x.mantissa : Int) else x.mantissa

/-- The number nearest to a sum. The sum of two numbers that are not both finite is the one that
is not, unless they differ in it. -/
def add (x y : Binary64) : Binary64 :=
  if x.isFinite && y.isFinite then
    let low := min x.exponent y.exponent
    let sum := x.signedMantissa * twoPow (x.exponent - low).toNat +
      y.signedMantissa * twoPow (y.exponent - low).toNat
    let negative := if sum = 0 then x.isNegative && y.isNegative else sum < 0
    ofScaled negative sum.natAbs low
  else if x.isFinite then y
  else if y.isFinite || x == y then x
  else undefined

/-- The number nearest to a product. -/
def mul (x y : Binary64) : Binary64 :=
  let negative := x.isNegative != y.isNegative
  if x.isFinite && y.isFinite then
    ofScaled negative (x.mantissa * y.mantissa) (x.exponent + y.exponent)
  else if x.isZero || y.isZero || infinityBits < max x.magnitude y.magnitude then undefined
  else withSign negative infinityBits

end Binary64

end ChatCommands
