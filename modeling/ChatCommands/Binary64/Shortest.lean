import ChatCommands.Binary64

/-!
# ChatCommands.Binary64.Shortest

The shortest decimal text of a floating-point number: the fewest digits that
read back as the same number, and among those the decimal nearest to it.

The decimals that read back as a number fill an interval around it that
reaches half way to its two neighbours, and includes its ends exactly when
the mantissa is even. `decimal` looks for the coarsest grid of multiples of a
power of ten that has a point in that interval; the nearest point of the grid
is then one of the two next to the number itself.

`Notation` says how the digits are laid out; `plain` is the layout that
replies, log lines and settings use.
-/

namespace ChatCommands.Binary64

/-! ## the interval that reads back -/

/-- A positive finite number with its interval, all four multiplied by a common power of two:
`low / scale` and `high / scale` are the ends and `value / scale` the number. -/
structure Interval where
  /-- The number. -/
  value : Nat
  /-- The lower end. -/
  low : Nat
  /-- The upper end. -/
  high : Nat
  /-- The common denominator. -/
  scale : Nat
  /-- Whether the ends belong to the interval. -/
  closed : Bool

/-- The interval of a positive finite number. The gap below the least mantissa of an exponent
is half as wide as the gap above it, except at the bottom of the range. -/
def interval (x : Binary64) : Interval :=
  let m := x.mantissa
  let up := twoPow x.exponent.toNat
  let narrow := m == twoPow 52 && -1074 < x.exponent
  { value := 4 * m * up
    low := (4 * m - if narrow then 1 else 2) * up
    high := (4 * m + 2) * up
    scale := 4 * twoPow (-x.exponent).toNat
    closed := m % 2 == 0 }

/-- Whether `num / den` is in the interval. -/
def Interval.holds (i : Interval) (num den : Nat) : Bool :=
  let p := num * i.scale
  if i.closed then i.low * den ≤ p && p ≤ i.high * den
  else i.low * den < p && p < i.high * den

/-! ## the coarsest grid -/

/-- A decimal `coefficient · 10 ^ exponent`. -/
structure Decimal where
  /-- The digits, as a number. -/
  coefficient : Nat
  /-- The power of ten. -/
  exponent : Int
deriving DecidableEq, Repr, Inhabited

/-- The point of the grid `10 ^ exponent` that is in the interval and nearest to its number;
of two equally near, the even one. -/
def Interval.nearestOn? (i : Interval) (exponent : Int) : Option Decimal :=
  let unit := tenPow exponent.toNat
  let parts := tenPow (-exponent).toNat
  let below := i.value * parts / (i.scale * unit)
  let rest := i.value * parts % (i.scale * unit)
  let inside := fun (n : Nat) => i.holds (n * unit) parts
  let nearer :=
    if 2 * rest < i.scale * unit || (2 * rest == i.scale * unit && below % 2 == 0) then below
    else below + 1
  let other := if nearer == below then below + 1 else below
  if inside nearer then some ⟨nearer, exponent⟩
  else if inside other then some ⟨other, exponent⟩
  else none

/-- The powers of ten of all grids that may be needed, coarsest first. -/
def gridExponents : List Int := (List.range 634).map fun (n : Nat) => 309 - (n : Int)

/-- The shortest decimal that reads back as a positive finite number. -/
def decimal (x : Binary64) : Decimal :=
  (gridExponents.findSome? x.interval.nearestOn?).getD ⟨0, 0⟩

/-! ## layout -/

/-- How the digits of a number are laid out. -/
structure Layout where
  /-- The least decimal exponent of the first digit that is still written positionally. -/
  leastPositional : Int
  /-- The first decimal exponent of the first digit that is no longer written positionally. -/
  endPositional : Int
  /-- The least number of digits of an exponent. -/
  exponentDigits : Nat
  /-- The text of infinity. -/
  infinity : String
  /-- The text of an undefined number. -/
  undefined : String

/-- Positional from `10 ^ -4` up to `10 ^ 16`, always with a fraction; otherwise scientific
with a signed exponent of at least two digits. -/
def plain : Layout :=
  { leastPositional := -4, endPositional := 16, exponentDigits := 2
    infinity := "inf", undefined := "nan" }

/-- A text of digits with zeros in front up to a width. -/
def padded (width : Nat) (digits : List Char) : List Char :=
  List.replicate (width - digits.length) '0' ++ digits

/-- A decimal with a point at its place and at least one digit on either side. -/
def positional (digits : List Char) (exponent : Int) : List Char :=
  if 0 ≤ exponent then digits ++ List.replicate exponent.toNat '0' ++ ['.', '0']
  else
    let places := (-exponent).toNat
    let all := padded (places + 1) digits
    all.take (all.length - places) ++ '.' :: all.drop (all.length - places)

/-- A decimal with one digit in front of the point and an exponent. -/
def scientific (layout : Layout) (digits : List Char) (leading : Int) : List Char :=
  let fraction := digits.drop 1
  let sign := if leading < 0 then '-' else '+'
  digits.take 1 ++ (if fraction.isEmpty then [] else '.' :: fraction) ++
    'e' :: sign :: padded layout.exponentDigits (toString leading.natAbs).toList

/-- The text of a number in a layout. -/
def textIn (layout : Layout) (x : Binary64) : String :=
  if infinityBits < x.magnitude then layout.undefined
  else
    let body :=
      if x.magnitude = infinityBits then layout.infinity.toList
      else if x.isZero then ['0', '.', '0']
      else
        let d := x.decimal
        let digits := (toString d.coefficient).toList
        let leading := d.exponent + digits.length - 1
        if layout.leastPositional ≤ leading && leading < layout.endPositional then
          positional digits d.exponent
        else scientific layout digits leading
    String.ofList (if x.isNegative then '-' :: body else body)

/-- The shortest text of a number, in the layout of replies and log lines. -/
def text (x : Binary64) : String := x.textIn plain

end ChatCommands.Binary64
