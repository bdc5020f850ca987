import EntitySql.Number.Binary

/-!
# The shortest decimal text of a binary number

Every decimal in an interval around a binary number reads back as that number. `shortest` finds
the fewest digits that reach into the interval and, among those, the digits nearest to the number.
It tests the two neighbours of the number on the grid of one digit, of two digits, and so on, in
exact arithmetic.

**Layout.** Where the point stands, and from which size on an exponent is written, is data: a
`FloatLayout`.
-/

namespace EntitySql

set_option autoImplicit false

/-- The rationals that round to one number, as multiples of `1 / den`. -/
structure RoundingInterval where
  low : Nat
  value : Nat
  high : Nat
  den : Nat
  /-- Both ends belong to the interval. -/
  closed : Bool
deriving DecidableEq, Repr

namespace RoundingInterval

/-- The interval of `significand * 2 ^ exponent`. Its lower half is half as wide at a power of
two, where the numbers below are denser. -/
def ofNumber (k : FloatKind) (significand : Nat) (exponent : Int) : RoundingInterval :=
  let unit := twoTo exponent.toNat
  let denser := significand = twoTo (k.precision - 1) ∧ k.minExponent < exponent
  { low := 4 * significand * unit - (if denser then unit else 2 * unit)
    value := 4 * significand * unit
    high := 4 * significand * unit + 2 * unit
    den := 4 * twoTo (-exponent).toNat
    closed := significand % 2 = 0 }

/-- The rational `num / den'` lies in the interval. -/
def contains (i : RoundingInterval) (num den' : Nat) : Bool :=
  let x := num * i.den
  if i.closed then i.low * den' ≤ x && x ≤ i.high * den'
  else i.low * den' < x && x < i.high * den'

/-- `10 ^ n` is not above the value. -/
def reaches (i : RoundingInterval) (n : Int) : Bool :=
  i.den * tenTo n.toNat ≤ i.value * tenTo (-n).toNat

/-- How many decimal digits the value has before the point; negative for leading zeros after it.
The binary logarithm gives it up to one. -/
def pointPosition (i : RoundingInterval) : Int :=
  let binary : Int := (i.value.log2 : Int) - i.den.log2
  let estimate := (binary * 1233).fdiv 4096
  if i.reaches (estimate + 1) then estimate + 2
  else if i.reaches estimate then estimate + 1
  else estimate

/-- The nearer of the two neighbours on the grid of `count` digits, as a multiple of
`10 ^ exponent`, if one lies in the interval. -/
def onGrid? (i : RoundingInterval) (evenTie : Bool) (exponent : Int) : Option Nat :=
  let scale := tenTo exponent.toNat
  let inverse := tenTo (-exponent).toNat
  let num := i.value * inverse
  let den := i.den * scale
  let below := num / den
  let lowIn := i.contains (below * scale) inverse
  let highIn := i.contains ((below + 1) * scale) inverse
  let twice := 2 * (num % den)
  let nearLow := twice < den || (twice == den && evenTie && below % 2 == 0)
  if lowIn && (nearLow || !highIn) then some below
  else if highIn then some (below + 1)
  else none

/-- The first grid with a hit, from `exponent` downwards: the multiple and the exponent. -/
def search (i : RoundingInterval) (evenTie : Bool) (exponent : Int) : Nat → Option (Nat × Int)
  | 0 => none
  | fuel + 1 =>
    match i.onGrid? evenTie exponent with
    | some digits => some (digits, exponent)
    | none => i.search evenTie (exponent - 1) fuel

end RoundingInterval

/-- Significant decimal digits and where the point stands: after the first `point` of them, or
`-point` zeros before them. -/
structure DecimalDigits where
  digits : List Char
  point : Int
deriving DecidableEq, Repr

namespace DecimalDigits

/-- The digits of `n * 10 ^ exponent`, without zeros at the end. -/
def ofScaled (n : Nat) (exponent : Int) : DecimalDigits :=
  let all := Nat.toDigits 10 n
  { digits := (all.reverse.dropWhile (· == '0')).reverse
    point := all.length + exponent }

/-- The shortest digits that read back as a positive number; seventeen always suffice. -/
def shortest (k : FloatKind) (evenTie : Bool) (significand : Nat) (exponent : Int) :
    DecimalDigits :=
  let i := RoundingInterval.ofNumber k significand exponent
  match i.search evenTie (i.pointPosition - 1) 18 with
  | some (n, e) => ofScaled n e
  | none => ⟨['0'], 1⟩

end DecimalDigits

/-! ## Layout -/

/-- How a floating-point number is laid out as text. -/
structure FloatLayout where
  /-- Positions of the point at which the number is written without exponent. -/
  leastPoint : Int
  greatestPoint : Int
  /-- A number halfway between two shortest candidates takes the even one, else the upper one. -/
  evenTie : Bool
deriving DecidableEq, Repr

namespace FloatLayout

/-- Digits as text: positional with at least one digit on each side of the point, or with an
exponent after one leading digit. -/
def digits (layout : FloatLayout) (d : DecimalDigits) : List Char :=
  let count := d.digits.length
  if layout.leastPoint ≤ d.point ∧ d.point ≤ layout.greatestPoint then
    if d.point ≤ 0 then
      '0' :: '.' :: (List.replicate (-d.point).toNat '0' ++ d.digits)
    else if (count : Int) ≤ d.point then
      d.digits ++ List.replicate (d.point.toNat - count) '0' ++ ['.', '0']
    else
      d.digits.take d.point.toNat ++ '.' :: d.digits.drop d.point.toNat
  else
    let exponent := (toString (d.point - 1)).toList
    match d.digits with
    | [] => []
    | [first] => first :: 'e' :: exponent
    | first :: rest => first :: '.' :: (rest ++ 'e' :: exponent)

/-- The text of a finite number. -/
def finite (layout : FloatLayout) (k : FloatKind) (negative : Bool) (significand : Nat)
    (exponent : Int) : String :=
  let sign := if negative then ['-'] else []
  let body :=
    if significand = 0 then ['0', '.', '0']
    else layout.digits (.shortest k layout.evenTie significand exponent)
  String.ofList (sign ++ body)

end FloatLayout

end EntitySql
