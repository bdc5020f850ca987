import EntitySql.Number.Power
import EntitySql.Number.Rounding

/-!
# Binary floating-point numbers

A number is kept as the bits of its interchange format, in single or double precision. All
arithmetic is exact on naturals: a finite number is a significand times a power of two, and a
result is rounded once, to the nearest number of the format, a tie going to the even significand.
-/

namespace EntitySql

set_option autoImplicit false

/-- Single and double precision. -/
inductive FloatKind where
  | float32
  | float64
deriving DecidableEq, Repr

namespace FloatKind

/-- How many bits a number takes. -/
def width : FloatKind → Nat
  | float32 => 32
  | float64 => 64

/-- How many significant bits a number has. -/
def precision : FloatKind → Nat
  | float32 => 24
  | float64 => 53

/-- The exponent of the last bit of the smallest numbers. -/
def minExponent : FloatKind → Int
  | float32 => -149
  | float64 => -1074

/-- The bits of positive infinity; greater magnitudes are not numbers. -/
def infinityBits : FloatKind → Nat
  | float32 => 0x7f800000
  | float64 => 0x7ff0000000000000

end FloatKind

/-- A floating-point number of a format, as its bits. -/
structure Binary (k : FloatKind) where
  bits : Nat
  bits_lt : bits < twoTo k.width
deriving DecidableEq, Repr

/-- What the bits of a floating-point number mean. -/
inductive FloatClass where
  | nan
  | infinite (negative : Bool)
  /-- The magnitude is `significand * 2 ^ exponent`. -/
  | finite (negative : Bool) (significand : Nat) (exponent : Int)
deriving DecidableEq, Repr

/-- A non-negative rational number, not necessarily in lowest terms. -/
structure Ratio where
  num : Nat
  den : Nat
deriving DecidableEq, Repr

namespace Ratio

/-- A whole number. -/
def ofNat (n : Nat) : Ratio := ⟨n, 1⟩

/-- The magnitude `significand * 2 ^ exponent`. -/
def scaled (significand : Nat) (exponent : Int) : Ratio :=
  ⟨significand * twoTo exponent.toNat, twoTo (-exponent).toNat⟩

def add (a b : Ratio) : Ratio := ⟨a.num * b.den + b.num * a.den, a.den * b.den⟩

def mul (a b : Ratio) : Ratio := ⟨a.num * b.num, a.den * b.den⟩

/-- The quotient; the divisor is not zero. -/
def div (a b : Ratio) : Ratio := ⟨a.num * b.den, a.den * b.num⟩

end Ratio

namespace Binary

variable {k : FloatKind}

/-- The bits without the sign. -/
def magnitude (x : Binary k) : Nat := x.bits % twoTo (k.width - 1)

/-- The sign bit is set. -/
def isNegative (x : Binary k) : Bool := twoTo (k.width - 1) ≤ x.bits

/-- The number is no number. -/
def isNaN (x : Binary k) : Bool := k.infinityBits < x.magnitude

/-- The number is one of the two infinities. -/
def isInfinite (x : Binary k) : Bool := x.magnitude == k.infinityBits

/-- Both zeros are zero. -/
def isZero (x : Binary k) : Bool := x.magnitude == 0

/-- The meaning of the bits. Below the least normal exponent there is no implicit leading bit. -/
def classify (x : Binary k) : FloatClass :=
  if x.isNaN then .nan
  else if x.isInfinite then .infinite x.isNegative
  else
    let unit := twoTo (k.precision - 1)
    let biased := x.magnitude / unit
    let fraction := x.magnitude % unit
    if biased = 0 then .finite x.isNegative fraction k.minExponent
    else .finite x.isNegative (unit + fraction) (k.minExponent + (biased - 1 : Nat))

/-- A number from its sign and the bits of its magnitude; magnitudes above infinity are cut. -/
def ofMagnitude (k : FloatKind) (negative : Bool) (magnitude : Nat) : Binary k :=
  let m := Nat.min magnitude k.infinityBits
  { bits := if negative then twoTo (k.width - 1) + m else m
    bits_lt := by
      have small : m ≤ k.infinityBits := Nat.min_le_right ..
      have bound : k.infinityBits < twoTo (k.width - 1) := by cases k <;> decide
      have double : twoTo (k.width - 1) + twoTo (k.width - 1) = twoTo k.width := by
        cases k <;> decide
      split <;> omega }

/-- The one number that stands for no number. -/
def nan (k : FloatKind) : Binary k where
  bits := k.infinityBits + twoTo (k.precision - 2)
  bits_lt := by cases k <;> decide

/-- Infinity of either sign. -/
def infinity (k : FloatKind) (negative : Bool) : Binary k := ofMagnitude k negative k.infinityBits

/-- The exponent of the last bit of the number nearest to a positive rational, were exponents
unbounded below. -/
def unitExponent (k : FloatKind) (r : Ratio) : Int :=
  let estimate : Int := (r.num.log2 : Int) - r.den.log2
  let reached := r.den * twoTo estimate.toNat ≤ r.num * twoTo (-estimate).toNat
  (if reached then estimate else estimate - 1) - (k.precision - 1 : Nat)

/-- The bits of the magnitude nearest to a rational. The bits of neighbouring numbers are
neighbouring, so a significand that rounds up to the next power of two needs no care. -/
def nearestMagnitude (k : FloatKind) (r : Ratio) : Nat :=
  if r.num = 0 then 0
  else
    let e := max (unitExponent k r) k.minExponent
    let significand := roundHalfEven (r.num * twoTo (-e).toNat) (r.den * twoTo e.toNat)
    (e - k.minExponent).toNat * twoTo (k.precision - 1) + significand

/-- The number of the format nearest to a rational of the given sign. -/
def ofRatio (k : FloatKind) (negative : Bool) (r : Ratio) : Binary k :=
  ofMagnitude k negative (nearestMagnitude k r)

/-- The number nearest to an integer. -/
def ofInt (k : FloatKind) (n : Int) : Binary k := ofRatio k (n < 0) (.ofNat n.natAbs)

/-- The number in another format. -/
def convert (target : FloatKind) (x : Binary k) : Binary target :=
  match x.classify with
  | .nan => nan target
  | .infinite negative => infinity target negative
  | .finite negative significand exponent =>
    ofRatio target negative (.scaled significand exponent)

/-- The number without its fraction; `none` for what is not finite. -/
def truncated? (x : Binary k) : Option Int :=
  match x.classify with
  | .finite negative significand exponent =>
    let r := Ratio.scaled significand exponent
    let whole := r.num / r.den
    some (if negative then -(whole : Int) else whole)
  | _ => none

/-- Equality of numbers: no number equals nothing, and the two zeros are equal. -/
def equals (x y : Binary k) : Bool :=
  !x.isNaN && !y.isNaN && (x.bits == y.bits || (x.isZero && y.isZero))

end Binary

/-! ## Arithmetic on magnitudes of double precision -/

namespace Ratio

/-- The double-precision number nearest to a rational, as a rational. -/
def toDouble (r : Ratio) : Ratio :=
  match (Binary.ofRatio .float64 false r).classify with
  | .finite _ significand exponent => scaled significand exponent
  | _ => r

/-- A power by repeated squaring, every product rounded to double precision. -/
def powDouble (base acc : Ratio) (n : Nat) : Ratio :=
  if n = 0 then acc
  else
    let acc := if n % 2 = 1 then (acc.mul base).toDouble else acc
    if n / 2 = 0 then acc else powDouble (base.mul base).toDouble acc (n / 2)
  termination_by n
  decreasing_by omega

end Ratio

end EntitySql
