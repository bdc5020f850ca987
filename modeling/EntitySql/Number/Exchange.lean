import EntitySql.Number.Binary
import EntitySql.Number.Decimal

/-!
# Between binary and decimal numbers

**From binary.** The powers of two of a number are turned into powers of ten: a factor two is a
ten over a five. The mantissa stays within 96 bits, so digits may be lost on the way; at the end
it is cut to the digits the format guarantees, and zeros at its end are dropped.

**To double precision.** Whole part and fraction are converted apart and added; a last rounding at
the scale of the decimal takes out what the addition brought in.
-/

namespace EntitySql

namespace Decimal

set_option autoImplicit false

/-- A mantissa and the power of ten it is multiplied by. -/
structure Scaled where
  mantissa : Nat
  exponent : Int
deriving DecidableEq, Repr

namespace Scaled

/-- Divides by two, `n` times over, as five over ten: even mantissas are halved, odd ones take a
factor five, or lose their last bit when there is no room. -/
def halve : Nat → Scaled → Scaled
  | 0, s => s
  | n + 1, s =>
    if s.mantissa % 2 = 0 then halve n ⟨s.mantissa / 2, s.exponent + 1⟩
    else if s.mantissa * 5 < mantissaBound then halve n ⟨s.mantissa * 5, s.exponent⟩
    else halve n ⟨s.mantissa / 2, s.exponent + 1⟩

/-- Multiplies by two, `n` times over, as ten over five: a mantissa with room is doubled, one
without loses a factor five. -/
def double : Nat → Scaled → Scaled
  | 0, s => s
  | n + 1, s =>
    if s.mantissa < twoTo 95 then double n ⟨s.mantissa * 2, s.exponent - 1⟩
    else double n ⟨s.mantissa / 5, s.exponent⟩

/-- Takes `n` factors ten into the mantissa, if they fit. -/
def absorbTens : Nat → Scaled → Option Scaled
  | 0, s => some s
  | n + 1, s =>
    if s.mantissa * 10 < mantissaBound then absorbTens n ⟨s.mantissa * 10, s.exponent - 1⟩
    else none

/-- Drops the last digit, rounding up from five. -/
def dropDigit (s : Scaled) : Scaled :=
  let rest := s.mantissa % 10
  ⟨s.mantissa / 10 + (if 5 ≤ rest then 1 else 0), s.exponent + 1⟩

/-- Drops `n` digits; a mantissa without digits left is plain zero. -/
def dropDigits : Nat → Scaled → Scaled
  | 0, s => s
  | n + 1, s =>
    if s.mantissa / 10 = 0 then ⟨0, 0⟩ else dropDigits n s.dropDigit

/-- Drops digits of the fraction until the mantissa is below the bound. -/
def cutBelow (bound : Nat) : Nat → Scaled → Scaled
  | 0, s => s
  | n + 1, s => if bound ≤ s.mantissa then cutBelow bound n s.dropDigit else s

/-- Drops zeros at the end of the fraction. -/
def stripZeros : Nat → Scaled → Scaled
  | 0, s => s
  | n + 1, s =>
    if s.mantissa % 10 = 0 then stripZeros n ⟨s.mantissa / 10, s.exponent + 1⟩ else s

end Scaled

/-- Mantissas of a format are exact below this bound. -/
def exactBound : FloatKind → Nat
  | .float32 => twoTo 24
  | .float64 => twoTo 52

/-- The decimal of a finite binary number, if it is not too large. -/
def ofScaled? (k : FloatKind) (negative : Bool) (significand : Nat) (exponent : Int) :
    Option Decimal := do
  let start : Scaled := ⟨significand, exponent⟩
  let tens := if exponent < 0 then start.halve (-exponent).toNat else start.double exponent.toNat
  let fitting ← tens.absorbTens tens.exponent.toNat
  let scaled := fitting.dropDigits (-28 - fitting.exponent).toNat
  let cut := scaled.cutBelow (exactBound k) (-scaled.exponent).toNat
  let stripped := cut.stripZeros (-cut.exponent).toNat
  if h : stripped.mantissa < mantissaBound ∧ (-stripped.exponent).toNat ≤ 28 then
    some ⟨negative, stripped.mantissa, (-stripped.exponent).toNat, h.1, h.2⟩
  else none

/-- The decimal of a binary number; zeros keep their sign. -/
def ofBinary? {k : FloatKind} (x : Binary k) : Option Decimal :=
  match x.classify with
  | .finite negative significand exponent =>
    if significand = 0 then some ⟨negative, 0, 0, by decide, by decide⟩
    else ofScaled? k negative significand exponent
  | _ => none

/-- The magnitude of a decimal in double precision. -/
def doubleMagnitude (d : Decimal) : Ratio :=
  if d.scale = 0 then (Ratio.ofNat d.mantissa).toDouble
  else
    let unit := tenTo d.scale
    let fraction :=
      ((Ratio.ofNat (d.mantissa % unit)).toDouble.div (Ratio.ofNat unit).toDouble).toDouble
    let whole := (Ratio.ofNat (d.mantissa / unit)).toDouble
    if fraction.num = 0 then whole
    else
      let power := Ratio.powDouble (.ofNat 10) (.ofNat 1) d.scale
      let shifted := ((whole.add fraction).toDouble.mul power).toDouble
      ((Ratio.ofNat (roundHalfUp shifted.num shifted.den)).div power).toDouble

/-- The decimal in double precision. A whole zero has no sign. -/
def toDouble (d : Decimal) : Binary .float64 :=
  Binary.ofRatio .float64 (d.negative && (d.scale ≠ 0 || d.mantissa ≠ 0)) d.doubleMagnitude

/-- The decimal in a binary format, by way of double precision. -/
def toBinary (k : FloatKind) (d : Decimal) : Binary k := d.toDouble.convert k

end Decimal

/-- A double-precision number rounded to `places` decimal digits; what no decimal can hold is
kept. -/
def Binary.roundPlaces (x : Binary .float64) (places : Nat) : Binary .float64 :=
  match Decimal.ofBinary? x with
  | some d => (d.round places).toDouble
  | none => x

end EntitySql
