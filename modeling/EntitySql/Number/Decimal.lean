import EntitySql.Number.Power
import EntitySql.Number.Rounding

/-!
# Decimal numbers

A decimal is a sign, a mantissa of at most 96 bits and a scale: how many of the digits of the
mantissa stand after the point. `1.50` and `1.5` are different decimals of the same value; the
value decides equality, the scale decides the text.

**Rounding.** `round` keeps a decimal whose scale fits and else moves the last digit to the even
neighbour on a tie.

**Reading.** `ofText?` takes an optional sign and digits with at most one point. Digits that do
not fit after the point are cut, rounding a half up; the rest of the text is then not looked at.
-/

namespace EntitySql

set_option autoImplicit false

/-- Mantissas stay below this bound. -/
def Decimal.mantissaBound : Nat := twoTo 96

/-- The greatest scale. -/
def Decimal.maxScale : Nat := 28

/-- A number of at most 96 bits, of which `scale` decimal digits stand after the point. -/
structure Decimal where
  negative : Bool
  mantissa : Nat
  scale : Nat
  mantissa_lt : mantissa < Decimal.mantissaBound
  scale_le : scale ≤ 28
deriving DecidableEq, Repr

namespace Decimal

/-- A decimal from its parts, if they are in range; zero is positive. -/
def ofParts? (negative : Bool) (mantissa scale : Nat) : Option Decimal :=
  if h : mantissa < mantissaBound ∧ scale ≤ 28 then
    some ⟨negative && mantissa ≠ 0, mantissa, scale, h.1, h.2⟩
  else none

/-- A decimal without fraction, if the number fits. -/
def ofInt? (n : Int) : Option Decimal := ofParts? (n < 0) n.natAbs 0

/-- The mantissa with its sign. -/
def signedMantissa (d : Decimal) : Int := if d.negative then -(d.mantissa : Int) else d.mantissa

/-- The value is zero. -/
def isZero (d : Decimal) : Bool := d.mantissa == 0

/-- The value is a whole number. -/
def isInteger (d : Decimal) : Bool := d.mantissa % tenTo d.scale == 0

/-- The value without its fraction. -/
def truncated (d : Decimal) : Int :=
  let whole := d.mantissa / tenTo d.scale
  if d.negative then -(whole : Int) else whole

/-- Two decimals of the same value, whatever their scales. -/
def sameValue (a b : Decimal) : Bool :=
  a.signedMantissa * tenTo b.scale == b.signedMantissa * tenTo a.scale

/-- The decimal with at most `places` digits after the point, a tie going to the even digit. -/
def round (d : Decimal) (places : Nat) : Decimal :=
  if h : d.scale ≤ places then d
  else
    let mantissa := roundHalfEven d.mantissa (tenTo (d.scale - places))
    { negative := d.negative && mantissa ≠ 0
      mantissa
      scale := places
      mantissa_lt := by
        have grows : 10 ≤ tenTo (d.scale - places) := ten_le_tenTo (by omega)
        have bound : roundHalfEven d.mantissa (tenTo (d.scale - places)) ≤ d.mantissa :=
          roundHalfEven_le (by omega)
        exact Nat.lt_of_le_of_lt bound d.mantissa_lt
      scale_le := by
        have := d.scale_le
        omega }

/-- A decimal whose scale fits is kept. -/
theorem round_of_le {d : Decimal} {places : Nat} (h : d.scale ≤ places) : d.round places = d := by
  simp [round, h]

/-- After rounding, the scale fits. -/
theorem scale_round_le (d : Decimal) (places : Nat) : (d.round places).scale ≤ places := by
  by_cases h : d.scale ≤ places
  · rw [round_of_le h]
    exact h
  · simp [round, h]

/-- Rounding a second time changes nothing. -/
theorem round_round (d : Decimal) (places : Nat) :
    (d.round places).round places = d.round places :=
  round_of_le (scale_round_le d places)

/-! ## Text -/

/-- The text of a decimal keeps its scale, and the sign of a negative zero. -/
def toText (d : Decimal) : String :=
  let digits := Nat.toDigits 10 d.mantissa
  let padded := List.replicate (d.scale + 1 - digits.length) '0' ++ digits
  let whole := padded.take (padded.length - d.scale)
  let fraction := padded.drop (padded.length - d.scale)
  let sign := if d.negative then ['-'] else []
  String.ofList (sign ++ if d.scale = 0 then whole else whole ++ '.' :: fraction)

/-- The value of an ASCII digit. -/
def digitValue (c : Char) : Nat := c.toNat - 48

/-- The last step of reading when digits have to be cut: the first of them decides. A mantissa
that overflows by this gives up its last digit. -/
def cutAt (next : Char) (mantissa scale : Nat) : Option (Nat × Nat) :=
  if next = '.' then some (mantissa, scale)
  else if !next.isDigit then none
  else if digitValue next < 5 then some (mantissa, scale)
  else if mantissa + 1 < mantissaBound then some (mantissa + 1, scale)
  else if scale = 0 then none
  else some ((mantissa + 5) / 10, scale - 1)

/-- Reads digits and a point into mantissa and scale. -/
def readDigits (point seen : Bool) (mantissa scale : Nat) : List Char → Option (Nat × Nat)
  | [] => if seen then some (mantissa, scale) else none
  | c :: rest =>
    if c.isDigit then
      let next := mantissa * 10 + digitValue c
      if next < mantissaBound then
        let scale := if point then scale + 1 else scale
        match rest with
        | [] => some (next, scale)
        | d :: _ =>
          if point && scale ≥ maxScale then cutAt d next scale
          else readDigits point true next scale rest
      else if point then cutAt c mantissa scale
      else none
    else if c = '.' && !point then readDigits true seen mantissa scale rest
    else none

/-- Reads a whole text as a decimal. -/
def ofChars? (cs : List Char) : Option Decimal := do
  let (negative, digits) := match cs with
    | '-' :: rest => (true, rest)
    | '+' :: rest => (false, rest)
    | _ => (false, cs)
  let (mantissa, scale) ← readDigits false false 0 0 digits
  ofParts? negative mantissa scale

end Decimal

end EntitySql
