import EntitySql.Number.Binary
import EntitySql.Number.Decimal
import EntitySql.Number.IntKind

/-!
# Numbers at the start of a text

Each reader takes the longest initial part of a text that is a number and returns what follows.

**Integers.** An optional sign and digits. A sign alone is read as zero. A number outside the
range of its kind is refused.

**Floating point.** An optional sign, digits with at most one point, and an exponent, which is
taken only when it has digits; or infinity or no number in words, in any case. The nearest number
of the format is the result.
-/

namespace EntitySql

set_option autoImplicit false

/-- The digits at the start, as a number, their count, and what follows. -/
def readNat (acc count : Nat) : List Char → Nat × Nat × List Char
  | [] => (acc, count, [])
  | c :: rest =>
    if c.isDigit then readNat (acc * 10 + Decimal.digitValue c) (count + 1) rest
    else (acc, count, c :: rest)

/-- Takes one sign from the start, if there is one, and says whether it is the minus. -/
def splitSign : List Char → Bool × List Char
  | '-' :: rest => (true, rest)
  | '+' :: rest => (false, rest)
  | cs => (false, cs)

namespace FixedInt

/-- An integer of the kind at the start of the text. -/
def read? (k : IntKind) (cs : List Char) : Option (FixedInt k × List Char) :=
  let (negative, digits) := splitSign cs
  let signed := digits.length < cs.length
  let (magnitude, count, rest) := readNat 0 0 digits
  if count = 0 && !signed then none
  else do
    let value ← ofInt? k (if negative then -(magnitude : Int) else magnitude)
    return (value, rest)

end FixedInt

namespace Binary

/-- The text starts with the word, in any case of its ASCII letters; what follows it. -/
def afterWord? : List Char → List Char → Option (List Char)
  | [], cs => some cs
  | _ :: _, [] => none
  | w :: ws, c :: cs => if c.toLower = w then afterWord? ws cs else none

/-- Infinity or no number, in words, with an optional sign. -/
def readWord? (k : FloatKind) (cs : List Char) : Option (Binary k × List Char) :=
  let (negative, word) := splitSign cs
  match afterWord? ['n', 'a', 'n'] word with
  | some rest => some (nan k, rest)
  | none => do
    let rest ← afterWord? ['i', 'n', 'f'] word
    return (infinity k negative, (afterWord? ['i', 'n', 'i', 't', 'y'] rest).getD rest)

/-- Exponents at least this large say nothing more. -/
def exponentCap : Nat := 0x10000

/-- Digits of an exponent; once it is large, further digits are passed over. -/
def readCapped (acc : Nat) : List Char → Nat × List Char
  | [] => (acc, [])
  | c :: rest =>
    if c.isDigit then
      readCapped (if acc < exponentCap then acc * 10 + Decimal.digitValue c else acc) rest
    else (acc, c :: rest)

/-- An exponent with at least one digit; without one nothing is taken. -/
def readExponent (cs : List Char) : Int × List Char :=
  match cs with
  | [] => (0, cs)
  | mark :: rest =>
    if mark.toLower ≠ 'e' then (0, cs)
    else
      let (negative, digits) := splitSign rest
      match digits with
      | [] => (0, cs)
      | d :: _ =>
        if !d.isDigit then (0, cs)
        else
          let (value, left) := readCapped 0 digits
          (if negative then -(value : Int) else value, left)

/-- The number nearest to `mantissa * 10 ^ exponent`, where the mantissa has `count` digits. Far
outside the range of the format the power is not computed. -/
def ofDecimal (k : FloatKind) (negative : Bool) (mantissa count : Nat) (exponent : Int) :
    Binary k :=
  if mantissa = 0 then ofMagnitude k negative 0
  else if 400 < exponent then infinity k negative
  else if exponent < -400 - count then ofMagnitude k negative 0
  else ofRatio k negative ⟨mantissa * tenTo exponent.toNat, tenTo (-exponent).toNat⟩

/-- A number in digits at the start of the text, after at most one sign. -/
def readDigits? (k : FloatKind) (cs : List Char) : Option (Binary k × List Char) :=
  let (negative, digits) := splitSign cs
  let (whole, wholeCount, afterWhole) := readNat 0 0 digits
  let (mantissa, count, rest) := match afterWhole with
    | '.' :: fraction => readNat whole wholeCount fraction
    | _ => (whole, wholeCount, afterWhole)
  if count = 0 then none
  else
    let (exponent, rest) := readExponent rest
    some (ofDecimal k negative mantissa count (exponent - ((count - wholeCount : Nat) : Int)), rest)

/-- A floating-point number at the start of the text. -/
def read? (k : FloatKind) (cs : List Char) : Option (Binary k × List Char) :=
  match readDigits? k cs with
  | some found => some found
  | none => readWord? k cs

end Binary

end EntitySql
