import EntitySql.Field.Primitive

/-!
# Reading from a slice

A text is read piece by piece from one slice, which every reading moves on behind what it has taken.
Here the readings of a part of a text are written as work on such a slice. What is taken is measured
in bytes, and the slice is cut there; a cut inside a character or behind the end ends the work.

**Failures.** The slice is a state that outlives a failure: it stays as the failed reading has left
it. Readings of several steps therefore work on a copy, and the slice is moved last.
-/

namespace EntitySql

set_option autoImplicit false

namespace Text

/-- Cuts a text behind its first bytes. -/
def cut (s : String) (bytes : Nat) : Except Error (String × String) :=
  match splitBytes? s.toList bytes with
  | some (before, behind) => .ok (String.ofList before, String.ofList behind)
  | none => .error (.abort .cutCharacter)

/-- The characters at the start that are accepted. Each character seen changes the state that the
next one is judged by. -/
def acceptedWhile {σ : Type} (accepts : σ → Char → Bool × σ) : σ → List Char → List Char
  | _, [] => []
  | state, c :: rest =>
    let (accepted, next) := accepts state c
    if accepted then c :: acceptedWhile accepts next rest else []

/-- Cuts a text behind the characters at its start that are accepted. -/
def cutWhile {σ : Type} (accepts : σ → Char → Bool × σ) (start : σ) (s : String) :
    Except Error (String × String) :=
  cut s (byteLength (acceptedWhile accepts start s.toList))

end Text

/-- Work on a slice: an outcome, and the slice afterwards, also after a failure. -/
abbrev SliceM : Type → Type := ExceptT Error (StateM String)

namespace SliceM

/-- The outcome of the work on a slice, and the slice afterwards. -/
def on {α : Type} (work : SliceM α) (slice : String) : Except Error α × String :=
  (work.run.run slice : Id _)

end SliceM

namespace Primitive

/-- A character of a word: a letter, a digit or an underscore. -/
def inWord (_ : Unit) (c : Char) : Bool × Unit := (Text.isAlphanumeric c || c == '_', ())

/-- A hexadecimal digit. -/
def inHex (_ : Unit) (c : Char) : Bool × Unit := (Text.isHexDigit c, ())

/-- A character of a decimal number. Only the first one may be a sign. -/
def inNumber (first : Bool) (c : Char) : Bool × Bool :=
  (c.isDigit || c == '.' || (first && (c == '-' || c == '+')), false)

/-- Takes true or false. -/
def takeBoolean : SliceM Bool := do
  let input ← get
  let (word, left) ← ofExcept (Text.cutWhile inWord () input)
  let means := fun w => Text.eqIgnoringCase word w
  if means "true" || means "t" || word == "1" then
    set left
    return true
  else if means "false" || means "f" || word == "0" then
    set left
    return false
  else throw (.ofText input boolean.name)

/-- Takes a number that is found at the start, with its bytes. -/
def takeNumber {α : Type} (p : Primitive) (find : List Char → Option (α × List Char)) :
    SliceM α := do
  let input ← get
  match find input.toList with
  | some (number, rest) =>
    let length := Text.byteLength input.toList - Text.byteLength rest
    let (_, left) ← ofExcept (Text.cut input length)
    set left
    return number
  | none => throw (.ofText input p.name)

/-- Takes one character. -/
def takeChar : SliceM Char := do
  let input ← get
  match input.toList with
  | c :: rest =>
    set (String.ofList rest)
    return c
  | [] => throw (.ofText input char.name)

/-- Takes everything. -/
def takeText : SliceM String := do
  let input ← get
  set ""
  return input

/-- The text behind a mark `\x`; for the mark the first two bytes are looked at. -/
def behindMark (s : String) : Except Error String :=
  if 2 ≤ Text.byteLength s.toList then do
    let (mark, behind) ← Text.cut s 2
    return if Text.eqIgnoringCase mark "\\x" then behind else s
  else .ok s

/-- Takes bytes in hexadecimal digits. -/
def takeBytes : SliceM (List UInt8) := do
  let input ← get
  let digits ← ofExcept (behindMark input)
  let (digits, left) ← ofExcept (Text.cutWhile inHex () digits)
  match Text.bytesOfHex? digits.toList with
  | some found =>
    set left
    return found
  | none => throw (.ofText input bytes.name)

/-- Takes a decimal number. -/
def takeDecimal : SliceM Decimal := do
  let input ← get
  let (digits, left) ← ofExcept (Text.cutWhile inNumber true input)
  match Decimal.ofChars? digits.toList with
  | some number =>
    set left
    return number
  | none => throw (.ofText input decimal.name)

/-- Takes a member of the type off the slice. Types that are read only as whole texts take
nothing. -/
def take : (p : Primitive) → SliceM p.Carrier
  | boolean => takeBoolean
  | int k => takeNumber (int k) (FixedInt.read? k)
  | float k => takeNumber (float k) (Binary.read? k)
  | char => takeChar
  | text => takeText
  | bytes => takeBytes
  | decimal => takeDecimal
  | p => do throw (.ofText (← get) p.name)

end Primitive

end EntitySql
