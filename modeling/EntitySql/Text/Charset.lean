/-!
# Character sets

Character data in large objects is written in one of four character sets. Encoding fails only
where a character lies outside Latin-1; decoding reports what is malformed.

**UTF-16.** Characters above U+FFFF are a pair of surrogate units, the high one first. A unit is
two bytes, in little-endian or big-endian order.
-/

namespace EntitySql.Text

set_option autoImplicit false

/-- The character sets of large character data. -/
inductive Charset where
  | utf8
  | utf16Le
  | utf16Be
  | latin1
deriving DecidableEq, Repr

/-- Why bytes are no text of a character set. -/
inductive CharsetFault where
  /-- The index is where the first bad sequence starts; the length is known unless the text ends
  too early. -/
  | invalidUtf8 (validUpTo : Nat) (length : Option Nat)
  | oddLength (charset : Charset) (length : Nat)
  | unpairedSurrogate (charset : Charset) (unit : Nat)
deriving DecidableEq, Repr

namespace Charset

/-- All character sets. -/
def all : List Charset := [utf8, utf16Le, utf16Be, latin1]

/-- The short name of the character set. -/
def name : Charset → String
  | utf8 => "Utf8"
  | utf16Le => "Utf16Le"
  | utf16Be => "Utf16Be"
  | latin1 => "Latin1"

/-- The registered name of the character set. -/
def label : Charset → String
  | utf8 => "UTF-8"
  | utf16Le => "UTF-16LE"
  | utf16Be => "UTF-16BE"
  | latin1 => "ISO-8859-1"

/-- Reads a label without regard to ASCII case, hyphens and underscores. -/
def ofLabel? (label : String) : Option Charset :=
  match String.ofList ((label.toList.filter fun c => c ≠ '-' && c ≠ '_').map Char.toLower) with
  | "utf8" => some utf8
  | "utf16le" | "utf16" => some utf16Le
  | "utf16be" => some utf16Be
  | "latin1" | "iso88591" => some latin1
  | _ => none

end Charset

/-! ## UTF-16 -/

/-- The units of one character. -/
def unitsOfChar (c : Char) : List Nat :=
  if c.toNat < 0x10000 then [c.toNat]
  else [0xd800 + (c.toNat - 0x10000) / 0x400, 0xdc00 + (c.toNat - 0x10000) % 0x400]

/-- A unit that starts a pair. -/
def isHighSurrogate (u : Nat) : Bool := 0xd800 ≤ u && u < 0xdc00

/-- A unit that ends a pair. -/
def isLowSurrogate (u : Nat) : Bool := 0xdc00 ≤ u && u < 0xe000

/-- Reads units; the error is the first unpaired surrogate. -/
def charsOfUnits : List Nat → Except Nat (List Char)
  | [] => .ok []
  | u :: rest =>
    if isHighSurrogate u then
      match rest with
      | v :: rest' =>
        if isLowSurrogate v then
          (charsOfUnits rest').map
            (Char.ofNat (0x10000 + (u - 0xd800) * 0x400 + (v - 0xdc00)) :: ·)
        else .error u
      | [] => .error u
    else if isLowSurrogate u then .error u
    else (charsOfUnits rest).map (Char.ofNat u :: ·)

/-- The two bytes of a unit, the low one first. -/
def bytesOfUnitLe (u : Nat) : List UInt8 := [UInt8.ofNat (u % 256), UInt8.ofNat (u / 256)]

/-- The two bytes of a unit, the high one first. -/
def bytesOfUnitBe (u : Nat) : List UInt8 := [UInt8.ofNat (u / 256), UInt8.ofNat (u % 256)]

/-- Joins pairs of bytes to units; a lone last byte is left out. -/
def unitsOfBytes (join : UInt8 → UInt8 → Nat) : List UInt8 → List Nat
  | a :: b :: rest => join a b :: unitsOfBytes join rest
  | _ => []

/-! ## UTF-8 -/

/-- What a first byte above ASCII announces: the length of the sequence, and the range of its
second byte. -/
structure SequenceForm where
  length : Nat
  low : Nat
  high : Nat
deriving DecidableEq, Repr

/-- The form of the sequence a byte above ASCII starts; `none` for a byte that starts none. The
ranges leave out overlong forms, surrogates and what lies above U+10FFFF. -/
def sequenceForm? (b : Nat) : Option SequenceForm :=
  if 0xc2 ≤ b && b ≤ 0xdf then some ⟨2, 0x80, 0xbf⟩
  else if b == 0xe0 then some ⟨3, 0xa0, 0xbf⟩
  else if b == 0xed then some ⟨3, 0x80, 0x9f⟩
  else if 0xe1 ≤ b && b ≤ 0xef then some ⟨3, 0x80, 0xbf⟩
  else if b == 0xf0 then some ⟨4, 0x90, 0xbf⟩
  else if 0xf1 ≤ b && b ≤ 0xf3 then some ⟨4, 0x80, 0xbf⟩
  else if b == 0xf4 then some ⟨4, 0x80, 0x8f⟩
  else none

/-- A byte that continues a sequence. -/
def isContinuation (b : UInt8) : Bool := 0x80 ≤ b.toNat && b.toNat ≤ 0xbf

/-- The six bits a continuation byte carries. -/
def continuationBits (b : UInt8) : Nat := b.toNat - 0x80

/-- Reads bytes as UTF-8. The error is where the first bad sequence starts and its length, which
is `none` when the bytes end within a sequence that is good so far. -/
def charsOfUtf8 (offset : Nat) : List UInt8 → Except (Nat × Option Nat) (List Char)
  | [] => .ok []
  | b :: rest =>
    if b.toNat < 0x80 then
      (charsOfUtf8 (offset + 1) rest).map (Char.ofNat b.toNat :: ·)
    else
      match sequenceForm? b.toNat with
      | none => .error (offset, some 1)
      | some form =>
        match rest with
        | [] => .error (offset, none)
        | c :: rest =>
          if c.toNat < form.low || form.high < c.toNat then .error (offset, some 1)
          else if form.length = 2 then
            (charsOfUtf8 (offset + 2) rest).map
              (Char.ofNat ((b.toNat - 0xc0) * 64 + continuationBits c) :: ·)
          else
            match rest with
            | [] => .error (offset, none)
            | d :: rest =>
              if !isContinuation d then .error (offset, some 2)
              else if form.length = 3 then
                (charsOfUtf8 (offset + 3) rest).map
                  (Char.ofNat ((b.toNat - 0xe0) * 4096 + continuationBits c * 64 +
                    continuationBits d) :: ·)
              else
                match rest with
                | [] => .error (offset, none)
                | e :: rest =>
                  if !isContinuation e then .error (offset, some 3)
                  else
                    (charsOfUtf8 (offset + 4) rest).map
                      (Char.ofNat ((b.toNat - 0xf0) * 262144 + continuationBits c * 4096 +
                        continuationBits d * 64 + continuationBits e) :: ·)

/-- The bytes of one character. -/
def utf8OfChar (c : Char) : List UInt8 :=
  let n := c.toNat
  if n < 0x80 then [UInt8.ofNat n]
  else if n < 0x800 then [UInt8.ofNat (0xc0 + n / 64), UInt8.ofNat (0x80 + n % 64)]
  else if n < 0x10000 then
    [UInt8.ofNat (0xe0 + n / 4096), UInt8.ofNat (0x80 + n / 64 % 64), UInt8.ofNat (0x80 + n % 64)]
  else
    [UInt8.ofNat (0xf0 + n / 262144), UInt8.ofNat (0x80 + n / 4096 % 64),
      UInt8.ofNat (0x80 + n / 64 % 64), UInt8.ofNat (0x80 + n % 64)]

/-- The UTF-8 form of a text. -/
def utf8 (s : String) : List UInt8 := s.toList.flatMap utf8OfChar

/-- The text of bytes in UTF-8, if they are well formed. -/
def ofUtf8? (bytes : List UInt8) : Option String :=
  match charsOfUtf8 0 bytes with
  | .ok cs => some (String.ofList cs)
  | .error _ => none

/-! ## Encoding and decoding -/

namespace Charset

/-- The bytes of a text; `none` when a character is outside the character set. -/
def encode? (charset : Charset) (s : String) : Option (List UInt8) :=
  match charset with
  | utf8 => some (Text.utf8 s)
  | utf16Le => some ((s.toList.flatMap unitsOfChar).flatMap bytesOfUnitLe)
  | utf16Be => some ((s.toList.flatMap unitsOfChar).flatMap bytesOfUnitBe)
  | latin1 => s.toList.mapM fun c => if c.toNat < 256 then some (UInt8.ofNat c.toNat) else none

/-- Decodes units after the length check. -/
def decodeUnits (charset : Charset) (join : UInt8 → UInt8 → Nat) (bytes : List UInt8) :
    Except CharsetFault String :=
  if bytes.length % 2 ≠ 0 then .error (.oddLength charset bytes.length)
  else
    match charsOfUnits (unitsOfBytes join bytes) with
    | .ok cs => .ok (String.ofList cs)
    | .error unit => .error (.unpairedSurrogate charset unit)

/-- The text of bytes. -/
def decode (charset : Charset) (bytes : List UInt8) : Except CharsetFault String :=
  match charset with
  | utf8 =>
    match charsOfUtf8 0 bytes with
    | .ok cs => .ok (String.ofList cs)
    | .error (validUpTo, length) => .error (.invalidUtf8 validUpTo length)
  | utf16Le => decodeUnits utf16Le (fun a b => a.toNat + 256 * b.toNat) bytes
  | utf16Be => decodeUnits utf16Be (fun a b => 256 * a.toNat + b.toNat) bytes
  | latin1 => .ok (String.ofList (bytes.map fun b => Char.ofNat b.toNat))

end Charset

namespace CharsetFault

/-- The texts of the fault, the general one first, each next one its cause. -/
def messages : CharsetFault → List String
  | invalidUtf8 validUpTo (some length) =>
    ["Invalid UTF-8 text",
      s!"invalid utf-8 sequence of {length} bytes from index {validUpTo}"]
  | invalidUtf8 validUpTo none =>
    ["Invalid UTF-8 text", s!"incomplete utf-8 byte sequence from index {validUpTo}"]
  | oddLength charset length =>
    [s!"{charset.label} text has an odd number of bytes ({length})"]
  | unpairedSurrogate charset unit =>
    [s!"Invalid {charset.label} text",
      "unpaired surrogate found: " ++ String.ofList (Nat.toDigits 16 unit)]

end CharsetFault

end EntitySql.Text
