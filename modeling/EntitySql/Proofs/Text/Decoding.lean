import EntitySql.Proofs.Outcome
import EntitySql.Proofs.Text.Charsets

/-!
# Decoding accepts exactly what encoding writes

Charsets shows that written texts are read back. Here is the other direction: bytes that decode to
a text are the bytes of that text, so each text has one written form, and what is malformed is
exactly what no text is written as (`Charset.encode_decode`).

**UTF-8.** What is well formed is told without the table of first bytes: a sequence spells a number
by the leading ones of its first byte and by six bits in each further byte; the number is that of
a character, and it is spelled with as few bytes as it needs. This leaves out overlong forms,
surrogates, numbers above U+10FFFF and sequences that end too early.

**UTF-16.** A surrogate is unpaired when it is high and no low one follows it, or low and no high
one precedes it.
-/

namespace EntitySql.Text

set_option autoImplicit false

theorem toNat_ofNat {n : Nat} (valid : n.isValidChar) : (Char.ofNat n).toNat = n := by
  rw [Char.ofNat, dif_pos valid]
  show (UInt32.ofNatLT n _).toNat = n
  exact UInt32.toNat_ofNatLT

/-! ## UTF-8 -/

/-- The bytes spell the number: the first byte says by its leading ones how many bytes there are,
each further byte carries six bits, and no fewer bytes would do. -/
inductive Spells : List UInt8 → Nat → Prop
  | one {a : UInt8} (ascii : a.toNat < 0x80) : Spells [a] a.toNat
  | two {a b : UInt8} {x y : Nat} (lead : a.toNat = 0xc0 + x) (second : b.toNat = 0x80 + y)
      (bits : x < 32 ∧ y < 64) (shortest : 0x80 ≤ x * 64 + y) : Spells [a, b] (x * 64 + y)
  | three {a b c : UInt8} {x y z : Nat} (lead : a.toNat = 0xe0 + x) (second : b.toNat = 0x80 + y)
      (third : c.toNat = 0x80 + z) (bits : x < 16 ∧ y < 64 ∧ z < 64)
      (shortest : 0x800 ≤ x * 4096 + y * 64 + z) : Spells [a, b, c] (x * 4096 + y * 64 + z)
  | four {a b c d : UInt8} {x y z w : Nat} (lead : a.toNat = 0xf0 + x)
      (second : b.toNat = 0x80 + y) (third : c.toNat = 0x80 + z) (fourth : d.toNat = 0x80 + w)
      (bits : x < 8 ∧ y < 64 ∧ z < 64 ∧ w < 64)
      (shortest : 0x10000 ≤ x * 262144 + y * 4096 + z * 64 + w) :
      Spells [a, b, c, d] (x * 262144 + y * 4096 + z * 64 + w)

/-- The bytes are sequences one after the other, each of which spells the number of a
character. -/
inductive WellFormedUtf8 : List UInt8 → Prop
  | nil : WellFormedUtf8 []
  | cons {sequence rest : List UInt8} {n : Nat} (spells : Spells sequence n)
      (valid : n.isValidChar) (others : WellFormedUtf8 rest) : WellFormedUtf8 (sequence ++ rest)

/-- **Each character is spelled in one way,** the one it is written in. -/
theorem utf8OfChar_of_spells {sequence : List UInt8} {n : Nat} (h : Spells sequence n)
    (valid : n.isValidChar) : utf8OfChar (Char.ofNat n) = sequence := by
  have byte : ∀ {m : Nat} {b : UInt8}, b.toNat = m → UInt8.ofNat m = b := by
    rintro _ _ rfl
    exact UInt8.ofNat_toNat
  simp only [utf8OfChar, toNat_ofNat valid]
  cases h with
  | @one a ascii => rw [if_pos ascii, byte (b := a) rfl]
  | @two a b x y lead second bits shortest =>
    rw [if_neg (by omega), if_pos (by omega), byte (b := a) (by omega), byte (b := b) (by omega)]
  | @three a b c x y z lead second third bits shortest =>
    rw [if_neg (by omega), if_neg (by omega), if_pos (by omega), byte (b := a) (by omega),
      byte (b := b) (by omega), byte (b := c) (by omega)]
  | @four a b c d x y z w lead second third fourth bits shortest =>
    rw [if_neg (by omega), if_neg (by omega), if_neg (by omega), byte (b := a) (by omega),
      byte (b := b) (by omega), byte (b := c) (by omega), byte (b := d) (by omega)]

/-- What is written for a character spells its number. -/
theorem spells_utf8OfChar (c : Char) : Spells (utf8OfChar c) c.toNat := by
  have valid := toNat_cases c
  simp only [utf8OfChar]
  generalize c.toNat = n at valid
  by_cases one : n < 0x80
  · have byte : (UInt8.ofNat n).toNat = n := toNat_byte (by omega)
    have spelled := Spells.one (a := UInt8.ofNat n) (by omega)
    rw [if_pos one]
    rwa [byte] at spelled
  by_cases two : n < 0x800
  · have number : n / 64 * 64 + n % 64 = n := by omega
    have spelled := Spells.two (x := n / 64) (y := n % 64) (toNat_byte (by omega))
      (toNat_byte (by omega)) (by omega) (by omega)
    rw [if_neg one, if_pos two]
    rwa [number] at spelled
  by_cases three : n < 0x10000
  · have number : n / 4096 * 4096 + n / 64 % 64 * 64 + n % 64 = n := by omega
    have spelled := Spells.three (x := n / 4096) (y := n / 64 % 64) (z := n % 64)
      (toNat_byte (by omega)) (toNat_byte (by omega)) (toNat_byte (by omega)) (by omega) (by omega)
    rw [if_neg one, if_neg two, if_pos three]
    rwa [number] at spelled
  · have number : n / 262144 * 262144 + n / 4096 % 64 * 4096 + n / 64 % 64 * 64 + n % 64 = n := by
      omega
    have spelled := Spells.four (x := n / 262144) (y := n / 4096 % 64) (z := n / 64 % 64)
      (w := n % 64) (toNat_byte (by omega)) (toNat_byte (by omega)) (toNat_byte (by omega))
      (toNat_byte (by omega)) (by omega) (by omega)
    rw [if_neg one, if_neg two, if_neg three]
    rwa [number] at spelled

/-- Well formed is what is written for characters. -/
theorem wellFormedUtf8_iff {bytes : List UInt8} :
    WellFormedUtf8 bytes ↔ ∃ cs : List Char, bytes = cs.flatMap utf8OfChar := by
  constructor
  · intro h
    induction h with
    | nil => exact ⟨[], rfl⟩
    | @cons sequence rest n spells valid _ ih =>
      obtain ⟨cs, rfl⟩ := ih
      refine ⟨Char.ofNat n :: cs, ?_⟩
      rw [List.flatMap_cons, utf8OfChar_of_spells spells valid]
  · rintro ⟨cs, rfl⟩
    induction cs with
    | nil => exact .nil
    | cons c cs ih => exact .cons (spells_utf8OfChar c) c.valid ih

/-! ### Reading -/

/-- The table of first bytes: how many bytes there are, and which second bytes keep the number
from being overlong, a surrogate or too large. -/
theorem sequenceForm?_cases {a : Nat} {form : SequenceForm} (h : sequenceForm? a = some form) :
    (form.length = 2 ∧ 0xc2 ≤ a ∧ a ≤ 0xdf ∧ 0x80 ≤ form.low ∧ form.high ≤ 0xbf) ∨
      (form.length = 3 ∧ 0xe0 ≤ a ∧ a ≤ 0xef ∧ 0x80 ≤ form.low ∧ form.high ≤ 0xbf ∧
        (a = 0xe0 → 0xa0 ≤ form.low) ∧ (a = 0xed → form.high ≤ 0x9f)) ∨
      (form.length = 4 ∧ 0xf0 ≤ a ∧ a ≤ 0xf4 ∧ 0x80 ≤ form.low ∧ form.high ≤ 0xbf ∧
        (a = 0xf0 → 0x90 ≤ form.low) ∧ (a = 0xf4 → form.high ≤ 0x8f)) := by
  simp only [sequenceForm?, Bool.and_eq_true, decide_eq_true_eq, beq_iff_eq] at h
  split_ifs at h <;> cases h <;> dsimp only <;> omega

/-- Characters read one after the other are written as they were. -/
theorem flatMap_of_map_eq_ok {ε : Type} {x : Except ε (List Char)} {sequence rest : List UInt8}
    {cs : List Char} {n : Nat} (read : x.map (Char.ofNat n :: ·) = .ok cs)
    (spells : Spells sequence n) (valid : n.isValidChar)
    (others : ∀ cs, x = .ok cs → cs.flatMap utf8OfChar = rest) :
    cs.flatMap utf8OfChar = sequence ++ rest := by
  obtain ⟨cs, found, rfl⟩ := Outcome.map_eq_ok.1 read
  rw [List.flatMap_cons, utf8OfChar_of_spells spells valid, others cs found]

/-- **What is read from bytes is written as those bytes.** -/
theorem flatMap_of_charsOfUtf8 {offset : Nat} {bytes : List UInt8} {cs : List Char}
    (h : charsOfUtf8 offset bytes = .ok cs) : cs.flatMap utf8OfChar = bytes := by
  fun_induction charsOfUtf8 offset bytes generalizing cs with
  | case1 =>
    cases h
    rfl
  | case2 offset a rest ascii ih =>
    exact flatMap_of_map_eq_ok h (.one ascii) (by omega) fun cs => ih
  | case6 offset a above form found b rest range two ih =>
    have forms := sequenceForm?_cases found
    simp only [Bool.or_eq_true, decide_eq_true_eq, not_or, Nat.not_lt] at range
    have bits : continuationBits b = b.toNat - 0x80 := rfl
    have spelled := Spells.two (a := a) (b := b) (x := a.toNat - 0xc0) (y := continuationBits b)
      (by omega) (by omega) (by omega) (by omega)
    exact flatMap_of_map_eq_ok h spelled (by omega) fun cs => ih
  | case9 offset a above form found b range notTwo c rest third three ih =>
    have forms := sequenceForm?_cases found
    simp only [Bool.or_eq_true, decide_eq_true_eq, not_or, Nat.not_lt] at range
    rw [Bool.not_eq_true', Bool.not_eq_false, isContinuation_iff] at third
    have bits : continuationBits b = b.toNat - 0x80 ∧ continuationBits c = c.toNat - 0x80 :=
      ⟨rfl, rfl⟩
    have spelled := Spells.three (a := a) (b := b) (c := c) (x := a.toNat - 0xe0)
      (y := continuationBits b) (z := continuationBits c) (by omega) (by omega) (by omega)
      (by omega) (by omega)
    exact flatMap_of_map_eq_ok h spelled (by omega) fun cs => ih
  | case12 offset a above form found b range notTwo c third notThree d rest fourth ih =>
    have forms := sequenceForm?_cases found
    simp only [Bool.or_eq_true, decide_eq_true_eq, not_or, Nat.not_lt] at range
    rw [Bool.not_eq_true', Bool.not_eq_false, isContinuation_iff] at third fourth
    have bits : continuationBits b = b.toNat - 0x80 ∧ continuationBits c = c.toNat - 0x80 ∧
        continuationBits d = d.toNat - 0x80 :=
      ⟨rfl, rfl, rfl⟩
    have spelled := Spells.four (a := a) (b := b) (c := c) (d := d) (x := a.toNat - 0xf0)
      (y := continuationBits b) (z := continuationBits c) (w := continuationBits d) (by omega)
      (by omega) (by omega) (by omega) (by omega) (by omega)
    exact flatMap_of_map_eq_ok h spelled (by omega) fun cs => ih
  | _ => cases h

/-- Reading succeeds exactly on what is well formed. -/
theorem exists_charsOfUtf8_iff (offset : Nat) {bytes : List UInt8} :
    (∃ cs, charsOfUtf8 offset bytes = .ok cs) ↔ WellFormedUtf8 bytes := by
  rw [wellFormedUtf8_iff]
  constructor
  · rintro ⟨cs, read⟩
    exact ⟨cs, (flatMap_of_charsOfUtf8 read).symm⟩
  · rintro ⟨cs, rfl⟩
    exact ⟨cs, charsOfUtf8_flatMap offset cs⟩

/-! ## UTF-16 -/

/-- The unit between the others is a high surrogate that no low one follows, or a low one that no
high one precedes. -/
def IsUnpaired (before : List Nat) (u : Nat) (after : List Nat) : Prop :=
  (isHighSurrogate u = true ∧ ∀ v ∈ after.head?, isLowSurrogate v = false) ∨
    (isLowSurrogate u = true ∧ ∀ v ∈ before.getLast?, isHighSurrogate v = false)

/-- One of the units is an unpaired surrogate. -/
def HasUnpaired (us : List Nat) : Prop :=
  ∃ before u after, us = before ++ u :: after ∧ IsUnpaired before u after

/-- No unit is a high and a low surrogate. -/
theorem isLowSurrogate_of_isHighSurrogate {u : Nat} (high : isHighSurrogate u = true) :
    isLowSurrogate u = false := by
  simp only [isHighSurrogate, Bool.and_eq_true, decide_eq_true_eq] at high
  simp only [isLowSurrogate, Bool.and_eq_false_iff, decide_eq_false_iff_not]
  omega

/-- What comes before does not matter, as long as it does not end in a high surrogate. -/
theorem isUnpaired_cons {w u : Nat} {before after : List Nat} (high : isHighSurrogate w = false) :
    IsUnpaired (w :: before) u after ↔ IsUnpaired before u after := by
  cases before with
  | nil => simp [IsUnpaired, high]
  | cons x before => simp only [IsUnpaired, List.getLast?_cons_cons]

theorem hasUnpaired_cons {u : Nat} {rest : List Nat} (high : isHighSurrogate u = false)
    (low : isLowSurrogate u = false) : HasUnpaired (u :: rest) ↔ HasUnpaired rest := by
  constructor
  · rintro ⟨before, w, after, split, unpaired⟩
    cases before with
    | nil =>
      cases split
      rcases unpaired with ⟨isHigh, _⟩ | ⟨isLow, _⟩
      · rw [high] at isHigh
        cases isHigh
      · rw [low] at isLow
        cases isLow
    | cons x before =>
      cases split
      exact ⟨before, w, after, rfl, (isUnpaired_cons high).1 unpaired⟩
  · rintro ⟨before, w, after, rfl, unpaired⟩
    exact ⟨u :: before, w, after, rfl, (isUnpaired_cons high).2 unpaired⟩

theorem hasUnpaired_pair {u v : Nat} {rest : List Nat} (high : isHighSurrogate u = true)
    (low : isLowSurrogate v = true) : HasUnpaired (u :: v :: rest) ↔ HasUnpaired rest := by
  have notLow := isLowSurrogate_of_isHighSurrogate high
  have notHigh : isHighSurrogate v = false := by
    rw [Bool.eq_false_iff]
    intro isHigh
    rw [isLowSurrogate_of_isHighSurrogate isHigh] at low
    cases low
  have passed : ∀ {before w after}, IsUnpaired (u :: v :: before) w after ↔
      IsUnpaired before w after := by
    intro before w after
    refine Iff.trans ?_ (isUnpaired_cons notHigh)
    simp only [IsUnpaired, List.getLast?_cons_cons]
  constructor
  · rintro ⟨before, w, after, split, unpaired⟩
    cases before with
    | nil =>
      cases split
      rcases unpaired with ⟨_, alone⟩ | ⟨isLow, _⟩
      · have paired := alone v rfl
        rw [low] at paired
        cases paired
      · rw [notLow] at isLow
        cases isLow
    | cons x before =>
      cases before with
      | nil =>
        cases split
        rcases unpaired with ⟨isHigh, _⟩ | ⟨_, alone⟩
        · rw [notHigh] at isHigh
          cases isHigh
        · have paired := alone u rfl
          rw [high] at paired
          cases paired
      | cons y before =>
        cases split
        exact ⟨before, w, after, rfl, passed.1 unpaired⟩
  · rintro ⟨before, w, after, rfl, unpaired⟩
    exact ⟨u :: v :: before, w, after, rfl, passed.2 unpaired⟩

/-- **Reading units fails exactly where a surrogate is unpaired.** -/
theorem exists_charsOfUnits_error_iff {us : List Nat} :
    (∃ u, charsOfUnits us = .error u) ↔ HasUnpaired us := by
  fun_induction charsOfUnits us with
  | case1 => simp [HasUnpaired]
  | case2 u high v rest low ih =>
    rw [hasUnpaired_pair high low, ← ih]
    simp only [Outcome.map_eq_error]
  | case3 u high v rest low =>
    have unpaired : IsUnpaired [] u (v :: rest) := .inl ⟨high, by simpa using low⟩
    exact iff_of_true ⟨u, rfl⟩ ⟨[], u, v :: rest, rfl, unpaired⟩
  | case4 u high =>
    have unpaired : IsUnpaired [] u [] := .inl ⟨high, nofun⟩
    exact iff_of_true ⟨u, rfl⟩ ⟨[], u, [], rfl, unpaired⟩
  | case5 u rest high low =>
    have unpaired : IsUnpaired [] u rest := .inr ⟨low, nofun⟩
    exact iff_of_true ⟨u, rfl⟩ ⟨[], u, rest, rfl, unpaired⟩
  | case6 u rest high low ih =>
    rw [hasUnpaired_cons (Bool.eq_false_iff.2 high) (Bool.eq_false_iff.2 low), ← ih]
    simp only [Outcome.map_eq_error]

/-- **What is read from units is written as those units.** -/
theorem flatMap_of_charsOfUnits {us : List Nat} {cs : List Char} (h : charsOfUnits us = .ok cs)
    (small : ∀ u ∈ us, u < 65536) : cs.flatMap unitsOfChar = us := by
  fun_induction charsOfUnits us generalizing cs with
  | case1 =>
    cases h
    rfl
  | case2 u high v rest low ih =>
    obtain ⟨cs, read, rfl⟩ := Outcome.map_eq_ok.1 h
    have others := ih read fun w member => small w (by simp [member])
    simp only [isHighSurrogate, Bool.and_eq_true, decide_eq_true_eq] at high
    simp only [isLowSurrogate, Bool.and_eq_true, decide_eq_true_eq] at low
    have units : unitsOfChar (Char.ofNat (0x10000 + (u - 0xd800) * 0x400 + (v - 0xdc00))) =
        [u, v] := by
      rw [unitsOfChar, toNat_ofNat (by omega), if_neg (by omega), List.cons.injEq, List.cons.injEq]
      exact ⟨by omega, by omega, rfl⟩
    rw [List.flatMap_cons, units, others]
    rfl
  | case6 u rest high low ih =>
    obtain ⟨cs, read, rfl⟩ := Outcome.map_eq_ok.1 h
    have others := ih read fun w member => small w (by simp [member])
    have bound := small u List.mem_cons_self
    simp only [isHighSurrogate, Bool.and_eq_true, decide_eq_true_eq] at high
    simp only [isLowSurrogate, Bool.and_eq_true, decide_eq_true_eq] at low
    have unit : unitsOfChar (Char.ofNat u) = [u] := by
      rw [unitsOfChar, toNat_ofNat (by omega), if_pos (by omega)]
    rw [List.flatMap_cons, unit, others]
    rfl
  | _ => cases h

section Units

variable {charset : Charset} {write : Nat → List UInt8} {join : UInt8 → UInt8 → Nat}
  {bytes : List UInt8}

/-- Units joined from pairs of bytes fit into two bytes, and are written as those pairs. -/
theorem flatMap_unitsOfBytes (pairs : ∀ a b, join a b < 65536 ∧ write (join a b) = [a, b])
    (even : bytes.length % 2 = 0) :
    (∀ u ∈ unitsOfBytes join bytes, u < 65536) ∧
      (unitsOfBytes join bytes).flatMap write = bytes := by
  fun_induction unitsOfBytes join bytes with
  | case1 a b rest ih =>
    have shorter : rest.length % 2 = 0 := by
      simp only [List.length_cons] at even
      omega
    obtain ⟨small, written⟩ := ih shorter
    refine ⟨List.forall_mem_cons.2 ⟨(pairs a b).1, small⟩, ?_⟩
    rw [List.flatMap_cons, (pairs a b).2, written]
    rfl
  | case2 bytes short =>
    match bytes, short, even with
    | [], _, _ => exact ⟨nofun, rfl⟩
    | a :: b :: rest, short, _ => exact (short a b rest rfl).elim

theorem decodeUnits_eq_ok {s : String} (h : charset.decodeUnits join bytes = .ok s) :
    bytes.length % 2 = 0 ∧ charsOfUnits (unitsOfBytes join bytes) = .ok s.toList := by
  rw [Charset.decodeUnits] at h
  split at h
  · cases h
  · rename_i even
    refine ⟨Decidable.not_not.1 even, ?_⟩
    split at h
    · rename_i cs read
      cases h
      rw [read, String.toList_ofList]
    · cases h

theorem exists_decodeUnits_error_iff :
    (∃ fault, charset.decodeUnits join bytes = .error fault) ↔
      bytes.length % 2 = 1 ∨ HasUnpaired (unitsOfBytes join bytes) := by
  rw [← exists_charsOfUnits_error_iff, Charset.decodeUnits]
  by_cases odd : bytes.length % 2 ≠ 0
  · rw [if_pos odd]
    exact iff_of_true ⟨_, rfl⟩ (.inl (by omega))
  · rw [if_neg odd]
    have even : ¬bytes.length % 2 = 1 := by omega
    cases charsOfUnits (unitsOfBytes join bytes) <;> simp [even]

/-- What is decoded from units of two bytes is encoded as those bytes. -/
theorem flatMap_of_decodeUnits (pairs : ∀ a b, join a b < 65536 ∧ write (join a b) = [a, b])
    {s : String} (h : charset.decodeUnits join bytes = .ok s) :
    (s.toList.flatMap unitsOfChar).flatMap write = bytes := by
  obtain ⟨even, read⟩ := decodeUnits_eq_ok h
  obtain ⟨small, written⟩ := flatMap_unitsOfBytes pairs even
  rw [flatMap_of_charsOfUnits read small, written]

end Units

theorem bytesOfUnitLe_join (a b : UInt8) :
    a.toNat + 256 * b.toNat < 65536 ∧ bytesOfUnitLe (a.toNat + 256 * b.toNat) = [a, b] := by
  have low := a.toNat_lt
  have high := b.toNat_lt
  have first : (a.toNat + 256 * b.toNat) % 256 = a.toNat := by omega
  have second : (a.toNat + 256 * b.toNat) / 256 = b.toNat := by omega
  refine ⟨by omega, ?_⟩
  rw [bytesOfUnitLe, first, second, UInt8.ofNat_toNat, UInt8.ofNat_toNat]

theorem bytesOfUnitBe_join (a b : UInt8) :
    256 * a.toNat + b.toNat < 65536 ∧ bytesOfUnitBe (256 * a.toNat + b.toNat) = [a, b] := by
  have high := a.toNat_lt
  have low := b.toNat_lt
  have first : (256 * a.toNat + b.toNat) / 256 = a.toNat := by omega
  have second : (256 * a.toNat + b.toNat) % 256 = b.toNat := by omega
  refine ⟨by omega, ?_⟩
  rw [bytesOfUnitBe, first, second, UInt8.ofNat_toNat, UInt8.ofNat_toNat]

/-! ## Latin-1 -/

/-- The byte of a character of Latin-1. -/
theorem mapM_latin1_eq_none_iff {cs : List Char} :
    cs.mapM (fun c => if c.toNat < 256 then some (UInt8.ofNat c.toNat) else none) = none ↔
      ∃ c ∈ cs, 0xff < c.toNat := by
  induction cs with
  | nil => simp
  | cons c cs ih =>
    rw [List.mapM_cons]
    by_cases small : c.toNat < 256
    · have inside : ¬0xff < c.toNat := by omega
      rw [if_pos small]
      simp only [Option.bind_eq_bind, Option.bind_some, Option.bind_eq_none_iff, Option.pure_def,
        reduceCtorEq, List.exists_mem_cons_iff, inside, false_or, ← ih]
      exact ⟨fun h => Option.eq_none_iff_forall_ne_some.2 fun bytes found => h bytes found,
        fun h bytes found => by rw [h] at found; cases found⟩
    · rw [if_neg small]
      exact iff_of_true rfl ⟨c, List.mem_cons_self, by omega⟩

theorem mapM_latin1_map (bytes : List UInt8) :
    (bytes.map fun b => Char.ofNat b.toNat).mapM
        (fun c => if c.toNat < 256 then some (UInt8.ofNat c.toNat) else none) = some bytes := by
  induction bytes with
  | nil => rfl
  | cons b bytes ih =>
    have bound := b.toNat_lt
    have number : (Char.ofNat b.toNat).toNat = b.toNat := toNat_ofNat (.inl (by omega))
    rw [List.map_cons, List.mapM_cons, number, if_pos bound, UInt8.ofNat_toNat, ih]
    rfl

/-! ## All character sets -/

namespace Charset

/-- **What is decoded is encoded as the same bytes.** -/
theorem encode?_of_decode {charset : Charset} {s : String} {bytes : List UInt8}
    (h : charset.decode bytes = .ok s) : charset.encode? s = some bytes := by
  cases charset with
  | utf8 =>
    rw [decode] at h
    split at h
    · rename_i cs read
      cases h
      rw [encode?, Text.utf8, String.toList_ofList, flatMap_of_charsOfUtf8 read]
    · cases h
  | utf16Le => exact congrArg some (flatMap_of_decodeUnits bytesOfUnitLe_join h)
  | utf16Be => exact congrArg some (flatMap_of_decodeUnits bytesOfUnitBe_join h)
  | latin1 =>
    cases h
    rw [encode?, String.toList_ofList, mapM_latin1_map]

/-- The bytes are no text of the character set. -/
def Malformed : Charset → List UInt8 → Prop
  | utf8, bytes => ¬WellFormedUtf8 bytes
  | utf16Le, bytes =>
    bytes.length % 2 = 1 ∨ HasUnpaired (unitsOfBytes (fun a b => a.toNat + 256 * b.toNat) bytes)
  | utf16Be, bytes =>
    bytes.length % 2 = 1 ∨ HasUnpaired (unitsOfBytes (fun a b => 256 * a.toNat + b.toNat) bytes)
  | latin1, _ => False

theorem exists_decode_error_iff {charset : Charset} {bytes : List UInt8} :
    (∃ fault, charset.decode bytes = .error fault) ↔ charset.Malformed bytes := by
  cases charset with
  | utf8 =>
    show _ ↔ ¬WellFormedUtf8 bytes
    rw [← exists_charsOfUtf8_iff 0, decode]
    cases charsOfUtf8 0 bytes <;> simp
  | utf16Le => exact exists_decodeUnits_error_iff
  | utf16Be => exact exists_decodeUnits_error_iff
  | latin1 => exact iff_of_false (by simp [decode]) id

theorem encode?_eq_none_iff {charset : Charset} {s : String} :
    charset.encode? s = none ↔ charset = latin1 ∧ ∃ c ∈ s.toList, 0xff < c.toNat := by
  cases charset with
  | latin1 => simpa [encode?] using mapM_latin1_eq_none_iff
  | _ => simp [encode?]

/-- **Encoding and decoding are inverse over the whole of each character set:** a text is encoded as
bytes exactly when the bytes are decoded as the text. Encoding fails only in Latin-1, on a
character above U+00FF; decoding fails exactly on what is malformed: on bytes that are not
well-formed UTF-8, on an odd number of bytes or an unpaired surrogate in UTF-16, and never in
Latin-1. -/
theorem encode_decode (charset : Charset) :
    (∀ s bytes, charset.encode? s = some bytes ↔ charset.decode bytes = .ok s) ∧
      (∀ s, charset.encode? s = none ↔ charset = latin1 ∧ ∃ c ∈ s.toList, 0xff < c.toNat) ∧
      ∀ bytes, (∃ fault, charset.decode bytes = .error fault) ↔ charset.Malformed bytes :=
  ⟨fun _ _ => ⟨decode_of_encode?, encode?_of_decode⟩, fun _ => encode?_eq_none_iff,
    fun _ => exists_decode_error_iff⟩

end Charset

end EntitySql.Text
