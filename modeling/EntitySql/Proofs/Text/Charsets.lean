import EntitySql.Text.Charset

/-!
# Character sets read back what they write

Every text that a character set can write is read back from its bytes, character by character
(`Charset.decode_of_encode?`).

**UTF-16.** A character is one unit or a pair; a unit is two bytes, in either order.

**UTF-8.** The first byte of a sequence says how long it is and what its second byte may be. The
bytes written for a character keep to that, so the reader takes them as one sequence.

**Latin-1.** A byte is the character of its number.
-/

namespace EntitySql.Text

set_option autoImplicit false

/-- Characters are below the surrogates or above them. -/
theorem toNat_cases (c : Char) :
    c.toNat < 0xd800 ∨ 0xdfff < c.toNat ∧ c.toNat < 0x110000 :=
  c.valid

/-- A number below 256 is the number of its byte. -/
theorem toNat_byte {n : Nat} (small : n < 256) : (UInt8.ofNat n).toNat = n := by
  rw [UInt8.toNat_ofNat']
  omega

/-! ## UTF-16 -/

theorem charsOfUnits_cons {u : Nat} {rest : List Nat} (high : isHighSurrogate u = false)
    (low : isLowSurrogate u = false) :
    charsOfUnits (u :: rest) = (charsOfUnits rest).map (Char.ofNat u :: ·) := by
  rw [charsOfUnits.eq_def]
  simp only [high, low, Bool.false_eq_true, if_false]

theorem charsOfUnits_pair {u v : Nat} {rest : List Nat} (high : isHighSurrogate u = true)
    (low : isLowSurrogate v = true) :
    charsOfUnits (u :: v :: rest) =
      (charsOfUnits rest).map
        (Char.ofNat (0x10000 + (u - 0xd800) * 0x400 + (v - 0xdc00)) :: ·) := by
  rw [charsOfUnits.eq_def]
  simp only [high, low, if_true]

/-- The units of a character are read as that character. -/
theorem charsOfUnits_append (c : Char) (rest : List Nat) :
    charsOfUnits (unitsOfChar c ++ rest) = (charsOfUnits rest).map (c :: ·) := by
  have valid := toNat_cases c
  by_cases single : c.toNat < 0x10000
  · have notHigh : isHighSurrogate c.toNat = false := by
      simp only [isHighSurrogate, Bool.and_eq_false_iff, decide_eq_false_iff_not]
      omega
    have notLow : isLowSurrogate c.toNat = false := by
      simp only [isLowSurrogate, Bool.and_eq_false_iff, decide_eq_false_iff_not]
      omega
    rw [unitsOfChar, if_pos single, List.cons_append, List.nil_append,
      charsOfUnits_cons notHigh notLow, Char.ofNat_toNat]
  · have high : isHighSurrogate (0xd800 + (c.toNat - 0x10000) / 0x400) = true := by
      simp only [isHighSurrogate, Bool.and_eq_true, decide_eq_true_eq]
      omega
    have low : isLowSurrogate (0xdc00 + (c.toNat - 0x10000) % 0x400) = true := by
      simp only [isLowSurrogate, Bool.and_eq_true, decide_eq_true_eq]
      omega
    have joined : 0x10000 + (0xd800 + (c.toNat - 0x10000) / 0x400 - 0xd800) * 0x400 +
        (0xdc00 + (c.toNat - 0x10000) % 0x400 - 0xdc00) = c.toNat := by
      omega
    rw [unitsOfChar, if_neg single, List.cons_append, List.cons_append, List.nil_append,
      charsOfUnits_pair high low, joined, Char.ofNat_toNat]

theorem charsOfUnits_flatMap (cs : List Char) : charsOfUnits (cs.flatMap unitsOfChar) = .ok cs := by
  induction cs with
  | nil => rfl
  | cons c cs ih =>
    rw [List.flatMap_cons, charsOfUnits_append, ih]
    rfl

/-- Units fit into two bytes. -/
theorem unit_lt {c : Char} {u : Nat} (member : u ∈ unitsOfChar c) : u < 65536 := by
  have valid := toNat_cases c
  by_cases single : c.toNat < 0x10000
  · rw [unitsOfChar, if_pos single, List.mem_singleton] at member
    omega
  · rw [unitsOfChar, if_neg single, List.mem_cons, List.mem_singleton] at member
    rcases member with high | low <;> omega

/-- Two bytes written for each unit are joined to that unit again. -/
theorem unitsOfBytes_flatMap {write : Nat → List UInt8} {join : UInt8 → UInt8 → Nat}
    (pairs : ∀ u, u < 65536 → ∃ a b, write u = [a, b] ∧ join a b = u) {us : List Nat}
    (small : ∀ u ∈ us, u < 65536) :
    unitsOfBytes join (us.flatMap write) = us ∧ (us.flatMap write).length % 2 = 0 := by
  induction us with
  | nil => exact ⟨rfl, rfl⟩
  | cons u us ih =>
    obtain ⟨a, b, written, joined⟩ := pairs u (small u List.mem_cons_self)
    obtain ⟨others, even⟩ := ih fun v member => small v (List.mem_cons_of_mem _ member)
    rw [List.flatMap_cons, written, List.cons_append, List.cons_append, List.nil_append]
    refine ⟨by rw [unitsOfBytes, joined, others], ?_⟩
    simp only [List.length_cons]
    omega

theorem bytesOfUnitLe_joined {u : Nat} (small : u < 65536) :
    ∃ a b, bytesOfUnitLe u = [a, b] ∧ a.toNat + 256 * b.toNat = u := by
  refine ⟨_, _, rfl, ?_⟩
  rw [toNat_byte (by omega), toNat_byte (by omega)]
  omega

theorem bytesOfUnitBe_joined {u : Nat} (small : u < 65536) :
    ∃ a b, bytesOfUnitBe u = [a, b] ∧ 256 * a.toNat + b.toNat = u := by
  refine ⟨_, _, rfl, ?_⟩
  rw [toNat_byte (by omega), toNat_byte (by omega)]
  omega

/-- A text written in units of two bytes is read back. -/
theorem decodeUnits_flatMap {charset : Charset} {write : Nat → List UInt8}
    {join : UInt8 → UInt8 → Nat}
    (pairs : ∀ u, u < 65536 → ∃ a b, write u = [a, b] ∧ join a b = u) (s : String) :
    charset.decodeUnits join ((s.toList.flatMap unitsOfChar).flatMap write) = .ok s := by
  have small : ∀ u ∈ s.toList.flatMap unitsOfChar, u < 65536 := by
    intro u member
    obtain ⟨c, _, of⟩ := List.mem_flatMap.1 member
    exact unit_lt of
  obtain ⟨units, even⟩ := unitsOfBytes_flatMap pairs small
  rw [Charset.decodeUnits, if_neg (not_not_intro even), units, charsOfUnits_flatMap]
  exact congrArg Except.ok String.ofList_toList

/-! ## UTF-8 -/

section Sequences

variable {offset low high : Nat} {b c d e : UInt8} {rest : List UInt8}

theorem charsOfUtf8_one (ascii : b.toNat < 0x80) :
    charsOfUtf8 offset (b :: rest) =
      (charsOfUtf8 (offset + 1) rest).map (Char.ofNat b.toNat :: ·) := by
  rw [charsOfUtf8.eq_def]
  simp only [ascii, if_true]

theorem charsOfUtf8_two (lead : 0x80 ≤ b.toNat)
    (form : sequenceForm? b.toNat = some ⟨2, low, high⟩)
    (second : low ≤ c.toNat ∧ c.toNat ≤ high) :
    charsOfUtf8 offset (b :: c :: rest) = (charsOfUtf8 (offset + 2) rest).map
      (Char.ofNat ((b.toNat - 0xc0) * 64 + continuationBits c) :: ·) := by
  have inRange : (decide (c.toNat < low) || decide (high < c.toNat)) = false := by
    simp only [Bool.or_eq_false_iff, decide_eq_false_iff_not]
    omega
  rw [charsOfUtf8.eq_def]
  simp [Nat.not_lt.2 lead, form, inRange]

theorem charsOfUtf8_three (lead : 0x80 ≤ b.toNat)
    (form : sequenceForm? b.toNat = some ⟨3, low, high⟩)
    (second : low ≤ c.toNat ∧ c.toNat ≤ high) (third : isContinuation d = true) :
    charsOfUtf8 offset (b :: c :: d :: rest) = (charsOfUtf8 (offset + 3) rest).map
      (Char.ofNat ((b.toNat - 0xe0) * 4096 + continuationBits c * 64 +
        continuationBits d) :: ·) := by
  have inRange : (decide (c.toNat < low) || decide (high < c.toNat)) = false := by
    simp only [Bool.or_eq_false_iff, decide_eq_false_iff_not]
    omega
  rw [charsOfUtf8.eq_def]
  simp [Nat.not_lt.2 lead, form, inRange, third]

theorem charsOfUtf8_four (lead : 0x80 ≤ b.toNat)
    (form : sequenceForm? b.toNat = some ⟨4, low, high⟩)
    (second : low ≤ c.toNat ∧ c.toNat ≤ high) (third : isContinuation d = true)
    (fourth : isContinuation e = true) :
    charsOfUtf8 offset (b :: c :: d :: e :: rest) = (charsOfUtf8 (offset + 4) rest).map
      (Char.ofNat ((b.toNat - 0xf0) * 262144 + continuationBits c * 4096 +
        continuationBits d * 64 + continuationBits e) :: ·) := by
  have inRange : (decide (c.toNat < low) || decide (high < c.toNat)) = false := by
    simp only [Bool.or_eq_false_iff, decide_eq_false_iff_not]
    omega
  rw [charsOfUtf8.eq_def]
  simp [Nat.not_lt.2 lead, form, inRange, third, fourth]

end Sequences

theorem isContinuation_iff {b : UInt8} :
    isContinuation b = true ↔ 0x80 ≤ b.toNat ∧ b.toNat ≤ 0xbf := by
  rw [isContinuation, Bool.and_eq_true, decide_eq_true_eq, decide_eq_true_eq]

/-- A byte with six bits continues a sequence and carries them. -/
theorem continuation_byte {n : Nat} (small : n < 64) :
    isContinuation (UInt8.ofNat (0x80 + n)) = true ∧
      continuationBits (UInt8.ofNat (0x80 + n)) = n := by
  have byte : (UInt8.ofNat (0x80 + n)).toNat = 0x80 + n := toNat_byte (by omega)
  constructor
  · rw [isContinuation_iff]
    omega
  · show (UInt8.ofNat (0x80 + n)).toNat - 0x80 = n
    omega

/-- The lead of two bytes. -/
theorem sequenceForm?_two {b : Nat} (low : 0xc2 ≤ b) (high : b ≤ 0xdf) :
    sequenceForm? b = some ⟨2, 0x80, 0xbf⟩ := by
  simp [sequenceForm?, low, high]

/-- The lead of three bytes admits the second byte of every character but the surrogates. -/
theorem sequenceForm?_three {n : Nat} (least : 0x800 ≤ n) (most : n < 0x10000)
    (valid : n < 0xd800 ∨ 0xdfff < n) :
    ∃ low high, sequenceForm? (0xe0 + n / 4096) = some ⟨3, low, high⟩ ∧
      low ≤ 0x80 + n / 64 % 64 ∧ 0x80 + n / 64 % 64 ≤ high := by
  have lead : n / 4096 = 0 ∨ n / 4096 = 13 ∨
      n / 4096 ≠ 0 ∧ n / 4096 ≠ 13 ∧ n / 4096 < 16 := by
    omega
  rcases lead with overlong | surrogate | ⟨notOverlong, notSurrogate, small⟩
  · exact ⟨0xa0, 0xbf, by rw [overlong]; rfl, by omega, by omega⟩
  · exact ⟨0x80, 0x9f, by rw [surrogate]; rfl, by omega, by omega⟩
  · refine ⟨0x80, 0xbf, ?_, by omega, by omega⟩
    generalize n / 4096 = q at notOverlong notSurrogate small
    revert notOverlong notSurrogate
    revert q
    decide

/-- The lead of four bytes admits the second byte of every character. -/
theorem sequenceForm?_four {n : Nat} (least : 0x10000 ≤ n) (most : n < 0x110000) :
    ∃ low high, sequenceForm? (0xf0 + n / 262144) = some ⟨4, low, high⟩ ∧
      low ≤ 0x80 + n / 4096 % 64 ∧ 0x80 + n / 4096 % 64 ≤ high := by
  have lead : n / 262144 = 0 ∨ n / 262144 = 4 ∨
      n / 262144 ≠ 0 ∧ n / 262144 < 4 := by
    omega
  rcases lead with overlong | last | ⟨notOverlong, small⟩
  · exact ⟨0x90, 0xbf, by rw [overlong]; rfl, by omega, by omega⟩
  · exact ⟨0x80, 0x8f, by rw [last]; rfl, by omega, by omega⟩
  · refine ⟨0x80, 0xbf, ?_, by omega, by omega⟩
    generalize n / 262144 = q at notOverlong small
    revert notOverlong
    revert q
    decide

section Characters

variable (offset : Nat) {c : Char} (rest : List UInt8)

theorem charsOfUtf8_oneByte (one : c.toNat < 0x80) :
    charsOfUtf8 offset (utf8OfChar c ++ rest) = (charsOfUtf8 (offset + 1) rest).map (c :: ·) := by
  have byte : (UInt8.ofNat c.toNat).toNat = c.toNat := toNat_byte (by omega)
  rw [utf8OfChar, if_pos one, List.cons_append, List.nil_append,
    charsOfUtf8_one (by omega), byte, Char.ofNat_toNat]

theorem charsOfUtf8_twoBytes (notOne : ¬c.toNat < 0x80) (two : c.toNat < 0x800) :
    charsOfUtf8 offset (utf8OfChar c ++ rest) = (charsOfUtf8 (offset + 2) rest).map (c :: ·) := by
  have lead : (UInt8.ofNat (0xc0 + c.toNat / 64)).toNat = 0xc0 + c.toNat / 64 :=
    toNat_byte (by omega)
  have second : (UInt8.ofNat (0x80 + c.toNat % 64)).toNat = 0x80 + c.toNat % 64 :=
    toNat_byte (by omega)
  have bits := (continuation_byte (n := c.toNat % 64) (by omega)).2
  have form := sequenceForm?_two (b := 0xc0 + c.toNat / 64) (by omega) (by omega)
  have number : (0xc0 + c.toNat / 64 - 0xc0) * 64 + c.toNat % 64 = c.toNat := by omega
  rw [utf8OfChar, if_neg notOne, if_pos two, List.cons_append, List.cons_append, List.nil_append,
    charsOfUtf8_two (by omega) (lead ▸ form) (by omega), lead, bits, number, Char.ofNat_toNat]

theorem charsOfUtf8_threeBytes (notTwo : ¬c.toNat < 0x800) (three : c.toNat < 0x10000) :
    charsOfUtf8 offset (utf8OfChar c ++ rest) = (charsOfUtf8 (offset + 3) rest).map (c :: ·) := by
  have valid := toNat_cases c
  have notOne : ¬c.toNat < 0x80 := by omega
  have lead : (UInt8.ofNat (0xe0 + c.toNat / 4096)).toNat = 0xe0 + c.toNat / 4096 :=
    toNat_byte (by omega)
  have second : (UInt8.ofNat (0x80 + c.toNat / 64 % 64)).toNat = 0x80 + c.toNat / 64 % 64 :=
    toNat_byte (by omega)
  have middle := (continuation_byte (n := c.toNat / 64 % 64) (by omega)).2
  have last := continuation_byte (n := c.toNat % 64) (by omega)
  obtain ⟨low, high, form, least, most⟩ :=
    sequenceForm?_three (n := c.toNat) (by omega) three (by omega)
  have number : (0xe0 + c.toNat / 4096 - 0xe0) * 4096 + c.toNat / 64 % 64 * 64 +
      c.toNat % 64 = c.toNat := by
    omega
  rw [utf8OfChar, if_neg notOne, if_neg notTwo, if_pos three, List.cons_append, List.cons_append,
    List.cons_append, List.nil_append,
    charsOfUtf8_three (by omega) (lead ▸ form) (by omega) last.1, lead, middle, last.2, number,
    Char.ofNat_toNat]

theorem charsOfUtf8_fourBytes (notThree : ¬c.toNat < 0x10000) :
    charsOfUtf8 offset (utf8OfChar c ++ rest) = (charsOfUtf8 (offset + 4) rest).map (c :: ·) := by
  have valid := toNat_cases c
  have notOne : ¬c.toNat < 0x80 := by omega
  have notTwo : ¬c.toNat < 0x800 := by omega
  have lead : (UInt8.ofNat (0xf0 + c.toNat / 262144)).toNat = 0xf0 + c.toNat / 262144 :=
    toNat_byte (by omega)
  have second :
      (UInt8.ofNat (0x80 + c.toNat / 4096 % 64)).toNat = 0x80 + c.toNat / 4096 % 64 :=
    toNat_byte (by omega)
  have middle := (continuation_byte (n := c.toNat / 4096 % 64) (by omega)).2
  have third := continuation_byte (n := c.toNat / 64 % 64) (by omega)
  have last := continuation_byte (n := c.toNat % 64) (by omega)
  obtain ⟨low, high, form, least, most⟩ :=
    sequenceForm?_four (n := c.toNat) (by omega) (by omega)
  have number : (0xf0 + c.toNat / 262144 - 0xf0) * 262144 + c.toNat / 4096 % 64 * 4096 +
      c.toNat / 64 % 64 * 64 + c.toNat % 64 = c.toNat := by
    omega
  rw [utf8OfChar, if_neg notOne, if_neg notTwo, if_neg notThree, List.cons_append,
    List.cons_append, List.cons_append, List.cons_append, List.nil_append,
    charsOfUtf8_four (by omega) (lead ▸ form) (by omega) third.1 last.1, lead, middle, third.2,
    last.2, number, Char.ofNat_toNat]

/-- The bytes of a character are read as that character. -/
theorem charsOfUtf8_append (c : Char) :
    ∃ next, charsOfUtf8 offset (utf8OfChar c ++ rest) =
      (charsOfUtf8 next rest).map (c :: ·) := by
  by_cases one : c.toNat < 0x80
  · exact ⟨offset + 1, charsOfUtf8_oneByte offset rest one⟩
  by_cases two : c.toNat < 0x800
  · exact ⟨offset + 2, charsOfUtf8_twoBytes offset rest one two⟩
  by_cases three : c.toNat < 0x10000
  · exact ⟨offset + 3, charsOfUtf8_threeBytes offset rest two three⟩
  · exact ⟨offset + 4, charsOfUtf8_fourBytes offset rest three⟩

end Characters

theorem charsOfUtf8_flatMap (offset : Nat) (cs : List Char) :
    charsOfUtf8 offset (cs.flatMap utf8OfChar) = .ok cs := by
  induction cs generalizing offset with
  | nil => rfl
  | cons c cs ih =>
    obtain ⟨next, read⟩ := charsOfUtf8_append offset (cs.flatMap utf8OfChar) c
    rw [List.flatMap_cons, read, ih next]
    rfl

/-! ## Latin-1 -/

/-- The bytes of a text of Latin-1 are the numbers of its characters. -/
theorem map_ofNat_of_mapM {cs : List Char} {bytes : List UInt8}
    (h : cs.mapM (fun c => if c.toNat < 256 then some (UInt8.ofNat c.toNat) else none) =
      some bytes) :
    bytes.map (fun b => Char.ofNat b.toNat) = cs := by
  induction cs generalizing bytes with
  | nil =>
    cases h
    rfl
  | cons c cs ih =>
    rw [List.mapM_cons] at h
    by_cases small : c.toNat < 256
    · rw [if_pos small] at h
      simp only [Option.bind_eq_bind, Option.bind_some, Option.bind_eq_some_iff, Option.pure_def,
        Option.some.injEq] at h
      obtain ⟨others, read, rfl⟩ := h
      rw [List.map_cons, ih read, toNat_byte small, Char.ofNat_toNat]
    · rw [if_neg small] at h
      cases h

/-! ## All character sets -/

/-- **Every text that a character set can write is read back from its bytes.** -/
theorem Charset.decode_of_encode? {charset : Charset} {s : String} {bytes : List UInt8}
    (h : charset.encode? s = some bytes) : charset.decode bytes = .ok s := by
  cases charset with
  | utf8 =>
    cases h
    rw [Charset.decode, Text.utf8, charsOfUtf8_flatMap]
    exact congrArg Except.ok String.ofList_toList
  | utf16Le =>
    cases h
    exact decodeUnits_flatMap (fun _ => bytesOfUnitLe_joined) s
  | utf16Be =>
    cases h
    exact decodeUnits_flatMap (fun _ => bytesOfUnitBe_joined) s
  | latin1 =>
    rw [Charset.decode, map_ofNat_of_mapM h, String.ofList_toList]

end EntitySql.Text
