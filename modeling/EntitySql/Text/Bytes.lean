import EntitySql.Text.Blank
import EntitySql.Text.Charset

/-!
# Texts measured in bytes

Lengths count the bytes of the UTF-8 form. A cut after a number of bytes is possible only
between two characters.

**Truncation.** A text that is too long is cut at the last boundary of characters up to the limit,
which is looked for backwards, byte by byte. The start of a text is a boundary, so the search ends
there at the latest, and a cut at a boundary is possible (`isSome_truncate?`).
-/

namespace EntitySql.Text

set_option autoImplicit false

/-- How many bytes the characters take in UTF-8. -/
def byteLength : List Char → Nat
  | [] => 0
  | c :: rest => c.utf8Size + byteLength rest

/-- The position after `n` bytes is inside a character. -/
def cutsCharacter (n : Nat) : List Char → Bool
  | [] => false
  | c :: rest =>
    if n = 0 then false
    else if n < c.utf8Size then true
    else cutsCharacter (n - c.utf8Size) rest

/-- The characters of the first bytes, and the others; nothing where no character ends there. -/
def splitBytes? : List Char → Nat → Option (List Char × List Char)
  | cs, 0 => some ([], cs)
  | [], _ + 1 => none
  | c :: rest, n + 1 =>
    if n + 1 < c.utf8Size then none
    else (splitBytes? rest (n + 1 - c.utf8Size)).map fun parts => (c :: parts.1, parts.2)

/-! ## Truncation -/

/-- The position after `n` bytes is the start or the end of the text, or a character starts
there. -/
def isBoundary (bytes : List UInt8) (n : Nat) : Bool :=
  n == 0 || n == bytes.length || bytes[n]?.any fun b => !isContinuation b

/-- The last boundary up to a position, from which the search goes back byte by byte; nothing if it
passes the start. -/
def lastBoundary? (bytes : List UInt8) : Nat → Option Nat
  | 0 => if isBoundary bytes 0 then some 0 else none
  | n + 1 => if isBoundary bytes (n + 1) then some (n + 1) else lastBoundary? bytes n

/-- The text cut to at most `n` bytes; nothing if no boundary is found, or none is there after
all. -/
def truncate? (s : String) (n : Nat) : Option String :=
  let bytes := utf8 s
  if bytes.length ≤ n then some s
  else do
    let last ← lastBoundary? bytes n
    let (shown, _) ← splitBytes? s.toList last
    return String.ofList shown

theorem length_utf8OfChar (c : Char) : (utf8OfChar c).length = c.utf8Size := by
  have size : c.utf8Size = if c.toNat < 0x80 then 1 else if c.toNat < 0x800 then 2
      else if c.toNat < 0x10000 then 3 else 4 := by
    simp only [Char.utf8Size, UInt32.le_iff_toNat_le, ← Nat.lt_succ_iff]
    rfl
  rw [size, utf8OfChar]
  simp only [apply_ite List.length, List.length_cons, List.length_nil]

/-- The bytes of a character after its first one continue it. -/
theorem isContinuation_of_mem_tail {c : Char} {b : UInt8} (h : b ∈ (utf8OfChar c).tail) :
    isContinuation b = true := by
  have sixBits (n : Nat) : isContinuation (UInt8.ofNat (0x80 + n % 64)) = true := by
    have byte : (UInt8.ofNat (0x80 + n % 64)).toNat = 0x80 + n % 64 := by
      rw [UInt8.toNat_ofNat']
      omega
    simp only [isContinuation, byte, Bool.and_eq_true, decide_eq_true_eq]
    omega
  unfold utf8OfChar at h
  dsimp only at h
  split at h
  · cases h
  split at h
  · obtain rfl := List.mem_singleton.1 h
    exact sixBits _
  split at h
  · simp only [List.tail_cons, List.mem_cons, List.not_mem_nil, or_false] at h
    rcases h with rfl | rfl <;> exact sixBits _
  · simp only [List.tail_cons, List.mem_cons, List.not_mem_nil, or_false] at h
    rcases h with rfl | rfl | rfl <;> exact sixBits _

/-- No boundary is inside a character. -/
theorem isBoundary_inside {c : Char} {rest : List UInt8} {n : Nat} (behindStart : n ≠ 0)
    (inside : n < c.utf8Size) : isBoundary (utf8OfChar c ++ rest) n = false := by
  have length := length_utf8OfChar c
  obtain ⟨n, rfl⟩ := Nat.exists_eq_succ_of_ne_zero behindStart
  obtain ⟨b, found⟩ : ∃ b, (utf8OfChar c).tail[n]? = some b :=
    ⟨_, List.getElem?_eq_getElem (by rw [List.length_tail]; omega)⟩
  have continues := isContinuation_of_mem_tail (List.mem_of_getElem? found)
  rw [List.getElem?_tail] at found
  rw [isBoundary, List.getElem?_append_left (by omega), found, List.length_append]
  simp only [Bool.or_eq_false_iff, beq_eq_false_iff_ne, Option.any_some, continues]
  exact ⟨⟨behindStart, by omega⟩, rfl⟩

/-- Behind its first part, the boundaries of a text are those of the rest. -/
theorem isBoundary_rest (first : List UInt8) {rest : List UInt8} {n : Nat}
    (boundary : isBoundary (first ++ rest) (first.length + n) = true) :
    isBoundary rest n = true := by
  rw [isBoundary, List.getElem?_append_right (Nat.le_add_right _ _), Nat.add_sub_cancel_left,
    List.length_append] at boundary
  simp only [isBoundary, Bool.or_eq_true, beq_iff_eq] at boundary ⊢
  rcases boundary with (start | stop) | first
  · exact .inl (.inl (by omega))
  · exact .inl (.inr (by omega))
  · exact .inr first

/-- **At a boundary a text can be cut.** -/
theorem isSome_splitBytes? {cs : List Char} {n : Nat}
    (boundary : isBoundary (cs.flatMap utf8OfChar) n = true) :
    (splitBytes? cs n).isSome = true := by
  induction cs generalizing n with
  | nil =>
    cases n with
    | zero => rfl
    | succ n => simp [isBoundary] at boundary
  | cons c cs ih =>
    cases n with
    | zero => rfl
    | succ n =>
      rw [List.flatMap_cons] at boundary
      have outside : ¬n + 1 < c.utf8Size := fun inside =>
        Bool.false_ne_true ((isBoundary_inside (Nat.succ_ne_zero n) inside).symm.trans boundary)
      rw [splitBytes?, if_neg outside, Option.isSome_map]
      refine ih (isBoundary_rest (utf8OfChar c) ?_)
      rwa [length_utf8OfChar, Nat.add_sub_cancel' (Nat.le_of_not_lt outside)]

/-- **The search finds the last boundary.** -/
theorem exists_lastBoundary? (bytes : List UInt8) (n : Nat) :
    ∃ m, lastBoundary? bytes n = some m ∧ isBoundary bytes m = true ∧ m ≤ n ∧
      ∀ k ≤ n, isBoundary bytes k = true → k ≤ m := by
  induction n with
  | zero => exact ⟨0, rfl, rfl, Nat.le_refl 0, fun k le _ => le⟩
  | succ n ih =>
    by_cases here : isBoundary bytes (n + 1) = true
    · exact ⟨n + 1, if_pos here, here, Nat.le_refl _, fun k le _ => le⟩
    · obtain ⟨m, found, boundary, before, last⟩ := ih
      refine ⟨m, (if_neg here).trans found, boundary, Nat.le_succ_of_le before, ?_⟩
      intro k le boundary
      rcases Nat.lt_or_eq_of_le le with lt | rfl
      · exact last k (Nat.le_of_lt_succ lt) boundary
      · exact absurd boundary here

/-- A text is cut or kept. -/
theorem isSome_truncate? (s : String) (n : Nat) : (truncate? s n).isSome = true := by
  obtain ⟨last, found, boundary, -⟩ := exists_lastBoundary? (utf8 s) n
  obtain ⟨parts, cut⟩ := Option.isSome_iff_exists.1 (isSome_splitBytes? boundary)
  unfold truncate?
  dsimp only
  split
  · rfl
  · rw [found]
    show ((splitBytes? s.toList last).bind _).isSome = true
    rw [cut]
    rfl

/-- The text cut to at most `n` bytes. -/
def truncate (s : String) (n : Nat) : String := (truncate? s n).get (isSome_truncate? s n)

/-- How many bytes of a long text are shown. -/
def shownBytes : Nat := 497

/-- A long text is cut, loses the blanks at its end and is marked by three points. -/
def abbreviate (s : String) : String :=
  String.ofList (trimEnd (truncate s shownBytes).toList) ++
    if byteLength s.toList > shownBytes then "..." else ""

end EntitySql.Text
