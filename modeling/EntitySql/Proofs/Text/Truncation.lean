import EntitySql.Proofs.Text.Bytes
import EntitySql.Proofs.Text.Decoding

/-!
# Truncated texts

The boundaries that are told by single bytes are the ends of the initial parts of a text
(`isBoundary_iff`), which are also core's valid positions. The last one up to a limit is therefore
the end of the longest part that fits, and truncation yields this part (`truncate_longest`).

A character has at most four bytes, so fewer than four of the bytes that are allowed are given up.
What is shown of a text has a bound that does not depend on it (`utf8ByteSize_abbreviate_le`).
-/

namespace EntitySql.Text

set_option autoImplicit false

/-! ## Lengths -/

theorem utf8ByteSize_ofList (cs : List Char) : (String.ofList cs).utf8ByteSize = byteLength cs := by
  induction cs with
  | nil => rfl
  | cons c cs ih =>
    have first : String.ofList (c :: cs) = String.singleton c ++ String.ofList cs := by
      rw [String.singleton_eq_ofList, ← String.ofList_append]
      rfl
    rw [first, String.utf8ByteSize_append, String.utf8ByteSize_singleton, ih, byteLength]

theorem utf8ByteSize_eq (s : String) : s.utf8ByteSize = byteLength s.toList := by
  rw [← utf8ByteSize_ofList, String.ofList_toList]

theorem length_utf8 (s : String) : (utf8 s).length = byteLength s.toList := by
  rw [utf8]
  induction s.toList with
  | nil => rfl
  | cons c cs ih => rw [List.flatMap_cons, List.length_append, length_utf8OfChar, ih, byteLength]

/-- Of two initial parts of a text, the one that is not longer is a part of the other. -/
theorem prefix_of_byteLength_le {as bs cs : List Char} (first : as <+: cs) (second : bs <+: cs)
    (le : byteLength as ≤ byteLength bs) : as <+: bs := by
  rcases List.prefix_or_prefix_of_prefix first second with inside | ⟨more, rfl⟩
  · exact inside
  · rw [byteLength_append] at le
    cases more with
    | nil => exact ⟨[], (List.append_nil _).trans (List.append_nil bs)⟩
    | cons c more =>
      have positive := c.utf8Size_pos
      rw [byteLength] at le
      omega

/-! ## Boundaries -/

/-- The first byte of a character continues none. -/
theorem exists_first_byte (c : Char) :
    ∃ b others, utf8OfChar c = b :: others ∧ isContinuation b = false := by
  have spells := spells_utf8OfChar c
  have starts {b : UInt8} (outside : b.toNat < 0x80 ∨ 0xbf < b.toNat) :
      isContinuation b = false := by
    rw [Bool.eq_false_iff, Ne, isContinuation_iff]
    omega
  generalize utf8OfChar c = bytes, c.toNat = n at spells
  cases spells with
  | one ascii => exact ⟨_, _, rfl, starts (.inl ascii)⟩
  | two lead | three lead | four lead => exact ⟨_, _, rfl, starts (.inr (by omega))⟩

/-- **The boundaries of a text are the ends of its initial parts.** -/
theorem isBoundary_iff {s : String} {n : Nat} :
    isBoundary (utf8 s) n = true ↔ ∃ as bs, s.toList = as ++ bs ∧ byteLength as = n := by
  constructor
  · intro boundary
    obtain ⟨⟨as, bs⟩, cut⟩ := Option.isSome_iff_exists.1 (isSome_splitBytes? boundary)
    exact ⟨as, bs, splitBytes?_eq_some cut⟩
  · rintro ⟨as, bs, parts, rfl⟩
    have whole := length_utf8 s
    have before : (as.flatMap utf8OfChar).length = byteLength as := by
      have length := length_utf8 (String.ofList as)
      rwa [utf8, String.toList_ofList] at length
    rw [parts, byteLength_append] at whole
    cases bs with
    | nil =>
      rw [isBoundary, whole]
      simp [byteLength]
    | cons c bs =>
      obtain ⟨b, others, first, starts⟩ := exists_first_byte c
      have found : (utf8 s)[byteLength as]? = some b := by
        rw [utf8, parts, List.flatMap_append, List.flatMap_cons, ← before,
          List.getElem?_append_right (Nat.le_refl _), Nat.sub_self, first]
        rfl
      rw [isBoundary, found, Option.any_some, starts]
      exact Bool.or_true _

/-- The boundaries are the valid positions. -/
theorem isBoundary_iff_isValid {s : String} {n : Nat} :
    isBoundary (utf8 s) n = true ↔ String.Pos.Raw.IsValid s ⟨n⟩ := by
  rw [isBoundary_iff, String.Pos.Raw.isValid_iff_exists_append]
  constructor
  · rintro ⟨as, bs, parts, rfl⟩
    refine ⟨String.ofList as, String.ofList bs, ?_, ?_⟩
    · rw [← String.ofList_append, ← parts, String.ofList_toList]
    · rw [← utf8ByteSize_ofList]
      rfl
  · rintro ⟨t, rest, rfl, same⟩
    refine ⟨t.toList, rest.toList, String.toList_append, ?_⟩
    rw [← utf8ByteSize_eq]
    exact (congrArg String.Pos.Raw.byteIdx same).symm

/-! ## Truncation -/

theorem truncate_eq {s shown : String} {n : Nat} (yields : truncate? s n = some shown) :
    truncate s n = shown := by
  rw [truncate]
  simp only [yields, Option.get_some]

/-- What truncation yields is an initial part that fits, and no boundary up to the limit is behind
its end. -/
theorem exists_truncate?_eq (s : String) (n : Nat) :
    ∃ as bs, s.toList = as ++ bs ∧ truncate? s n = some (String.ofList as) ∧ byteLength as ≤ n ∧
      ∀ k ≤ n, isBoundary (utf8 s) k = true → k ≤ byteLength as := by
  by_cases fits : (utf8 s).length ≤ n
  · refine ⟨s.toList, [], (List.append_nil _).symm, ?_, ?_, ?_⟩
    · rw [truncate?, if_pos fits, String.ofList_toList]
    · rwa [← length_utf8]
    · intro k _ boundary
      obtain ⟨as, bs, parts, rfl⟩ := isBoundary_iff.1 boundary
      rw [parts, byteLength_append]
      exact Nat.le_add_right _ _
  · obtain ⟨m, found, boundary, le, last⟩ := exists_lastBoundary? (utf8 s) n
    obtain ⟨⟨as, bs⟩, cut⟩ := Option.isSome_iff_exists.1 (isSome_splitBytes? boundary)
    obtain ⟨parts, rfl⟩ := splitBytes?_eq_some cut
    refine ⟨as, bs, parts, ?_, le, last⟩
    rw [truncate?, if_neg fits, found]
    show (splitBytes? s.toList (byteLength as)).bind _ = _
    rw [cut]
    rfl

section LastBoundary

variable {s : String} {as bs rest : List Char} {c : Char} {n : Nat}

/-- There is no room for the character behind the last boundary. -/
theorem lt_of_last (parts : s.toList = as ++ c :: rest)
    (last : ∀ k ≤ n, isBoundary (utf8 s) k = true → k ≤ byteLength as) :
    n < byteLength as + c.utf8Size := by
  have next : isBoundary (utf8 s) (byteLength as + c.utf8Size) = true := by
    refine isBoundary_iff.2 ⟨as ++ [c], rest, ?_, byteLength_append as [c]⟩
    rw [parts, List.append_assoc]
    rfl
  have positive := c.utf8Size_pos
  by_contra room
  have behind := last _ (Nat.le_of_not_lt room) next
  omega

/-- Nothing is behind the last boundary of a text that fits. -/
theorem eq_nil_of_last (parts : s.toList = as ++ bs)
    (last : ∀ k ≤ n, isBoundary (utf8 s) k = true → k ≤ byteLength as)
    (short : s.utf8ByteSize ≤ n) : bs = [] := by
  cases bs with
  | nil => rfl
  | cons c rest =>
    have full := lt_of_last parts last
    rw [utf8ByteSize_eq, parts, byteLength_append, byteLength] at short
    omega

/-- Less than a character lies between the last boundary and the limit, if the text goes on. -/
theorem lt_add_four_of_last (parts : s.toList = as ++ bs)
    (last : ∀ k ≤ n, isBoundary (utf8 s) k = true → k ≤ byteLength as)
    (fits : byteLength as ≤ n) (long : n < s.utf8ByteSize) : n < byteLength as + 4 := by
  cases bs with
  | nil =>
    rw [utf8ByteSize_eq, parts, List.append_nil] at long
    omega
  | cons c rest =>
    have full := lt_of_last parts last
    have bytes := c.utf8Size_le_four
    omega

/-- Every initial part that fits ends at the last boundary or before it. -/
theorem exists_eq_append_of_last (parts : s.toList = as ++ bs)
    (last : ∀ k ≤ n, isBoundary (utf8 s) k = true → k ≤ byteLength as) {t rest : String}
    (whole : s = t ++ rest) (fits : t.utf8ByteSize ≤ n) :
    ∃ more, String.ofList as = t ++ more := by
  have first : s.toList = t.toList ++ rest.toList := by rw [whole, String.toList_append]
  have shorter : byteLength t.toList ≤ byteLength as := by
    rw [utf8ByteSize_eq] at fits
    exact last _ fits (isBoundary_iff.2 ⟨_, _, first, rfl⟩)
  obtain ⟨more, rfl⟩ := prefix_of_byteLength_le ⟨_, first.symm⟩ ⟨_, parts.symm⟩ shorter
  exact ⟨String.ofList more, by rw [String.ofList_append, String.ofList_toList]⟩

end LastBoundary

/-- **A text is cut to the longest part that fits.** Truncation always succeeds. It yields an
initial part of at most `n` bytes that ends at a boundary of characters, no boundary up to the limit
is behind its end, and so every initial part that fits is a part of it. A text that fits is kept,
and of a longer one fewer than four of the bytes allowed are given up. -/
theorem truncate_longest (s : String) (n : Nat) :
    truncate? s n = some (truncate s n) ∧
      (∃ rest, s = truncate s n ++ rest) ∧
      (truncate s n).utf8ByteSize ≤ n ∧
      (truncate s n).rawEndPos.IsValid s ∧
      (∀ p : String.Pos.Raw, p.IsValid s → p.byteIdx ≤ n →
        p.byteIdx ≤ (truncate s n).utf8ByteSize) ∧
      (∀ t rest : String, s = t ++ rest → t.utf8ByteSize ≤ n → ∃ more, truncate s n = t ++ more) ∧
      (s.utf8ByteSize ≤ n → truncate s n = s) ∧
      (n < s.utf8ByteSize → n < (truncate s n).utf8ByteSize + 4) := by
  obtain ⟨as, bs, parts, yields, fits, last⟩ := exists_truncate?_eq s n
  have same : truncate s n = String.ofList as := truncate_eq yields
  have start : s = String.ofList as ++ String.ofList bs := by
    rw [← String.ofList_append, ← parts, String.ofList_toList]
  rw [same, utf8ByteSize_ofList]
  refine ⟨yields, ⟨_, start⟩, fits, ?_, ?_, ?_, ?_, lt_add_four_of_last parts last fits⟩
  · exact String.Pos.Raw.isValid_iff_exists_append.2 ⟨_, _, start, rfl⟩
  · intro p valid le
    exact last _ le (isBoundary_iff_isValid.2 valid)
  · intro t rest whole short
    exact exists_eq_append_of_last parts last whole short
  · intro short
    rw [start, eq_nil_of_last parts last short, String.ofList_nil, String.append_empty]

/-- The second byte of a character is no place to cut. -/
example : truncate? "né" 2 = some "n" := by decide

/-! ## Abbreviation -/

theorem trimEnd_prefix (cs : List Char) : trimEnd cs <+: cs := by
  rw [trimEnd, ← List.reverse_suffix, List.reverse_reverse]
  exact List.dropWhile_suffix isBlank

/-- **What is shown of a text** takes at most three bytes more than the part it is cut to, however
long the text is. -/
theorem utf8ByteSize_abbreviate_le (s : String) :
    (abbreviate s).utf8ByteSize ≤ shownBytes + 3 := by
  obtain ⟨as, -, -, yields, fits, -⟩ := exists_truncate?_eq s shownBytes
  have same : truncate s shownBytes = String.ofList as := truncate_eq yields
  have shown : byteLength (trimEnd as) ≤ byteLength as := by
    obtain ⟨blanks, parts⟩ := trimEnd_prefix as
    rw [← congrArg byteLength parts, byteLength_append]
    exact Nat.le_add_right _ _
  have marked : (if byteLength s.toList > shownBytes then "..." else "").utf8ByteSize ≤ 3 := by
    split <;> decide
  rw [abbreviate, String.utf8ByteSize_append, same, String.toList_ofList, utf8ByteSize_ofList]
  omega

end EntitySql.Text
