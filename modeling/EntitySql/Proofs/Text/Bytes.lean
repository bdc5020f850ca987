import EntitySql.Field.Slice

/-!
# Texts cut between characters

Lengths in bytes add up (`byteLength_append`), so a text is cut behind its first part at the length
of that part (`splitBytes?_append`), and a position is inside a character only where no part ends
(`cutsCharacter_append`). Every cut that is possible is one of these (`splitBytes?_eq_some`).
-/

namespace EntitySql.Text

set_option autoImplicit false

theorem byteLength_append (as bs : List Char) :
    byteLength (as ++ bs) = byteLength as + byteLength bs := by
  induction as with
  | nil => exact (Nat.zero_add _).symm
  | cons a as ih => rw [List.cons_append, byteLength, byteLength, ih, Nat.add_assoc]

/-- **Behind its first part a text can be cut,** and the parts are these. -/
theorem splitBytes?_append (as bs : List Char) :
    splitBytes? (as ++ bs) (byteLength as) = some (as, bs) := by
  induction as with
  | nil =>
    cases bs <;> rfl
  | cons a as ih =>
    have positive := a.utf8Size_pos
    have nonzero : a.utf8Size + byteLength as ≠ 0 := by omega
    obtain ⟨n, length⟩ := Nat.exists_eq_succ_of_ne_zero nonzero
    have others : n + 1 - a.utf8Size = byteLength as := by omega
    rw [List.cons_append, byteLength, length, splitBytes?, if_neg (by omega), others, ih]
    rfl

/-- The end of a part is not inside a character. -/
theorem cutsCharacter_append (as bs : List Char) :
    cutsCharacter (byteLength as) (as ++ bs) = false := by
  induction as with
  | nil => cases bs <;> rfl
  | cons a as ih =>
    have positive := a.utf8Size_pos
    rw [List.cons_append, cutsCharacter, byteLength, if_neg (by omega), if_neg (by omega),
      Nat.add_sub_cancel_left, ih]

/-- A text that is cut was those two parts, and the first one has the length asked for. -/
theorem splitBytes?_eq_some {cs before behind : List Char} {n : Nat}
    (h : splitBytes? cs n = some (before, behind)) :
    cs = before ++ behind ∧ byteLength before = n := by
  induction cs generalizing n before with
  | nil =>
    cases n with
    | zero => cases h; exact ⟨rfl, rfl⟩
    | succ n => cases h
  | cons c cs ih =>
    cases n with
    | zero => cases h; exact ⟨rfl, rfl⟩
    | succ n =>
      rw [splitBytes?] at h
      split at h
      · cases h
      · rename_i fits
        obtain ⟨parts, found, same⟩ := Option.map_eq_some_iff.1 h
        obtain ⟨rfl, rfl⟩ := Prod.mk.inj same
        obtain ⟨rfl, length⟩ := ih found
        refine ⟨rfl, ?_⟩
        rw [byteLength, length]
        omega

/-- A text that is long enough can be cut unless the position is inside a character. -/
theorem splitBytes?_eq_none_iff {cs : List Char} {n : Nat} (long : n ≤ byteLength cs) :
    splitBytes? cs n = none ↔ cutsCharacter n cs = true := by
  induction cs generalizing n with
  | nil =>
    cases Nat.le_zero.1 long
    simp [splitBytes?, cutsCharacter]
  | cons c cs ih =>
    cases n with
    | zero => simp [splitBytes?, cutsCharacter]
    | succ n =>
      rw [byteLength] at long
      rw [splitBytes?, cutsCharacter, if_neg (Nat.succ_ne_zero n)]
      by_cases inside : n + 1 < c.utf8Size
      · rw [if_pos inside, if_pos inside]
        exact iff_of_true rfl rfl
      · rw [if_neg inside, if_neg inside, Option.map_eq_none_iff]
        exact ih (by omega)

/-- Only inside a text is a character cut. -/
theorem lt_byteLength_of_cutsCharacter {cs : List Char} {n : Nat}
    (cut : cutsCharacter n cs = true) : n < byteLength cs := by
  induction cs generalizing n with
  | nil => cases cut
  | cons c cs ih =>
    rw [byteLength]
    rw [cutsCharacter] at cut
    split at cut
    · cases cut
    · split at cut
      · omega
      · have := ih cut
        omega

end EntitySql.Text
