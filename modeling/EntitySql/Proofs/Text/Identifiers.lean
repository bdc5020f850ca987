import EntitySql.Proofs.Text.Characters

/-!
# What an identifier names

A statement can only be read if its identifiers can be told from what follows them. A bare name
goes on to the blank after it, a quoted one to the first closing quote that is not doubled, and
their first characters tell which it is. So an identifier before a blank determines its name, and
the rest of the text (`Dialect.identifier_inj`).
-/

namespace EntitySql

set_option autoImplicit false

/-- Texts without a mark are told apart from what follows the mark. -/
theorem append_mark_inj {mark : Char} {as bs u v : List Char} (ha : mark ∉ as) (hb : mark ∉ bs)
    (h : as ++ mark :: u = bs ++ mark :: v) : as = bs ∧ u = v := by
  induction as generalizing bs with
  | nil =>
    cases bs with
    | nil => exact ⟨rfl, List.tail_eq_of_cons_eq h⟩
    | cons b bs => exact absurd (List.head_eq_of_cons_eq h) (List.ne_of_not_mem_cons hb)
  | cons a as ih =>
    cases bs with
    | nil => exact absurd (List.head_eq_of_cons_eq h).symm (List.ne_of_not_mem_cons ha)
    | cons b bs =>
      obtain ⟨rest, same⟩ := ih (List.not_mem_of_not_mem_cons ha)
        (List.not_mem_of_not_mem_cons hb) (List.tail_eq_of_cons_eq h)
      rw [List.head_eq_of_cons_eq h, rest]
      exact ⟨rfl, same⟩

theorem doubling_cons (q c : Char) (cs : List Char) :
    doubling q (c :: cs) = (if c = q then [q, q] else [c]) ++ doubling q cs := rfl

/-- A text whose quotes are doubled ends before the first quote that no other one follows. -/
theorem doubling_inj {q : Char} {as bs u v : List Char} (hu : u.head? ≠ some q)
    (hv : v.head? ≠ some q) (h : doubling q as ++ q :: u = doubling q bs ++ q :: v) :
    as = bs ∧ u = v := by
  -- at a quote the text goes on exactly when another quote follows
  have ends : ∀ {cs w x : List Char} {c : Char}, w.head? ≠ some q →
      q :: w ≠ doubling q (c :: cs) ++ q :: x := by
    intro cs w x c last same
    rw [doubling_cons] at same
    split at same
    · exact last (by rw [List.tail_eq_of_cons_eq same]; rfl)
    · rename_i other
      exact other (List.head_eq_of_cons_eq same).symm
  induction as generalizing bs with
  | nil =>
    cases bs with
    | nil => exact ⟨rfl, List.tail_eq_of_cons_eq h⟩
    | cons b bs => exact absurd h (ends hu)
  | cons a as ih =>
    cases bs with
    | nil => exact absurd h.symm (ends hv)
    | cons b bs =>
      rw [doubling_cons, doubling_cons, List.append_assoc, List.append_assoc] at h
      have first : a = b ∧ doubling q as ++ q :: u = doubling q bs ++ q :: v := by
        split at h <;> split at h
        · rename_i ha hb
          exact ⟨ha.trans hb.symm, List.append_cancel_left h⟩
        · rename_i _ hb
          exact absurd (List.head_eq_of_cons_eq h).symm hb
        · rename_i ha _
          exact absurd (List.head_eq_of_cons_eq h) ha
        · exact ⟨List.head_eq_of_cons_eq h, List.tail_eq_of_cons_eq h⟩
      obtain ⟨rest, same⟩ := ih first.2
      rw [first.1, rest]
      exact ⟨rfl, same⟩

namespace Dialect

variable {d : Dialect} {a b x y : String}

theorem toList_quotedIdentifier (d : Dialect) (a : String) :
    (d.quotedIdentifier a).toList =
      d.identifierQuotes.1 :: (doubling d.identifierQuotes.2 a.toList ++ [d.identifierQuotes.2]) :=
  String.toList_ofList

/-- Quotes open no name and are no blank. -/
theorem identifierQuotes_clear (d : Dialect) :
    isNameChar d.identifierQuotes.1 = false ∧ d.identifierQuotes.1 ≠ ' ' ∧
      d.identifierQuotes.1 ≠ '*' ∧ d.identifierQuotes.2 ≠ ' ' := by
  cases d <;> decide

/-- An identifier starts with a quote or with a character of a name. -/
theorem identifier_start (d : Dialect) (a : String) :
    ∃ c cs, (d.identifier a).toList = c :: cs ∧
      (c = d.identifierQuotes.1 ∧ needsQuoting a = true ∨
        isNameChar c = true ∧ needsQuoting a = false) := by
  unfold identifier
  split
  · rename_i quoted
    rw [toList_quotedIdentifier]
    exact ⟨_, _, rfl, .inl ⟨rfl, quoted⟩⟩
  · rename_i bare
    have name := consists_bare bare
    cases chars : a.toList with
    | nil =>
      -- the empty name is quoted
      simp [needsQuoting, isPlainIdentifier, chars] at bare
    | cons c cs =>
      refine ⟨c, cs, rfl, .inr ⟨name c ?_, Bool.eq_false_iff.2 bare⟩⟩
      rw [chars]
      exact List.mem_cons_self

theorem identifier_ne_empty (d : Dialect) (name : String) : d.identifier name ≠ "" := by
  obtain ⟨c, cs, chars, _⟩ := d.identifier_start name
  intro empty
  rw [empty] at chars
  cases chars

/-- An identifier starts neither with a blank nor with a star. -/
theorem identifier_ne (d : Dialect) (a : String) {c : Char} (h : c = ' ' ∨ c = '*') (x : String) :
    (d.identifier a ++ x).toList.head? ≠ some c := by
  obtain ⟨first, rest, same, kind⟩ := d.identifier_start a
  rw [String.toList_append, same]
  intro start
  cases Option.some.inj start
  obtain ⟨_, noBlank, noStar, _⟩ := d.identifierQuotes_clear
  rcases kind with ⟨rfl, _⟩ | ⟨name, _⟩
  · rcases h with blank | star
    · exact noBlank blank
    · exact noStar star
  · rcases h with rfl | rfl <;> exact absurd name (by decide)

/-- A bare name ends before the first blank. -/
theorem bare_inj {u v : List Char} (bareA : needsQuoting a = false) (bareB : needsQuoting b = false)
    (h : a.toList ++ ' ' :: u = b.toList ++ ' ' :: v) : a = b ∧ u = v := by
  have clear : ∀ {s : String}, needsQuoting s = false → ' ' ∉ s.toList := by
    intro s bare used
    exact absurd (consists_bare (Bool.eq_false_iff.1 bare) _ used) (by decide)
  obtain ⟨names, rest⟩ := append_mark_inj (clear bareA) (clear bareB) h
  exact ⟨String.toList_inj.1 names, rest⟩

/-- A quoted name ends before the first closing quote that is not doubled. -/
theorem quotedIdentifier_inj {u v : List Char}
    (h : (d.quotedIdentifier a).toList ++ ' ' :: u = (d.quotedIdentifier b).toList ++ ' ' :: v) :
    a = b ∧ u = v := by
  obtain ⟨_, _, _, closing⟩ := d.identifierQuotes_clear
  rw [toList_quotedIdentifier, toList_quotedIdentifier, List.cons_append, List.cons_append,
    List.append_assoc, List.append_assoc] at h
  have apart : ∀ w : List Char, (' ' :: w).head? ≠ some d.identifierQuotes.2 := by
    intro w same
    exact closing (Option.some.inj same).symm
  obtain ⟨names, rest⟩ := doubling_inj (apart _) (apart _) (List.tail_eq_of_cons_eq h)
  exact ⟨String.toList_inj.1 names, List.tail_eq_of_cons_eq rest⟩

/-- **An identifier before a blank determines its name and the rest.** -/
theorem identifier_inj (h : d.identifier a ++ (" = " ++ x) = d.identifier b ++ (" = " ++ y)) :
    a = b ∧ x = y := by
  have blank : ∀ w : String, (" = " ++ w).toList = ' ' :: '=' :: ' ' :: w.toList := fun w => by
    rw [String.toList_append]
    rfl
  have chars : (d.identifier a).toList ++ ' ' :: '=' :: ' ' :: x.toList =
      (d.identifier b).toList ++ ' ' :: '=' :: ' ' :: y.toList := by
    rw [← blank, ← blank, ← String.toList_append, ← String.toList_append, h]
  have finish : a = b ∧ '=' :: ' ' :: x.toList = '=' :: ' ' :: y.toList → a = b ∧ x = y := by
    rintro ⟨names, rest⟩
    have tails := List.tail_eq_of_cons_eq (List.tail_eq_of_cons_eq rest)
    exact ⟨names, String.toList_inj.1 tails⟩
  obtain ⟨outside, _⟩ := d.identifierQuotes_clear
  obtain ⟨c, cs, ha, kindA⟩ := d.identifier_start a
  obtain ⟨e, es, hb, kindB⟩ := d.identifier_start b
  have first : c = e := by
    rw [ha, hb] at chars
    exact List.head_eq_of_cons_eq chars
  rcases kindA with ⟨openA, quotedA⟩ | ⟨nameA, bareA⟩ <;>
    rcases kindB with ⟨openB, quotedB⟩ | ⟨nameB, bareB⟩
  · rw [identifier, identifier, if_pos quotedA, if_pos quotedB] at chars
    exact finish (quotedIdentifier_inj chars)
  · rw [← first, openA, outside] at nameB
    cases nameB
  · rw [first, openB, outside] at nameA
    cases nameA
  · rw [identifier, identifier, if_neg (Bool.eq_false_iff.1 bareA),
      if_neg (Bool.eq_false_iff.1 bareB)] at chars
    exact finish (bare_inj bareA bareB chars)

end Dialect

end EntitySql
