import EntitySql.Proofs.Sql.Rendering
import Mathlib.Data.List.Infix

/-!
# Patterns and what they find

A test for a part of a text is written as a test against a pattern: the part with `%` on the sides
where other characters may stand. A pattern without escapes has two wildcards, `%` for any
characters and `_` for any one of them; all other characters stand for themselves (`Text.likes`).

The part goes into the pattern as it is, so the wildcards in it stay wildcards. The test finds, at
its place in the text, what the part itself matches as a pattern. It finds the part and nothing else
exactly when the part has no wildcard (`Predicate.render_like_finds`).
-/

namespace EntitySql

set_option autoImplicit false

open Outcome

namespace Text

/-- The characters that stand for others in a pattern. -/
def isWildcard (c : Char) : Bool := c == '%' || c == '_'

/-- The text matches the pattern. -/
def likes : List Char → List Char → Bool
  | [], text => text.isEmpty
  | '%' :: pattern, text => text.tails.any (likes pattern)
  | '_' :: pattern, _ :: text => likes pattern text
  | c :: pattern, x :: text => c == x && likes pattern text
  | _ :: _, [] => false

variable {p q text : List Char}

theorem likes_nil : likes [] text = true ↔ text = [] := by
  rw [likes, List.isEmpty_iff]

/-- Any characters may be left out in front. -/
theorem likes_any : likes ('%' :: p) text = true ↔ ∃ rest, rest <:+ text ∧ likes p rest = true := by
  rw [likes, List.any_eq_true]
  simp only [List.mem_tails]

theorem likes_one :
    likes ('_' :: p) text = true ↔ ∃ x rest, text = x :: rest ∧ likes p rest = true := by
  cases text with
  | nil => simp [likes]
  | cons x rest => simp [likes]

theorem likes_plain {c : Char} (plain : isWildcard c = false) :
    likes (c :: p) text = true ↔ ∃ rest, text = c :: rest ∧ likes p rest = true := by
  obtain ⟨noAny, noOne⟩ := Bool.or_eq_false_iff.1 plain
  have notAny : c ≠ '%' := beq_eq_false_iff_ne.1 noAny
  have notOne : c ≠ '_' := beq_eq_false_iff_ne.1 noOne
  cases text with
  | nil => simp [likes]
  | cons x rest =>
    rw [likes]
    · simp only [Bool.and_eq_true, beq_iff_eq, List.cons.injEq]
      constructor
      · rintro ⟨rfl, matched⟩
        exact ⟨rest, ⟨rfl, rfl⟩, matched⟩
      · rintro ⟨_, ⟨rfl, rfl⟩, matched⟩
        exact ⟨rfl, matched⟩
    · exact notAny
    · exact notOne

/-- **Joined patterns** match what their parts match one behind the other. The induction is on the
first pattern; only `%` has a choice. -/
theorem likes_append : likes (p ++ q) text = true ↔
    ∃ a b, a ++ b = text ∧ likes p a = true ∧ likes q b = true := by
  induction p generalizing text with
  | nil => simp [likes_nil]
  | cons c p ih =>
    rw [List.cons_append]
    cases wild : isWildcard c with
    | false =>
      rw [likes_plain wild]
      simp only [ih, likes_plain wild]
      constructor
      · rintro ⟨rest, rfl, a, b, rfl, first, second⟩
        exact ⟨c :: a, b, rfl, ⟨a, rfl, first⟩, second⟩
      · rintro ⟨_, b, rfl, ⟨a, rfl, first⟩, second⟩
        exact ⟨a ++ b, rfl, a, b, rfl, first, second⟩
    | true =>
      rcases Bool.or_eq_true_iff.1 wild with any | one
      · cases eq_of_beq any
        simp only [likes_any, ih]
        constructor
        · rintro ⟨_, ⟨skipped, rfl⟩, a, b, rfl, first, second⟩
          exact ⟨skipped ++ a, b, List.append_assoc .., ⟨a, List.suffix_append .., first⟩, second⟩
        · rintro ⟨_, b, rfl, ⟨a, ⟨skipped, rfl⟩, first⟩, second⟩
          exact ⟨a ++ b, ⟨skipped, (List.append_assoc ..).symm⟩, a, b, rfl, first, second⟩
      · cases eq_of_beq one
        simp only [likes_one, ih]
        constructor
        · rintro ⟨x, rest, rfl, a, b, rfl, first, second⟩
          exact ⟨x :: a, b, rfl, ⟨x, a, rfl, first⟩, second⟩
        · rintro ⟨_, b, rfl, ⟨x, a, rfl, first⟩, second⟩
          exact ⟨x, a ++ b, rfl, a, b, rfl, first, second⟩

theorem likes_anything (text : List Char) : likes ['%'] text = true :=
  likes_any.2 ⟨[], List.nil_suffix, rfl⟩

/-- A pattern without wildcards matches itself only. -/
theorem likes_of_plain (plain : ∀ c ∈ p, isWildcard c = false) :
    likes p text = true ↔ text = p := by
  induction p generalizing text with
  | nil => exact likes_nil
  | cons c p ih =>
    obtain ⟨first, others⟩ := List.forall_mem_cons.1 plain
    simp only [likes_plain first, ih others]
    constructor
    · rintro ⟨_, rfl, rfl⟩
      rfl
    · rintro rfl
      exact ⟨p, rfl, rfl⟩

/-- The pattern with a digit in place of each wildcard. -/
def filled (p : List Char) : List Char := p.map fun c => if isWildcard c then '0' else c

theorem likes_filled (p : List Char) : likes p (filled p) = true := by
  induction p with
  | nil => rfl
  | cons c p ih =>
    rw [filled, List.map_cons, ← filled]
    cases wild : isWildcard c with
    | false => exact (likes_plain wild).2 ⟨_, rfl, ih⟩
    | true =>
      rcases Bool.or_eq_true_iff.1 wild with any | one
      · cases eq_of_beq any
        exact likes_any.2 ⟨_, List.suffix_cons .., ih⟩
      · cases eq_of_beq one
        exact likes_one.2 ⟨_, _, rfl, ih⟩

theorem plain_of_filled (same : filled p = p) : ∀ c ∈ p, isWildcard c = false := by
  intro c member
  by_contra wild
  have digit : (if isWildcard c then '0' else c) = c :=
    List.map_inj_left.1 (same.trans p.map_id.symm) c member
  rw [if_pos (by simpa using wild)] at digit
  exact wild (digit ▸ rfl)

end Text

/-! ## Places -/

namespace PatternPlace

/-- The part stands at the place in the text. -/
def Finds (place : PatternPlace) (part text : List Char) : Prop :=
  match place with
  | anywhere => part <:+: text
  | start => part <+: text
  | finish => part <:+ text

theorem eq_of_finds {place : PatternPlace} {part text : List Char} (found : place.Finds part text)
    (length : part.length = text.length) : part = text := by
  cases place with
  | anywhere => exact List.IsInfix.eq_of_length found length
  | start => exact List.IsPrefix.eq_of_length found length
  | finish => exact List.IsSuffix.eq_of_length found length

/-- **A pattern finds what its part matches,** at the place it is made for. -/
theorem likes_pattern (place : PatternPlace) (part : String) (text : List Char) :
    Text.likes (place.pattern part).toList text = true ↔
      ∃ found, place.Finds found text ∧ Text.likes part.toList found = true := by
  have any : "%".toList = ['%'] := rfl
  cases place with
  | anywhere =>
    simp only [pattern, String.toList_append, any, Text.likes_append, Text.likes_anything, true_and,
      and_true, Finds]
    constructor
    · rintro ⟨_, after, rfl, before, found, rfl, matched⟩
      exact ⟨found, ⟨before, after, rfl⟩, matched⟩
    · rintro ⟨found, ⟨before, after, rfl⟩, matched⟩
      exact ⟨before ++ found, after, rfl, before, found, rfl, matched⟩
  | start =>
    simp only [pattern, String.toList_append, any, Text.likes_append, Text.likes_anything, and_true,
      Finds]
    constructor
    · rintro ⟨found, after, rfl, matched⟩
      exact ⟨found, ⟨after, rfl⟩, matched⟩
    · rintro ⟨found, ⟨after, rfl⟩, matched⟩
      exact ⟨found, after, rfl, matched⟩
  | finish =>
    simp only [pattern, String.toList_append, any, Text.likes_append, Text.likes_anything, true_and,
      Finds]
    constructor
    · rintro ⟨before, found, rfl, matched⟩
      exact ⟨found, ⟨before, rfl⟩, matched⟩
    · rintro ⟨found, ⟨before, rfl⟩, matched⟩
      exact ⟨before, found, rfl, matched⟩

/-- A pattern finds its part and nothing else exactly when the part has no wildcard: another text
is found where the wildcards of the part are filled. -/
theorem likes_pattern_iff_plain (place : PatternPlace) (part : String) :
    (∀ text, Text.likes (place.pattern part).toList text = true ↔ place.Finds part.toList text) ↔
      ∀ c ∈ part.toList, Text.isWildcard c = false := by
  constructor
  · intro exact
    refine Text.plain_of_filled (Eq.symm ?_)
    refine eq_of_finds ((exact _).1 ((likes_pattern place part _).2 ⟨_, ?_, Text.likes_filled _⟩))
      (List.length_map _).symm
    cases place with
    | anywhere => exact List.infix_rfl
    | start => exact List.prefix_rfl
    | finish => exact List.suffix_rfl
  · intro plain text
    rw [likes_pattern]
    simp only [Text.likes_of_plain plain]
    exact ⟨fun ⟨_, found, same⟩ => same ▸ found, fun found => ⟨_, found, rfl⟩⟩

end PatternPlace

/-- What a test against a pattern says of a text: that it matches, or does not when negated. -/
def likeHolds (negated : Bool) (pattern text : List Char) : Bool :=
  Text.likes pattern text != negated

theorem likeHolds_iff {negated : Bool} {pattern text : List Char} :
    likeHolds negated pattern text = true ↔
      (Text.likes pattern text = true ↔ negated = false) := by
  rw [likeHolds]
  cases Text.likes pattern text <;> cases negated <;> decide

/-- **A test for a part of a text.** It binds one pattern. The test holds of the texts that have, at
the place, what the part matches as a pattern; a negated test holds of all others. It holds of the
texts that have the part itself there, or negated of all others, exactly when the part has no
wildcard. -/
theorem Predicate.render_like_finds {d : Dialect} {s : Scope} {c : Column} {place : PatternPlace}
    {negated : Bool} {value : Value} {f : Fragment}
    (written : (Predicate.like c place negated value).render d s = .ok f) :
    ∃ left part pattern,
      patternText value = .ok part ∧
      f = [.text (left ++ (if negated then " NOT LIKE " else " LIKE ")),
        .parameter (.ofValue (.varchar (some pattern)))] ∧
      (∀ text, likeHolds negated pattern.toList text = true ↔
        ((∃ found, place.Finds found text ∧ Text.likes part.toList found = true) ↔
          negated = false)) ∧
      ((∀ text, likeHolds negated pattern.toList text = true ↔
          (place.Finds part.toList text ↔ negated = false)) ↔
        ∀ x ∈ part.toList, Text.isWildcard x = false) := by
  obtain ⟨l, part, _, named, rfl⟩ := Predicate.render_like_eq_ok_iff.1 written
  refine ⟨l.expression, part, place.pattern part, named, ?_, fun text => ?_, ?_⟩
  · have words : l.expression ++ " " ++ negation negated ++ "LIKE " =
        l.expression ++ if negated then " NOT LIKE " else " LIKE " := by
      cases negated <;> simp only [String.append_assoc] <;> rfl
    rw [words]
  · rw [likeHolds_iff, place.likes_pattern]
  · rw [← place.likes_pattern_iff_plain]
    refine forall_congr' fun text => ?_
    rw [likeHolds_iff]
    cases negated <;> tauto

/-- The scope of a query from a table without alias. -/
def usersScope : Scope where
  tables := [⟨"", none⟩]
  outer := []
  single := true
  qualify := true
  endOfDay := false

theorem Predicate.render_like_finds_plainPart :
    ∃ f left pattern,
      (Predicate.like (.ofName "NAME") .start true (.varchar (some "Jo"))).render .mysql
        usersScope = .ok f ∧
      f = [.text (left ++ " NOT LIKE "), .parameter (.ofValue (.varchar (some pattern)))] ∧
      ∀ text, likeHolds true pattern.toList text = true ↔ ¬"Jo".toList <+: text := by
  have written : (Predicate.like (.ofName "NAME") .start true (.varchar (some "Jo"))).render .mysql
      usersScope = .ok [.text "NAME NOT LIKE ", .parameter (.ofValue (.varchar (some "Jo%")))] := rfl
  obtain ⟨left, part, pattern, named, text, _, precisely⟩ := Predicate.render_like_finds written
  cases named
  have plain : ∀ x ∈ "Jo".toList, Text.isWildcard x = false :=
    List.forall_mem_cons.2 ⟨rfl, List.forall_mem_singleton.2 rfl⟩
  refine ⟨_, left, pattern, written, text, fun c => ?_⟩
  rw [precisely.2 plain c]
  simp [PatternPlace.Finds]

/-- The test for texts that start with `50%` holds of `500`, which does not. -/
theorem Predicate.render_like_finds_percentPart :
    (Predicate.like (.ofName "RATE") .start false (.varchar (some "50%"))).render .generic
        usersScope =
      .ok [.text "RATE LIKE ", .parameter (.ofValue (.varchar (some "50%%")))] ∧
    likeHolds false "50%%".toList "500".toList = true ∧ ¬"50%".toList <+: "500".toList := by
  refine ⟨rfl, ?_, ?_⟩ <;> decide

end EntitySql
