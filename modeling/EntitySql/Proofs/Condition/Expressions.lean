import EntitySql.Proofs.Condition.Keywords

/-!
# Expressions without keywords

Literals and names have no keyword outside of quotes and parentheses, whatever they are made from:
texts and reserved words are quoted, numbers and bytes lack the letters. Functions, aliases and raw
expressions are written verbatim, so they have to be keyword-free themselves. Then the expression
of a column is keyword-free (`Column.keywordFree_render`).
-/

namespace EntitySql

set_option autoImplicit false

open Outcome

variable {d : Dialect}

/-- The wording is keyword-free where it is written as it is. -/
def Wording.KeywordFree (d : Dialect) : Wording → Prop
  | .verbatim s => EntitySql.KeywordFree d s.toList
  | .identifier _ | .content _ => True

instance (d : Dialect) (w : Wording) : Decidable (w.KeywordFree d) :=
  match w with
  | .verbatim s => inferInstanceAs (Decidable (EntitySql.KeywordFree d s.toList))
  | .identifier _ | .content _ => .isTrue trivial

theorem Wording.KeywordFree.closed {w : Wording} (h : w.KeywordFree d) : w.Closed d := by
  cases w with
  | verbatim s => exact EntitySql.KeywordFree.closed h
  | identifier s => trivial
  | content s => trivial

/-! ## Characters off the keywords -/

theorem isOffKeyword_of_isDigit {c : Char} (h : c.isDigit = true) : isOffKeyword c = true := by
  have same : c.toUpper = c := by
    have bound : c.val ≤ 57 := by
      simp only [Char.isDigit, Bool.and_eq_true, decide_eq_true_eq] at h
      exact h.2
    unfold Char.toUpper
    rw [dif_neg]
    rintro ⟨low, _⟩
    exact absurd (UInt32.le_trans low bound) (by decide)
  have different : c ≠ 'N' ∧ c ≠ 'R' := by
    refine ⟨?_, ?_⟩ <;>
    · rintro rfl
      exact absurd h (by decide)
  simp [isOffKeyword, same, different]

theorem keywordFree_number {t : String} (h : Consists isNumberChar t) : KeywordFree d t.toList := by
  refine keywordFree_of_off (fun c member => isPlainChar_of_isNumberChar (h c member)) ?_
  intro c member
  have number := h c member
  simp only [isNumberChar, Bool.or_eq_true, beq_iff_eq] at number
  rcases number with ((digit | rfl) | rfl) | rfl
  · exact isOffKeyword_of_isDigit digit
  · decide
  · decide
  · decide

/-- The upper case digits of bytes are plain and off the keywords. -/
theorem plain_hex (bytes : List UInt8) : ∀ c ∈ (Text.hexOfBytes bytes).map Char.toUpper,
    isPlainChar c = true ∧ isOffKeyword c = true := by
  have off : ∀ n < 16, isOffKeyword (Text.hexDigit n).toUpper = true := by decide
  intro c member
  obtain ⟨b, digit, rfl⟩ := List.mem_map.1 member
  refine ⟨isPlainChar_of_isAlphanum (Text.isAlphanum_of_mem_hexOfBytes digit).2, ?_⟩
  simp only [Text.hexOfBytes, List.mem_flatMap, List.mem_cons, List.not_mem_nil, or_false] at digit
  obtain ⟨byte, _, rfl | rfl⟩ := digit
  · have bound := byte.toNat_lt
    exact off _ (by omega)
  · exact off _ (by omega)

/-- Plain characters between quotes are quoted. -/
theorem quotedOnly_plain {t : String} (h : Consists isPlainChar t) :
    QuotedOnly d ("'" ++ t ++ "'").toList :=
  quotedOnly_quote (h.mono fun c plain => by rw [Dialect.isQuotedChar, plain, Bool.true_or])

theorem keywordFree_quote {t : String} (h : Consists isPlainChar t) :
    KeywordFree d ("'" ++ t ++ "'").toList := (quotedOnly_plain h).keywordFree

/-! ## Literals -/

namespace Dialect

theorem keywordFree_stringLiteral (s : String) : KeywordFree d (d.stringLiteral s).toList := by
  obtain ⟨cs, quoted, text⟩ := quotedOnly_stringLiteral (d := d) s
  have mark : KeywordFree d (if d = .sqlServer then ['N'] else []) := by
    cases d <;> decide
  have whole := mark.quoted quoted .nil
  rw [text]
  simpa using whole

theorem keywordFree_floatLiteral {k : FloatKind} (x : Binary k) :
    KeywordFree d (d.floatLiteral x).toList := by
  unfold floatLiteral
  split
  · cases d <;> decide +kernel
  · rename_i negative _
    cases d <;> cases negative <;> decide +kernel
  · exact keywordFree_number (FloatLayout.consists_finite _ _ _ _ _)

/-- Bytes are between quotes or in parentheses, or their digits follow a zero. -/
theorem keywordFree_bytesLiteral (bytes : List UInt8) :
    KeywordFree d (d.bytesLiteral bytes).toList := by
  have quoted : ∀ e : Dialect, QuotedOnly e
      ("'" ++ String.ofList ((Text.hexOfBytes bytes).map Char.toUpper) ++ "'").toList :=
    fun e => quotedOnly_plain (.ofList fun c member => (plain_hex bytes c member).1)
  have marked : ∀ e : Dialect, KeywordFree e
      ("X'" ++ String.ofList ((Text.hexOfBytes bytes).map Char.toUpper) ++ "'").toList := by
    intro e
    have mark : KeywordFree e ['X'] := by
      cases e <;> decide +kernel
    have whole := mark.quoted (quoted e) .nil
    simpa using whole
  cases d with
  | postgres =>
    have digits : Consists Dialect.postgres.isQuotedChar
        ("\\x" ++ String.ofList (Text.hexOfBytes bytes)) := by
      refine .append (by decide) (.ofList fun c member => ?_)
      have plain := isPlainChar_of_isAlphanum (Text.isAlphanum_of_mem_hexOfBytes member).1
      rw [isQuotedChar, plain, Bool.true_or]
    have type : KeywordFree .postgres "::BYTEA".toList := by decide +kernel
    have whole := KeywordFree.nil.quoted (quotedOnly_quote digits) type
    simpa [bytesLiteral] using whole
  | sqlServer =>
    have plain : ∀ c ∈ ['0', 'x'], isPlainChar c = true := List.all_eq_true.1 rfl
    have off : ∀ c ∈ ['0', 'x'], isOffKeyword c = true := List.all_eq_true.1 rfl
    have whole : KeywordFree .sqlServer
        (['0', 'x'] ++ (Text.hexOfBytes bytes).map Char.toUpper) := by
      refine keywordFree_of_off ?_ ?_
      · intro c member
        rcases List.mem_append.1 member with first | digit
        · exact plain c first
        · exact (plain_hex bytes c digit).1
      · intro c member
        rcases List.mem_append.1 member with first | digit
        · exact off c first
        · exact (plain_hex bytes c digit).2
    simpa [bytesLiteral] using whole
  | oracle =>
    have function : KeywordFree .oracle "HEXTORAW".toList := by decide +kernel
    have whole := function.parens (quoted .oracle).closed
    simpa [bytesLiteral] using whole
  | generic => exact marked _
  | mysql => exact marked _
  | h2 => exact marked _

theorem keywordFree_dateLiteral (day : Date) : KeywordFree d (d.dateLiteral day).toList := by
  have quoted : ∀ e : Dialect, QuotedOnly e ("'" ++ day.toCompactText ++ "'").toList :=
    fun e => quotedOnly_plain day.consists_toCompactText
  cases d with
  | oracle =>
    have word : KeywordFree .oracle "DATE".toList := by decide +kernel
    have whole := word.blank (quoted .oracle).keywordFree
    simpa [dateLiteral] using whole
  | generic | mysql | postgres | h2 | sqlServer => exact (quoted _).keywordFree

theorem keywordFree_momentLiteral (m : Moment) : KeywordFree d (d.momentLiteral m).toList := by
  have text : Consists isPlainChar (m.date.toCompactText ++ " " ++ m.time.toText) :=
    (m.date.consists_toCompactText.append (by decide)).append m.time.consists_toText
  have quoted : ∀ e : Dialect,
      QuotedOnly e ("'" ++ m.date.toCompactText ++ " " ++ m.time.toText ++ "'").toList := by
    intro e
    have inside := quotedOnly_plain (d := e) text
    simpa using inside
  cases d with
  | oracle =>
    have word : KeywordFree .oracle "TIMESTAMP".toList := by decide +kernel
    have whole := word.blank (quoted .oracle).keywordFree
    simpa [momentLiteral] using whole
  | generic | mysql | postgres | h2 | sqlServer => exact (quoted _).keywordFree

/-- **A literal is keyword-free.** -/
theorem keywordFree_literal : ∀ (v : Value) {t : String}, d.literal v = .ok t →
    (∀ w ∈ v.wordings, w.Closed d) → KeywordFree d t.toList
  | .boolean (some b), t, h, _ => by
    cases h
    cases d <;> cases b <;> decide +kernel
  | .int _ (some n), t, h, _ => by
    cases h
    exact keywordFree_number (consists_toString_int n.val)
  | .float _ (some x), t, h, _ => by
    cases h
    exact keywordFree_floatLiteral x
  | .decimal (some v) _ _, t, h, _ => by
    cases h
    exact keywordFree_number v.consists_toText
  | .char (some c), t, h, _ => by
    cases h
    exact keywordFree_stringLiteral _
  | .varchar (some s), t, h, _ => by
    cases h
    exact keywordFree_stringLiteral s
  | .unknown (some s), t, h, _ => by
    cases h
    exact keywordFree_stringLiteral s
  | .blob (some b), t, h, _ => by
    cases h
    exact keywordFree_bytesLiteral b
  | .date (some day), t, h, _ => by
    cases h
    exact keywordFree_dateLiteral day
  | .time (some clock), t, h, _ => by
    cases h
    exact keywordFree_quote clock.consists_toText
  | .timestamp (some m), t, h, _ => by
    cases h
    exact keywordFree_momentLiteral m
  | .zoned (some z), t, h, _ => by
    obtain ⟨m, _, rfl⟩ := map_eq_ok.1 h
    exact keywordFree_momentLiteral m
  | .uuid (some u), t, h, _ => by
    cases h
    exact keywordFree_quote u.consists_toText
  | .list (some vs) _, t, h, inside => by
    simp only [literal, bind_eq_ok, pure_eq_ok] at h
    obtain ⟨members, written, rfl⟩ := h
    have inner : Phrase d (Wording.Closed d) (String.intercalate ", " members) :=
      .intercalate (by decide) _ (phrase_literals vs written inside)
    have whole := KeywordFree.nil.parens inner.closed
    simpa using whole
  | .null, t, h, _ | .boolean none, t, h, _ | .int _ none, t, h, _ | .float _ none, t, h, _
  | .decimal none _ _, t, h, _ | .char none, t, h, _ | .varchar none, t, h, _
  | .blob none, t, h, _ | .date none, t, h, _ | .time none, t, h, _ | .timestamp none, t, h, _
  | .zoned none, t, h, _ | .uuid none, t, h, _ | .list none _, t, h, _
  | .unknown none, t, h, _ => by
    cases h
    cases d <;> decide +kernel

/-! ## Names -/

/-- **A name is keyword-free as an identifier:** it is quoted, or no reserved word. -/
theorem keywordFree_identifier (s : String) : KeywordFree d (d.identifier s).toList := by
  unfold identifier
  split
  · exact (quotedOnly_quotedIdentifier s).keywordFree
  · rename_i bare
    exact keywordFree_bare bare

end Dialect

/-! ## Columns -/

namespace Column

variable {s : Scope} {c : Column} {t : String}

/-- A point ends the qualifier of a name. -/
theorem keywordFree_qualified {a b : List Char} (ha : KeywordFree d a) (hb : KeywordFree d b) :
    KeywordFree d (a ++ '.' :: b) := by
  have point : (Item.char '.').Lexical d := Item.lexical_char (by decide)
  exact ha.around hb point rfl

theorem keywordFree_reference {qualifier : String} (named : KeywordFree d qualifier.toList) :
    KeywordFree d (c.reference d s qualifier).toList := by
  have prefixed : ∀ b : String, KeywordFree d b.toList → KeywordFree d
      ((if s.qualify && qualifier != "" then qualifier ++ "." else "") ++ b).toList := by
    intro b name
    split
    · have whole := keywordFree_qualified named name
      simpa using whole
    · simpa using name
  have star : KeywordFree d "*".toList := by cases d <;> decide +kernel
  unfold reference
  cases wild : c.isWildcard with
  | true => exact prefixed "*" star
  | false =>
    simp only [Bool.false_eq_true, if_false]
    split
    · exact prefixed _ (Dialect.keywordFree_identifier _)
    · exact prefixed _ (Dialect.keywordFree_identifier _)

/-- The base of a column is keyword-free if its own wordings and those of the scope are. -/
theorem keywordFree_base (h : c.base d s = .ok t) (own : ∀ w ∈ c.ownWordings, w.KeywordFree d)
    (scope : ∀ w ∈ s.wordings, w.KeywordFree d) : KeywordFree d t.toList := by
  simp only [ownWordings, List.mem_append, List.mem_cons, List.not_mem_nil, or_false] at own
  unfold base at h
  split at h
  · rename_i raw
    cases h
    exact own (.verbatim c.name) (.inl (.inr (.inr (.inl (by simp [raw])))))
  · split at h
    · rename_i v literal
      refine Dialect.keywordFree_literal v h fun w member => ?_
      exact (own w (.inr (List.mem_flatMap.2 ⟨v, by simp [literal], member⟩))).closed
    · split at h
      · cases h
        exact .nil
      · obtain ⟨qualifier, found, rfl⟩ := map_eq_ok.1 h
        refine keywordFree_reference ?_
        rcases verbatim_of_qualifierOf found with rfl | visible | rfl
        · exact own (.verbatim c.qualifier) (.inl (.inr (.inl rfl)))
        · exact scope _ visible
        · exact .nil

theorem keywordFree_applied {function : Option String} {a : String}
    (own : ∀ f, function = some f → KeywordFree d f.toList) (argument : KeywordFree d a.toList) :
    KeywordFree d (applied function a).toList := by
  cases function with
  | none => exact argument
  | some f =>
    have whole := (own f rfl).parens argument.closed
    simpa [applied] using whole

/-- The functions of operators are no keywords. -/
theorem keywordFree_enclosed (h : d.Enclosed (Wording.Closed d) t) : KeywordFree d t.toList := by
  obtain ⟨f, used, inner, phrase, same⟩ := h
  have functions : ∀ f ∈ Dialect.operatorFunctions, KeywordFree d f.toList := by
    cases d <;> decide +kernel
  have whole := (functions f used).parens phrase.closed
  rw [same]
  simpa using whole

/-- **The expression of a column is keyword-free** if the wordings of the column and of the scope
are. -/
theorem keywordFree_render : ∀ (c : Column) {t : String}, c.render d s = .ok t →
    (∀ w ∈ c.wordings, w.KeywordFree d) → (∀ w ∈ s.wordings, w.KeywordFree d) →
      KeywordFree d t.toList
  | ⟨function, qualifier, name, label, value, raw, none⟩, t, h, own, scope => by
    simp only [render, bind_eq_ok, pure_eq_ok] at h
    obtain ⟨a, first, rfl⟩ := h
    rw [wordings] at own
    refine keywordFree_applied (fun f same => ?_) (keywordFree_base first own scope)
    exact own (.verbatim f) (by simp [ownWordings, same])
  | ⟨function, qualifier, name, label, value, raw, some (op, other)⟩, t, h, own, scope => by
    obtain ⟨a, b, combined, first, second, joined, rfl⟩ := render_operation_eq_ok h
    rw [wordings] at own
    have mine : ∀ w ∈ ownWordings ⟨function, qualifier, name, label, value, raw, none⟩,
        w.KeywordFree d := fun w member => own w (List.mem_append_left _ member)
    have base : Phrase d (Wording.Closed d) a :=
      phrase_base first (fun w member => (mine w member).closed) fun w member =>
        (scope w member).closed
    have operand : ∀ text, b = some text → Phrase d (Wording.Closed d) text := fun text same =>
      phrase_render other (second text same)
        (fun w member => (own w (List.mem_append_right _ member)).closed)
        fun w member => (scope w member).closed
    refine keywordFree_applied (fun f same => ?_)
      (keywordFree_enclosed (Dialect.enclosed_operation joined base operand))
    exact mine (.verbatim f) (by simp [ownWordings, same])

end Column

end EntitySql
