import EntitySql.Proofs.Condition.Reader

/-!
# Texts without keywords

A text is keyword-free when it closes its quotes and parentheses and no `AND`, `OR` or `BETWEEN`
stands outside of them. The reader takes such a text into an operand as it is. It is solid when it
also makes the operand a test.

Texts may be put together at a character that ends a word, at a quoted text or at a parenthesis;
what a parenthesis holds does not matter as long as it closes. So an operator, a function or a
quoted name makes an expression keyword-free. What is left are names written bare, which are no
reserved words, and literals, where keywords lack the letters. The expression of a column is
keyword-free if its verbatim wordings are (`Column.keywordFree_render`).
-/

namespace EntitySql

set_option autoImplicit false

open Outcome

variable {d : Dialect}

/-! ## Texts that read as certain lexemes -/

/-- The text closes its quotes and parentheses and its lexemes pass the check. -/
def LexesTo (d : Dialect) (check : List Lexeme → Bool) (cs : List Char) : Prop :=
  (readItems d cs).any (fun is => check (lexemes is)) = true

instance (d : Dialect) (check : List Lexeme → Bool) (cs : List Char) :
    Decidable (LexesTo d check cs) :=
  inferInstanceAs (Decidable ((readItems d cs).any (fun is => check (lexemes is)) = true))

theorem lexesTo_iff {check : List Lexeme → Bool} {cs : List Char} :
    LexesTo d check cs ↔
      ∃ is, Item.AllLexical d is ∧ Item.allText is = cs ∧ check (lexemes is) = true := by
  constructor
  · intro passes
    obtain ⟨is, found, checked⟩ := (Option.any_eq_true _ _).1 passes
    obtain ⟨lexical, text⟩ := readItems_eq_some found
    exact ⟨is, lexical, text, checked⟩
  · rintro ⟨is, lexical, rfl, checked⟩
    rw [LexesTo, readItems_allText lexical]
    exact checked

/-- No lexeme is a keyword. -/
def keywordFree (ls : List Lexeme) : Bool := ls.all fun l => l.keyword?.isNone

/-- No lexeme is a keyword, and one makes an operand a test. -/
def solid (ls : List Lexeme) : Bool := keywordFree ls && ls.any Lexeme.isSolid

theorem keyword?_of_keywordFree {ls : List Lexeme} (h : keywordFree ls = true) :
    ∀ l ∈ ls, l.keyword? = none := by
  intro l member
  exact Option.isNone_iff_eq_none.1 (List.all_eq_true.1 h l member)

@[simp] theorem keywordFree_append (ls ms : List Lexeme) :
    keywordFree (ls ++ ms) = (keywordFree ls && keywordFree ms) := List.all_append

@[simp] theorem keywordFree_cons (l : Lexeme) (ls : List Lexeme) :
    keywordFree (l :: ls) = (l.keyword?.isNone && keywordFree ls) := rfl

/-- The text has no keyword outside of quotes and parentheses, which it closes. -/
abbrev KeywordFree (d : Dialect) (cs : List Char) : Prop := LexesTo d keywordFree cs

/-- The text is keyword-free and makes an operand a test. -/
abbrev Solid (d : Dialect) (cs : List Char) : Prop := LexesTo d solid cs

theorem Solid.keywordFree {cs : List Char} (h : Solid d cs) : KeywordFree d cs := by
  obtain ⟨is, lexical, text, checked⟩ := lexesTo_iff.1 h
  exact lexesTo_iff.2 ⟨is, lexical, text, (Bool.and_eq_true_iff.1 checked).1⟩

theorem KeywordFree.closed {cs : List Char} (h : KeywordFree d cs) : Closed d cs := by
  obtain ⟨is, lexical, text, _⟩ := lexesTo_iff.1 h
  exact closed_iff.2 ⟨is, lexical, text⟩

/-! ## Putting texts together -/

section Around

variable {a b : List Char} {i : Item} {first second whole : List Lexeme → Bool}

/-- Two texts around an item that is no part of a word lex to the lexemes of both and its own. -/
theorem LexesTo.around (ha : LexesTo d first a) (hb : LexesTo d second b) (lexical : i.Lexical d)
    (apart : i.isWordItem = false)
    (join : ∀ ls ms, first ls = true → second ms = true → whole (ls ++ i.lexeme :: ms) = true) :
    LexesTo d whole (a ++ (i.text ++ b)) := by
  obtain ⟨xs, lexicalFirst, rfl, checkedFirst⟩ := lexesTo_iff.1 ha
  obtain ⟨ys, lexicalSecond, rfl, checkedSecond⟩ := lexesTo_iff.1 hb
  refine lexesTo_iff.2
    ⟨xs ++ i :: ys, Item.allLexical_append.2 ⟨lexicalFirst, lexical, lexicalSecond⟩, ?_, ?_⟩
  · rw [Item.allText_append, Item.allText]
  · rw [lexemes_append_cons apart]
    exact join _ _ checkedFirst checkedSecond

/-- The lexeme of an item between words is no keyword. -/
theorem keywordFree_around {ls ms : List Lexeme} (h : keywordFree ls = true)
    (g : keywordFree ms = true) : keywordFree (ls ++ i.lexeme :: ms) = true := by
  have plain : i.lexeme.keyword? = none := by cases i <;> rfl
  rw [keywordFree_append, keywordFree_cons, h, g, plain]
  rfl

theorem KeywordFree.around (ha : KeywordFree d a) (hb : KeywordFree d b) (lexical : i.Lexical d)
    (apart : i.isWordItem = false) : KeywordFree d (a ++ (i.text ++ b)) := by
  refine LexesTo.around ha hb lexical apart ?_
  intro ls ms left right
  exact keywordFree_around left right

/-- A solid text stays solid when something follows. -/
theorem Solid.before (ha : Solid d a) (hb : KeywordFree d b) (lexical : i.Lexical d)
    (apart : i.isWordItem = false) : Solid d (a ++ (i.text ++ b)) := by
  refine LexesTo.around ha hb lexical apart ?_
  intro ls ms left right
  obtain ⟨free, one⟩ := Bool.and_eq_true_iff.1 left
  rw [solid, keywordFree_around free right, List.any_append, one]
  rfl

/-- A solid text stays solid when something stands before it. -/
theorem Solid.after (ha : KeywordFree d a) (hb : Solid d b) (lexical : i.Lexical d)
    (apart : i.isWordItem = false) : Solid d (a ++ (i.text ++ b)) := by
  refine LexesTo.around ha hb lexical apart ?_
  intro ls ms left right
  obtain ⟨free, one⟩ := Bool.and_eq_true_iff.1 right
  rw [solid, keywordFree_around left free, List.any_append, List.any_cons, one, Bool.or_true,
    Bool.or_true]
  rfl

end Around

section Blanks

variable {a b : List Char}

theorem lexical_blank : (Item.char ' ').Lexical d := Item.lexical_char (by decide)

theorem KeywordFree.blank (ha : KeywordFree d a) (hb : KeywordFree d b) :
    KeywordFree d (a ++ ' ' :: b) := ha.around hb lexical_blank rfl

theorem Solid.blank_before (ha : Solid d a) (hb : KeywordFree d b) : Solid d (a ++ ' ' :: b) :=
  ha.before hb lexical_blank rfl

theorem Solid.blank_after (ha : KeywordFree d a) (hb : Solid d b) : Solid d (a ++ ' ' :: b) :=
  Solid.after ha hb lexical_blank rfl

end Blanks

section Parentheses

variable {a b f : List Char}

theorem KeywordFree.nil : KeywordFree d [] := lexesTo_iff.2 ⟨[], trivial, rfl, rfl⟩

/-- What stands in parentheses has to be closed, no more. -/
theorem KeywordFree.parens (ha : KeywordFree d a) (inside : Closed d b) :
    KeywordFree d (a ++ '(' :: (b ++ [')'])) := by
  obtain ⟨is, lexical, rfl⟩ := closed_iff.1 inside
  have whole := ha.around (i := .paren is) .nil lexical rfl
  simpa [Item.text] using whole

theorem Solid.parens (ha : Solid d a) (inside : Closed d b) :
    Solid d (a ++ '(' :: (b ++ [')'])) := by
  obtain ⟨is, lexical, rfl⟩ := closed_iff.1 inside
  have whole := ha.before (i := .paren is) .nil lexical rfl
  simpa [Item.text] using whole

/-- Quoted texts stand between keyword-free ones. -/
theorem KeywordFree.quoted (ha : KeywordFree d a) (inside : QuotedOnly d b)
    (hf : KeywordFree d f) : KeywordFree d (a ++ (b ++ f)) := by
  obtain ⟨is, notEmpty, quoted, lexical, rfl⟩ := inside
  induction is generalizing a with
  | nil => exact absurd rfl notEmpty
  | cons i is ih =>
    obtain ⟨t, rfl⟩ := quoted i List.mem_cons_self
    obtain ⟨first, others⟩ := lexical
    have rest : KeywordFree d (Item.allText is ++ f) := by
      by_cases empty : is = []
      · subst empty
        exact hf
      · exact ih .nil empty (fun j member => quoted j (List.mem_cons_of_mem _ member)) others
    have whole := ha.around rest first rfl
    rw [Item.allText, List.append_assoc]
    exact whole

theorem QuotedOnly.keywordFree (inside : QuotedOnly d b) : KeywordFree d b := by
  have whole := KeywordFree.nil.quoted inside .nil
  simpa using whole

end Parentheses

/-! ## Words -/

/-- No keyword has the character. -/
def isOffKeyword (c : Char) : Bool := c.toUpper != 'N' && c.toUpper != 'R'

/-- Every keyword has an `N` or an `R`. -/
theorem keywordOf?_eq_none {word : List Char} (h : ∀ c ∈ word, isOffKeyword c = true) :
    keywordOf? word = none := by
  have off : ∀ letter, letter = 'N' ∨ letter = 'R' → letter ∉ word.map Char.toUpper := by
    rintro letter either member
    obtain ⟨c, used, same⟩ := List.mem_map.1 member
    have both := h c used
    rcases either with rfl | rfl <;> simp [isOffKeyword, same] at both
  unfold keywordOf?
  rw [if_neg, if_neg, if_neg]
  · intro same
    exact off 'N' (.inl rfl) (by simp [same])
  · intro same
    exact off 'R' (.inr rfl) (by simp [same])
  · intro same
    exact off 'N' (.inl rfl) (by simp [same])

theorem keywordFree_wordRead {word : List Char} (off : ∀ c ∈ word, isOffKeyword c = true) :
    keywordFree (wordRead word) = true := by
  unfold wordRead
  split
  · rfl
  · simp [keywordFree, Lexeme.keyword?, keywordOf?_eq_none off]

-- Stated for the word that is being read, which the characters before have left open.
theorem keywordFree_lexemesFrom {cs : List Char} (off : ∀ c ∈ cs, isOffKeyword c = true)
    {word : List Char} (before : ∀ c ∈ word, isOffKeyword c = true) :
    keywordFree (Item.lexemesFrom word (cs.map .char)) = true := by
  induction cs generalizing word with
  | nil => exact keywordFree_wordRead before
  | cons c cs ih =>
    obtain ⟨first, later⟩ := List.forall_mem_cons.1 off
    rw [List.map_cons, Item.lexemesFrom]
    split
    · have longer : ∀ b ∈ word ++ [c], isOffKeyword b = true :=
        List.forall_mem_append.2 ⟨before, List.forall_mem_singleton.2 first⟩
      exact ih later longer
    · rw [keywordFree_append, keywordFree_cons, keywordFree_wordRead before]
      exact ih later (List.forall_mem_nil _)

/-- Characters without those of keywords. -/
theorem keywordFree_of_off {cs : List Char} (plain : ∀ c ∈ cs, isPlainChar c = true)
    (off : ∀ c ∈ cs, isOffKeyword c = true) : KeywordFree d cs := by
  obtain ⟨lexical, text⟩ := Item.allLexical_chars (d := d) plain
  refine lexesTo_iff.2 ⟨_, lexical, text, ?_⟩
  exact keywordFree_lexemesFrom off (List.forall_mem_nil _)

/-- A name written bare is a word and none of the keywords. -/
theorem keywordFree_bare {s : String} (h : ¬needsQuoting s = true) : KeywordFree d s.toList := by
  have letters := consists_bare h
  obtain ⟨lexical, text⟩ :=
    Item.allLexical_chars (d := d) fun c member => isPlainChar_of_isNameChar (letters c member)
  refine lexesTo_iff.2 ⟨_, lexical, text, ?_⟩
  rw [lexemes_word fun c member => by simp [isWordChar, letters c member]]
  have unreserved : Text.upperAscii s ∉ reservedWords := by
    simp only [needsQuoting, Bool.or_eq_true, not_or] at h
    simpa [isReservedWord] using h.2
  have ordinary : keywordOf? s.toList = none := by
    have upper : ∀ cs, s.toList.map Char.toUpper = cs → Text.upperAscii s = String.ofList cs := by
      rintro _ rfl
      rfl
    unfold keywordOf?
    rw [if_neg, if_neg, if_neg]
    · intro same
      exact unreserved (upper _ same ▸ by decide)
    · intro same
      exact unreserved (upper _ same ▸ by decide)
    · intro same
      exact unreserved (upper _ same ▸ by decide)
  unfold wordRead
  split
  · rfl
  · simp [keywordFree, Lexeme.keyword?, ordinary]

end EntitySql
