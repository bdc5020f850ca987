import EntitySql.Proofs.Sql.Clause

/-!
# Texts as items

A reader of a statement first tells quoted texts and parentheses from the rest. What it finds are
items: single characters, texts between quotes and parentheses with items inside. It goes through a
text character by character (`ReadState.step`) and keeps the levels that are open.

Quotes are those of the dialect. A quote doubled inside a text ends one quoted item and begins the
next, which makes no difference outside. One dialect has a backslash that takes the next character
with it; in another one a closing bracket outside of brackets continues the name that ended with
the one before.

A text is closed when the reader gets to its end with all quotes and parentheses closed. Names and
literals are closed, whatever they are made from, so phrases and clauses are closed when their
verbatim wordings are (`Phrase.closed`, `Clause.closed_sqlFrom`).
-/

namespace EntitySql

set_option autoImplicit false

/-- A character, a quoted text or a pair of parentheses. -/
inductive Item where
  | char (c : Char)
  /-- A text with its quotes. -/
  | quoted (cs : List Char)
  | paren (items : List Item)

namespace Dialect

/-- The quote that closes what a character opens. -/
def closingQuote? (d : Dialect) (c : Char) : Option Char :=
  if c = '\'' ∨ c = '"' then some c
  else if d = .mysql ∧ c = '\x60' then some c
  else if d = .sqlServer ∧ (c = '[' ∨ c = ']') then some ']'
  else none

/-- The character takes the next one with it, inside a text that ends with a quote. -/
def escapes (d : Dialect) (closing c : Char) : Bool :=
  d == .mysql && closing != '\x60' && c == '\\'

end Dialect

/-! ## The reader -/

/-- Where the reader is. -/
inductive ReadMode where
  | plain
  /-- Inside quotes, with the text so far. -/
  | quoted (closing : Char) (text : List Char)
  /-- After a backslash inside quotes. -/
  | escaped (closing : Char) (text : List Char)

/-- What the reader has found: the items of the open level and those of the levels around it. -/
structure ReadState where
  mode : ReadMode
  items : List Item
  outer : List (List Item)

namespace ReadState

/-- Nothing is read. -/
def start : ReadState := ⟨.plain, [], []⟩

/-- Reads one character; there is nothing to close for a parenthesis too many. -/
def step (d : Dialect) (σ : ReadState) (c : Char) : Option ReadState :=
  match σ.mode with
  | .plain =>
    if c = '(' then some ⟨.plain, [], σ.items :: σ.outer⟩
    else if c = ')' then
      match σ.outer with
      | [] => none
      | before :: rest => some ⟨.plain, before ++ [.paren σ.items], rest⟩
    else
      match d.closingQuote? c with
      | some closing => some { σ with mode := .quoted closing [c] }
      | none => some { σ with items := σ.items ++ [.char c] }
  | .quoted closing text =>
    if c = closing then some { σ with mode := .plain, items := σ.items ++ [.quoted (text ++ [c])] }
    else if d.escapes closing c then some { σ with mode := .escaped closing (text ++ [c]) }
    else some { σ with mode := .quoted closing (text ++ [c]) }
  | .escaped closing text => some { σ with mode := .quoted closing (text ++ [c]) }

/-- The items read, when nothing is left open. -/
def result? (σ : ReadState) : Option (List Item) :=
  match σ.mode, σ.outer with
  | .plain, [] => some σ.items
  | _, _ => none

end ReadState

/-- The items of a text. -/
def readItems (d : Dialect) (cs : List Char) : Option (List Item) :=
  (cs.foldlM (ReadState.step d) .start).bind ReadState.result?

/-! ## Texts of items -/

mutual
/-- The text of an item. -/
def Item.text : Item → List Char
  | .char c => [c]
  | .quoted cs => cs
  | .paren items => '(' :: (Item.allText items ++ [')'])
  termination_by structural i => i

/-- The text of items. -/
def Item.allText : List Item → List Char
  | [] => []
  | i :: is => i.text ++ Item.allText is
  termination_by structural is => is
end

/-- What may stand between quotes: nothing that closes them, and no backslash that would take the
closing quote with it. -/
def Dialect.staysQuoted (d : Dialect) (closing : Char) : List Char → Bool
  | [] => true
  | [c] => c != closing && !d.escapes closing c
  | c :: e :: rest =>
    c != closing &&
      if d.escapes closing c then staysQuoted d closing rest else staysQuoted d closing (e :: rest)

mutual
/-- The reader finds the item where its text stands. -/
def Item.Lexical (d : Dialect) : Item → Prop
  | .char c => c ≠ '(' ∧ c ≠ ')' ∧ d.closingQuote? c = none
  | .quoted cs => ∃ opening body closing, cs = opening :: (body ++ [closing]) ∧
      d.closingQuote? opening = some closing ∧ d.staysQuoted closing body = true
  | .paren items => Item.AllLexical d items
  termination_by structural i => i

/-- The reader finds each of the items. -/
def Item.AllLexical (d : Dialect) : List Item → Prop
  | [] => True
  | i :: is => i.Lexical d ∧ Item.AllLexical d is
  termination_by structural is => is
end

namespace Item

variable {d : Dialect}

theorem allText_append (xs ys : List Item) : allText (xs ++ ys) = allText xs ++ allText ys := by
  induction xs with
  | nil => rfl
  | cons x xs ih => rw [List.cons_append, allText, allText, ih, List.append_assoc]

theorem allLexical_append {xs ys : List Item} :
    AllLexical d (xs ++ ys) ↔ AllLexical d xs ∧ AllLexical d ys := by
  induction xs with
  | nil => simp [AllLexical]
  | cons x xs ih => simp [AllLexical, ih, and_assoc]

end Item

/-! ## The reader finds items -/

namespace ReadState

variable {d : Dialect}

/-- A quoted text is read up to its closing quote. -/
theorem run_body {closing : Char} : ∀ {body : List Char} (text : List Char) (σ : ReadState),
    d.staysQuoted closing body = true →
      body.foldlM (step d) { σ with mode := .quoted closing text } =
        some { σ with mode := .quoted closing (text ++ body) }
  | [], text, σ, _ => by simp
  | [c], text, σ, h => by
    simp only [Dialect.staysQuoted, Bool.and_eq_true, bne_iff_ne, ne_eq, Bool.not_eq_true'] at h
    simp [step, h.1, h.2]
  | c :: e :: rest, text, σ, h => by
    simp only [Dialect.staysQuoted, Bool.and_eq_true, bne_iff_ne, ne_eq] at h
    obtain ⟨stays, later⟩ := h
    rw [List.foldlM_cons]
    split at later
    · rename_i escape
      have first : step d { σ with mode := .quoted closing text } c =
          some { σ with mode := .escaped closing (text ++ [c]) } := by
        simp [step, stays, escape]
      have second : step d { σ with mode := .escaped closing (text ++ [c]) } e =
          some { σ with mode := .quoted closing (text ++ [c] ++ [e]) } := by
        simp [step]
      rw [first, Option.bind_eq_bind, Option.bind_some, List.foldlM_cons, second]
      have run := run_body (text ++ [c] ++ [e]) σ later
      simpa using run
    · rename_i ordinary
      have first : step d { σ with mode := .quoted closing text } c =
          some { σ with mode := .quoted closing (text ++ [c]) } := by
        simp [step, stays, ordinary]
      rw [first, Option.bind_eq_bind, Option.bind_some]
      have run := run_body (text ++ [c]) σ later
      simpa using run

end ReadState

/-- Parentheses are no quotes. -/
theorem Dialect.ne_paren_of_closingQuote? {d : Dialect} {c closing : Char}
    (h : d.closingQuote? c = some closing) : c ≠ '(' ∧ c ≠ ')' := by
  refine ⟨?_, ?_⟩
  · rintro rfl
    cases d <;> cases h
  · rintro rfl
    cases d <;> cases h

mutual
/-- **The reader finds an item where its text stands,** whatever was read before. -/
theorem Item.run_text {d : Dialect} : ∀ (i : Item) (items : List Item) (outer : List (List Item)),
    i.Lexical d → i.text.foldlM (ReadState.step d) ⟨.plain, items, outer⟩ =
      some ⟨.plain, items ++ [i], outer⟩
  | .char c, items, outer, h => by
    obtain ⟨notOpening, notClosing, bare⟩ := h
    simp [Item.text, ReadState.step, notOpening, notClosing, bare]
  | .quoted cs, items, outer, h => by
    obtain ⟨opening, body, closing, rfl, opens, stays⟩ := h
    obtain ⟨notOpening, notClosing⟩ := Dialect.ne_paren_of_closingQuote? opens
    have first : ReadState.step d ⟨.plain, items, outer⟩ opening =
        some ⟨.quoted closing [opening], items, outer⟩ := by
      simp [ReadState.step, notOpening, notClosing, opens]
    have inside := ReadState.run_body [opening] ⟨.plain, items, outer⟩ stays
    have last : ReadState.step d ⟨.quoted closing ([opening] ++ body), items, outer⟩ closing =
        some ⟨.plain, items ++ [.quoted ([opening] ++ body ++ [closing])], outer⟩ := by
      simp [ReadState.step]
    rw [Item.text, List.foldlM_cons, first, Option.bind_eq_bind, Option.bind_some,
      List.foldlM_append, inside, Option.bind_eq_bind, Option.bind_some, List.foldlM_cons, last]
    simp
  | .paren inner, items, outer, h => by
    rw [Item.Lexical] at h
    have run := Item.run_allText inner [] (items :: outer) h
    have first : ReadState.step d ⟨.plain, items, outer⟩ '(' =
        some ⟨.plain, [], items :: outer⟩ := by simp [ReadState.step]
    have last : ReadState.step d ⟨.plain, [] ++ inner, items :: outer⟩ ')' =
        some ⟨.plain, items ++ [.paren inner], outer⟩ := by simp [ReadState.step]
    rw [Item.text, List.foldlM_cons, first, Option.bind_eq_bind, Option.bind_some,
      List.foldlM_append, run, Option.bind_eq_bind, Option.bind_some, List.foldlM_cons, last]
    simp

theorem Item.run_allText {d : Dialect} : ∀ (is items : List Item) (outer : List (List Item)),
    Item.AllLexical d is → (Item.allText is).foldlM (ReadState.step d) ⟨.plain, items, outer⟩ =
      some ⟨.plain, items ++ is, outer⟩
  | [], items, outer, _ => by simp [Item.allText]
  | i :: is, items, outer, h => by
    rw [Item.AllLexical] at h
    have rest := Item.run_allText is (items ++ [i]) outer h.2
    rw [Item.allText, List.foldlM_append, Item.run_text i items outer h.1]
    simpa using rest
end

/-- **Items that the reader finds one by one are the items of their text.** -/
theorem readItems_allText {d : Dialect} {is : List Item} (h : Item.AllLexical d is) :
    readItems d (Item.allText is) = some is := by
  have run := Item.run_allText is [] [] h
  rw [readItems, ReadState.start, run]
  rfl

/-! ## What the reader finds are items -/

namespace ReadState

variable {d : Dialect}

theorem staysQuoted_append {closing : Char} {b : List Char} : ∀ {a : List Char},
    d.staysQuoted closing a = true → d.staysQuoted closing b = true →
      d.staysQuoted closing (a ++ b) = true
  | [], _, hb => hb
  | [c], ha, hb => by
    simp only [Dialect.staysQuoted, Bool.and_eq_true, Bool.not_eq_true'] at ha
    cases b with
    | nil => simp [Dialect.staysQuoted, ha]
    | cons e rest => simpa [Dialect.staysQuoted, ha] using hb
  | c :: e :: rest, ha, hb => by
    simp only [Dialect.staysQuoted, Bool.and_eq_true] at ha
    simp only [List.cons_append, Dialect.staysQuoted, Bool.and_eq_true]
    refine ⟨ha.1, ?_⟩
    split at ha
    · rename_i escape
      rw [if_pos escape]
      exact staysQuoted_append ha.2 hb
    · rename_i ordinary
      rw [if_neg ordinary]
      exact staysQuoted_append (a := e :: rest) ha.2 hb

/-- The text of the levels around the open one. -/
def outerText : List (List Item) → List Char
  | [] => []
  | items :: rest => outerText rest ++ Item.allText items ++ ['(']

/-- The text of an item that is not closed yet. -/
def modeText : ReadMode → List Char
  | .plain => []
  | .quoted _ text => text
  | .escaped _ text => text

/-- The text read so far. -/
def text (σ : ReadState) : List Char := outerText σ.outer ++ Item.allText σ.items ++ modeText σ.mode

/-- A quoted text that is not closed yet may still be closed. -/
def ModeSound (d : Dialect) : ReadMode → Prop
  | .plain => True
  | .quoted closing text => ∃ opening body, text = opening :: body ∧
      d.closingQuote? opening = some closing ∧ d.staysQuoted closing body = true
  | .escaped closing text => ∃ opening body b, text = opening :: (body ++ [b]) ∧
      d.closingQuote? opening = some closing ∧ d.staysQuoted closing body = true ∧
      b ≠ closing ∧ d.escapes closing b = true

/-- The reader has found items only. -/
structure Sound (d : Dialect) (σ : ReadState) : Prop where
  items : Item.AllLexical d σ.items
  outer : ∀ level ∈ σ.outer, Item.AllLexical d level
  mode : ModeSound d σ.mode

/-- One character more is read. -/
theorem sound_step {σ τ : ReadState} {c : Char} (sound : σ.Sound d) (h : σ.step d c = some τ) :
    τ.Sound d ∧ τ.text = σ.text ++ [c] := by
  obtain ⟨mode, items, outer⟩ := σ
  obtain ⟨found, around, pending⟩ := sound
  cases mode with
  | plain =>
    simp only [step] at h
    split at h
    · rename_i opening
      cases h
      refine ⟨⟨trivial, fun level member => ?_, trivial⟩, ?_⟩
      · rcases List.mem_cons.1 member with rfl | member
        · exact found
        · exact around level member
      · simp [text, outerText, modeText, Item.allText, opening]
    · rename_i notOpening
      split at h
      · rename_i closing
        split at h
        · cases h
        · rename_i before rest
          cases h
          have outside := fun level member => around level (List.mem_cons_of_mem _ member)
          refine ⟨⟨?_, outside, trivial⟩, ?_⟩
          · refine Item.allLexical_append.2 ⟨around before List.mem_cons_self, ?_⟩
            exact ⟨found, trivial⟩
          · simp [text, outerText, modeText, Item.allText, Item.text, Item.allText_append, closing]
      · rename_i notClosing
        split at h
        · rename_i closing opens
          cases h
          exact ⟨⟨found, around, ⟨c, [], rfl, opens, rfl⟩⟩, by simp [text, modeText]⟩
        · rename_i bare
          cases h
          refine ⟨⟨Item.allLexical_append.2 ⟨found, ⟨notOpening, notClosing, bare⟩, trivial⟩,
            around, trivial⟩, ?_⟩
          simp [text, modeText, Item.allText_append, Item.allText, Item.text]
  | quoted closing t =>
    obtain ⟨opening, body, rfl, opens, stays⟩ := pending
    simp only [step] at h
    split at h
    · rename_i closes
      cases h
      refine ⟨⟨Item.allLexical_append.2 ⟨found, ?_, trivial⟩, around, trivial⟩, ?_⟩
      · exact ⟨opening, body, closing, by simp [closes], opens, stays⟩
      · simp [text, modeText, Item.allText_append, Item.allText, Item.text]
    · rename_i inside
      split at h
      · rename_i escape
        cases h
        exact ⟨⟨found, around, ⟨opening, body, c, rfl, opens, stays, inside, escape⟩⟩,
          by simp [text, modeText]⟩
      · rename_i ordinary
        cases h
        have one : d.staysQuoted closing [c] = true := by
          simp [Dialect.staysQuoted, inside, ordinary]
        exact ⟨⟨found, around, ⟨opening, body ++ [c], rfl, opens, staysQuoted_append stays one⟩⟩,
          by simp [text, modeText]⟩
  | escaped closing t =>
    obtain ⟨opening, body, b, rfl, opens, stays, inside, escape⟩ := pending
    cases h
    have pair : d.staysQuoted closing [b, c] = true := by
      simp [Dialect.staysQuoted, inside, escape]
    refine ⟨⟨found, around, ⟨opening, body ++ [b, c], by simp, opens,
      staysQuoted_append stays pair⟩⟩, by simp [text, modeText]⟩

/-- A whole text is read. -/
theorem sound_run : ∀ {cs : List Char} {σ τ : ReadState}, σ.Sound d →
    cs.foldlM (step d) σ = some τ → τ.Sound d ∧ τ.text = σ.text ++ cs
  | [], σ, τ, sound, h => by
    cases h
    exact ⟨sound, (List.append_nil _).symm⟩
  | c :: cs, σ, τ, sound, h => by
    rw [List.foldlM_cons] at h
    obtain ⟨ρ, one, rest⟩ := Option.bind_eq_some_iff.1 h
    obtain ⟨between, first⟩ := sound_step sound one
    obtain ⟨last, all⟩ := sound_run between rest
    exact ⟨last, by rw [all, first, List.append_assoc]; rfl⟩

end ReadState

/-- **The items of a text are items, and their text is the text.** -/
theorem readItems_eq_some {d : Dialect} {cs : List Char} {is : List Item}
    (h : readItems d cs = some is) : Item.AllLexical d is ∧ Item.allText is = cs := by
  obtain ⟨σ, run, result⟩ := Option.bind_eq_some_iff.1 h
  have start : ReadState.start.Sound d := by
    refine ⟨?_, ?_, ?_⟩ <;> simp [ReadState.start, Item.AllLexical, ReadState.ModeSound]
  obtain ⟨sound, text⟩ := ReadState.sound_run start run
  obtain ⟨mode, items, outer⟩ := σ
  unfold ReadState.result? at result
  split at result
  · rename_i plain alone
    simp only at plain alone
    subst plain alone
    cases result
    refine ⟨sound.items, ?_⟩
    simpa [ReadState.text, ReadState.outerText, ReadState.modeText, ReadState.start,
      Item.allText] using text
  · cases result

/-! ## Closed texts -/

/-- The text closes all its quotes and parentheses. -/
def Closed (d : Dialect) (cs : List Char) : Prop := (readItems d cs).isSome = true

instance (d : Dialect) (cs : List Char) : Decidable (Closed d cs) :=
  inferInstanceAs (Decidable ((readItems d cs).isSome = true))

variable {d : Dialect}

theorem closed_iff {cs : List Char} :
    Closed d cs ↔ ∃ is, Item.AllLexical d is ∧ Item.allText is = cs := by
  constructor
  · intro closed
    obtain ⟨is, found⟩ := Option.isSome_iff_exists.1 closed
    exact ⟨is, readItems_eq_some found⟩
  · rintro ⟨is, lexical, rfl⟩
    rw [Closed, readItems_allText lexical]
    rfl

namespace Closed

variable {a b : List Char}

theorem nil : Closed d [] := closed_iff.2 ⟨[], trivial, rfl⟩

theorem append (ha : Closed d a) (hb : Closed d b) : Closed d (a ++ b) := by
  obtain ⟨xs, first, rfl⟩ := closed_iff.1 ha
  obtain ⟨ys, second, rfl⟩ := closed_iff.1 hb
  exact closed_iff.2 ⟨xs ++ ys, Item.allLexical_append.2 ⟨first, second⟩, Item.allText_append xs ys⟩

theorem parens (h : Closed d a) : Closed d ('(' :: (a ++ [')'])) := by
  obtain ⟨xs, lexical, rfl⟩ := closed_iff.1 h
  exact closed_iff.2 ⟨[.paren xs], ⟨lexical, trivial⟩, by simp [Item.allText, Item.text]⟩

end Closed

/-- A plain character is an item of its own. -/
theorem Item.lexical_char {c : Char} (h : isPlainChar c = true) : (Item.char c).Lexical d := by
  have bare : c ≠ '\'' ∧ c ≠ '"' ∧ c ≠ '\x60' ∧ c ≠ '(' ∧ c ≠ ')' ∧ c ≠ '[' ∧ c ≠ ']' := by
    refine ⟨?_, ?_, ?_, ?_, ?_, ?_, ?_⟩ <;>
    · rintro rfl
      exact absurd h (by decide)
  obtain ⟨single, double, tick, opening, closing, left, right⟩ := bare
  refine ⟨opening, closing, ?_⟩
  simp [Dialect.closingQuote?, single, double, tick, left, right]

/-- Characters that are items of their own. -/
theorem Item.allLexical_chars {cs : List Char} (h : ∀ c ∈ cs, isPlainChar c = true) :
    Item.AllLexical d (cs.map .char) ∧ Item.allText (cs.map .char) = cs := by
  induction cs with
  | nil => exact ⟨trivial, rfl⟩
  | cons c cs ih =>
    obtain ⟨lexical, text⟩ := ih fun b member => h b (List.mem_cons_of_mem _ member)
    refine ⟨⟨Item.lexical_char (h c List.mem_cons_self), lexical⟩, ?_⟩
    rw [List.map_cons, Item.allText, text]
    rfl

theorem closed_of_plain {cs : List Char} (h : ∀ c ∈ cs, isPlainChar c = true) : Closed d cs :=
  closed_iff.2 ⟨_, Item.allLexical_chars h⟩

/-! ## Quoted texts -/

/-- The text consists of quoted items. -/
def QuotedOnly (d : Dialect) (cs : List Char) : Prop :=
  ∃ is : List Item, is ≠ [] ∧ (∀ i ∈ is, ∃ t, i = .quoted t) ∧ Item.AllLexical d is ∧
    Item.allText is = cs

theorem QuotedOnly.closed {cs : List Char} (h : QuotedOnly d cs) : Closed d cs := by
  obtain ⟨is, _, _, lexical, text⟩ := h
  exact closed_iff.2 ⟨is, lexical, text⟩

/-- A text is quoted, after what stands there already, when every character is written as something
that stays between the quotes or as the closing quote doubled; in the latter case the quotes close
and open again. -/
theorem quotedOnly_after {opening closing : Char} (encode : Char → List Char)
    (opens : d.closingQuote? opening = some closing)
    (again : d.closingQuote? closing = some closing)
    (each : ∀ c, d.staysQuoted closing (encode c) = true ∨ encode c = [closing, closing])
    (body : List Char) (stays : d.staysQuoted closing body = true) (cs : List Char) :
    QuotedOnly d (opening :: (body ++ cs.flatMap encode ++ [closing])) := by
  induction cs generalizing opening body with
  | nil =>
    refine ⟨[.quoted (opening :: (body ++ [closing]))], List.cons_ne_nil _ _,
      fun i member => ⟨_, List.mem_singleton.1 member⟩,
      ⟨⟨opening, body, closing, rfl, opens, stays⟩, trivial⟩, ?_⟩
    simp [Item.allText, Item.text]
  | cons c cs ih =>
    rcases each c with inside | doubled
    · have longer := ih opens (body ++ encode c) (ReadState.staysQuoted_append stays inside)
      simpa using longer
    · obtain ⟨is, _, quoted, lexical, text⟩ := ih again [] rfl
      refine ⟨.quoted (opening :: (body ++ [closing])) :: is, List.cons_ne_nil _ _, ?_,
        ⟨⟨opening, body, closing, rfl, opens, stays⟩, lexical⟩, ?_⟩
      · intro i member
        rcases List.mem_cons.1 member with rfl | member
        · exact ⟨_, rfl⟩
        · exact quoted i member
      · rw [Item.allText, text]
        simp [Item.text, doubled]

/-- Where nothing escapes, doubling the closing quote is enough. -/
theorem quotedOnly_doubling {opening closing : Char}
    (opens : d.closingQuote? opening = some closing)
    (again : d.closingQuote? closing = some closing)
    (ordinary : ∀ c, d.escapes closing c = false) (cs : List Char) :
    QuotedOnly d (opening :: (doubling closing cs ++ [closing])) := by
  refine quotedOnly_after (fun c => if c = closing then [closing, closing] else [c]) opens again
    (fun c => ?_) [] rfl cs
  by_cases same : c = closing
  · exact .inr (if_pos same)
  · left
    simp [Dialect.staysQuoted, same, ordinary]

namespace Dialect

/-- A name between quotes is quoted. -/
theorem quotedOnly_quotedIdentifier (s : String) : QuotedOnly d (d.quotedIdentifier s).toList := by
  have ordinary : ∀ c, d.escapes d.identifierQuotes.2 c = false := by
    intro c
    cases d <;> simp [escapes, identifierQuotes]
  have quotes : d.closingQuote? d.identifierQuotes.1 = some d.identifierQuotes.2 ∧
      d.closingQuote? d.identifierQuotes.2 = some d.identifierQuotes.2 := by
    cases d <;> decide
  have text : (d.quotedIdentifier s).toList =
      d.identifierQuotes.1 :: (doubling d.identifierQuotes.2 s.toList ++ [d.identifierQuotes.2]) :=
    String.toList_ofList
  rw [text]
  exact quotedOnly_doubling quotes.1 quotes.2 ordinary s.toList

/-- A string literal is quoted, but for the letter that marks national strings. -/
theorem quotedOnly_stringLiteral (s : String) : ∃ cs, QuotedOnly d cs ∧
    (d.stringLiteral s).toList = (if d = .sqlServer then ['N'] else []) ++ cs := by
  have single : ∀ e : Dialect, e.closingQuote? '\'' = some '\'' := fun e => by cases e <;> decide
  cases d with
  | mysql =>
    let encode (c : Char) : List Char :=
      if c = '\'' then ['\'', '\''] else if c = '\\' then ['\\', '\\'] else [c]
    have same : doubling '\\' (doubling '\'' s.toList) = s.toList.flatMap encode := by
      unfold doubling
      rw [List.flatMap_assoc]
      congr 1
      funext c
      by_cases quote : c = '\''
      · simp [encode, quote]
      · by_cases slash : c = '\\'
        · simp [encode, slash]
        · simp [encode, quote, slash]
    have each : ∀ c, staysQuoted .mysql '\'' (encode c) = true ∨ encode c = ['\'', '\''] := by
      intro c
      by_cases quote : c = '\''
      · exact .inr (if_pos quote)
      · left
        by_cases slash : c = '\\'
        · simp [encode, slash, staysQuoted, escapes]
        · simp [encode, quote, slash, staysQuoted, escapes]
    refine ⟨_, quotedOnly_after encode (single _) (single _) each [] rfl s.toList, ?_⟩
    simp [stringLiteral, same]
  | sqlServer =>
    exact ⟨_, quotedOnly_doubling (single _) (single _) (fun _ => rfl) s.toList,
      by simp [stringLiteral, quotedText]⟩
  | generic | postgres | h2 | oracle =>
    exact ⟨_, quotedOnly_doubling (single _) (single _) (fun _ => rfl) s.toList,
      by simp [stringLiteral, quotedText]⟩

end Dialect

/-- Such characters neither close a single quote nor change what follows them. -/
theorem staysQuoted_of_isQuotedChar {cs : List Char}
    (inside : ∀ c ∈ cs, d.isQuotedChar c = true) : d.staysQuoted '\'' cs = true := by
  induction cs with
  | nil => rfl
  | cons c cs ih =>
    have plain := inside c List.mem_cons_self
    have notQuote : c ≠ '\'' := by
      rintro rfl
      cases d <;> exact absurd plain (by decide)
    have ordinary : d.escapes '\'' c = false := by
      by_cases slash : c = '\\'
      · subst slash
        cases d <;> first | rfl | exact absurd plain (by decide)
      · cases d <;> simp [Dialect.escapes, slash]
    have one : d.staysQuoted '\'' [c] = true := by
      simp [Dialect.staysQuoted, notQuote, ordinary]
    have others := ih fun b member => inside b (List.mem_cons_of_mem _ member)
    exact ReadState.staysQuoted_append one others

/-- Plain characters between single quotes are quoted. -/
theorem quotedOnly_quote {t : String} (h : Consists d.isQuotedChar t) :
    QuotedOnly d ("'" ++ t ++ "'").toList := by
  have opens : d.closingQuote? '\'' = some '\'' := by cases d <;> decide
  refine ⟨[.quoted ('\'' :: (t.toList ++ ['\'']))], List.cons_ne_nil _ _,
    fun i member => ⟨_, List.mem_singleton.1 member⟩,
    ⟨⟨'\'', t.toList, '\'', rfl, opens, staysQuoted_of_isQuotedChar h⟩, trivial⟩, ?_⟩
  simp [Item.allText, Item.text]

/-! ## Phrases and clauses are closed -/

/-- The wording closes its quotes and parentheses where it is written as it is. -/
def Wording.Closed (d : Dialect) : Wording → Prop
  | .verbatim s => EntitySql.Closed d s.toList
  | .identifier _ | .content _ => True

instance (d : Dialect) (w : Wording) : Decidable (w.Closed d) :=
  match w with
  | .verbatim s => inferInstanceAs (Decidable (EntitySql.Closed d s.toList))
  | .identifier _ | .content _ => .isTrue trivial

theorem Dialect.closed_identifier (s : String) : Closed d (d.identifier s).toList := by
  unfold identifier
  split
  · exact (quotedOnly_quotedIdentifier s).closed
  · rename_i bare
    exact closed_of_plain ((consists_bare bare).mono fun _ => isPlainChar_of_isNameChar)

theorem Dialect.closed_placeholder (n : Nat) : Closed d (d.placeholder n).toList := by
  have sign : ∀ e : Dialect, Closed e "?".toList := fun e => by cases e <;> decide
  cases d with
  | postgres =>
    have digits : Closed .postgres (toString n).toList :=
      closed_of_plain ((consists_toString_nat n).mono fun _ => isPlainChar_of_isDigit)
    have dollar : Closed .postgres ['$'] := by decide
    simpa [placeholder] using dollar.append digits
  | generic | mysql | h2 | sqlServer | oracle => exact sign _

/-- **A phrase of closed wordings is closed.** -/
theorem Phrase.closed {t : String} (h : Phrase d (Wording.Closed d) t) : Closed d t.toList := by
  induction h with
  | plain plain => exact closed_of_plain plain
  | quoted inside => exact (quotedOnly_quote inside).closed
  | verbatim own => exact own
  | identifier _ => exact Dialect.closed_identifier _
  | @content s _ =>
    obtain ⟨cs, quoted, text⟩ := Dialect.quotedOnly_stringLiteral (d := d) s
    rw [text]
    refine Closed.append ?_ quoted.closed
    split
    · exact closed_of_plain (List.all_eq_true.1 rfl)
    · exact .nil
  | append _ _ first second =>
    rw [String.toList_append]
    exact first.append second
  | parens _ ih =>
    have inside := ih.parens
    simpa using inside

/-- **A clause of closed wordings is closed.** -/
theorem Clause.closed_sqlFrom {f : Fragment} (h : Clause d (Wording.Closed d) f) :
    ∀ n, Closed d (f.sqlFrom d n).toList := by
  induction h with
  | nil => exact fun n => .nil
  | text phrase _ ih =>
    intro n
    rw [Fragment.sqlFrom_text, String.toList_append]
    exact phrase.closed.append (ih n)
  | parameter p =>
    intro n
    simpa using Dialect.closed_placeholder (n + 1)
  | append _ _ _ first second =>
    intro n
    rw [Fragment.sqlFrom_append, String.toList_append]
    exact (first n).append (second _)
  | parens _ ih =>
    intro n
    have inside := (ih n).parens
    simpa [Fragment.sqlFrom_append] using inside
  | alike _ same ih =>
    intro n
    rw [same.1]
    exact ih n

end EntitySql
