import EntitySql.Proofs.Condition.Dropped
import EntitySql.Proofs.Condition.Items
import EntitySql.Proofs.Text.IdentifierTokens

/-!
# Where names stand

A statement is spelled from parts: words, literals and placeholders on the one hand, what the model
mentions on the other. A mention is a name, written as an identifier, the alias of a table, or a
text of its own, both written as they are.

A text spells a list of mentions (`Spells`) when its parts mention them in that order, each one that
is written like a name stands between separators, and the other parts close the quotes they open.
So a mention is read outside of quotes wherever those before it close theirs, and a separator
follows it.

Spelled texts are put together where a separator ends the first one or starts the second one
(`Spells.append`). Fragments follow with the rules by which they are joined (`Fragment.Spelled`).
-/

namespace EntitySql

set_option autoImplicit false

open Outcome

variable {d : Dialect}

/-! ## Quotes left open -/

/-- Where a reader is that looks at quotes only. -/
inductive QuoteMode where
  | outside
  | inside (closing : Char)
  /-- After a backslash between quotes. -/
  | escaped (closing : Char)
deriving DecidableEq

namespace QuoteMode

/-- Reads one character. -/
def step (d : Dialect) : QuoteMode → Char → QuoteMode
  | outside, c =>
    match d.closingQuote? c with
    | some closing => inside closing
    | none => outside
  | inside closing, c =>
    if c = closing then outside
    else if d.escapes closing c then escaped closing
    else inside closing
  | escaped closing, _ => inside closing

/-- The quotes of a reader that also looks at parentheses. -/
def ofReadMode : ReadMode → QuoteMode
  | .plain => outside
  | .quoted closing _ => inside closing
  | .escaped closing _ => escaped closing

theorem ofReadMode_step {σ τ : ReadState} {c : Char} (h : σ.step d c = some τ) :
    ofReadMode τ.mode = (ofReadMode σ.mode).step d c := by
  obtain ⟨mode, items, outer⟩ := σ
  cases mode with
  | plain =>
    have parens : d.closingQuote? '(' = none ∧ d.closingQuote? ')' = none := by
      cases d <;> decide
    simp only [ReadState.step] at h
    split at h
    · rename_i opening
      cases h
      simp [ofReadMode, step, opening, parens]
    · split at h
      · rename_i closing
        split at h
        · cases h
        · cases h
          simp [ofReadMode, step, closing, parens]
      · split at h <;>
        · rename_i quote
          cases h
          simp [ofReadMode, step, quote]
  | quoted closing text =>
    simp only [ReadState.step] at h
    split at h
    · rename_i closes
      cases h
      simp [ofReadMode, step, closes]
    · rename_i stays
      split at h <;>
      · rename_i escape
        cases h
        simp [ofReadMode, step, stays, escape]
  | escaped closing text =>
    cases h
    rfl

theorem ofReadMode_run : ∀ {cs : List Char} {σ τ : ReadState},
    cs.foldlM (ReadState.step d) σ = some τ →
      ofReadMode τ.mode = cs.foldl (step d) (ofReadMode σ.mode)
  | [], σ, τ, h => by
    cases h
    rfl
  | c :: cs, σ, τ, h => by
    rw [List.foldlM_cons] at h
    obtain ⟨ρ, one, rest⟩ := Option.bind_eq_some_iff.1 h
    rw [List.foldl_cons, ← ofReadMode_step one, ofReadMode_run rest]

end QuoteMode

/-- A reader that comes to the text outside of quotes leaves it outside of quotes. -/
def Neutral (d : Dialect) (cs : List Char) : Prop :=
  cs.foldl (QuoteMode.step d) .outside = .outside

instance (d : Dialect) (cs : List Char) : Decidable (Neutral d cs) :=
  inferInstanceAs (Decidable (cs.foldl (QuoteMode.step d) .outside = .outside))

namespace Neutral

variable {a b : List Char}

theorem nil : Neutral d [] := rfl

theorem append (ha : Neutral d a) (hb : Neutral d b) : Neutral d (a ++ b) := by
  rw [Neutral, List.foldl_append, ha, hb]

end Neutral

/-- A text that closes its quotes and parentheses closes its quotes. -/
theorem Closed.neutral {cs : List Char} (h : Closed d cs) : Neutral d cs := by
  obtain ⟨items, found⟩ := Option.isSome_iff_exists.1 h
  obtain ⟨σ, run, result⟩ := Option.bind_eq_some_iff.1 found
  have outside : σ.mode = .plain := by
    unfold ReadState.result? at result
    split at result
    · assumption
    · cases result
  have read := QuoteMode.ofReadMode_run run
  rw [outside] at read
  exact read.symm

/-- Neither quote nor square bracket. -/
def isUnquotedChar (c : Char) : Bool := !(['\'', '"', '\x60', '[', ']'].contains c)

theorem neutral_of_unquoted : ∀ {cs : List Char}, cs.all isUnquotedChar = true → Neutral d cs
  | [], _ => .nil
  | c :: cs, h => by
    rw [List.all_cons, Bool.and_eq_true] at h
    have stays : d.closingQuote? c = none := by
      have other : ∀ q ∈ ['\'', '"', '\x60', '[', ']'], c ≠ q := by
        rintro q member rfl
        simp [isUnquotedChar, member] at h
      simp only [List.forall_mem_cons] at other
      simp [Dialect.closingQuote?, other]
    rw [Neutral, List.foldl_cons, QuoteMode.step, stays]
    exact neutral_of_unquoted h.2

/-! ## Mentions and parts -/

/-- What the model mentions in a statement. -/
inductive Mention where
  /-- A part of the name of a table, a column or a label. -/
  | name (s : String)
  /-- The alias of a table, where it is declared and where it qualifies a column. -/
  | tableAlias (s : String)
  /-- A function or a raw expression. -/
  | verbatim (s : String)
deriving DecidableEq

namespace Mention

/-- The text of a mention. -/
def chars (d : Dialect) : Mention → List Char
  | name s => (d.identifier s).toList
  | tableAlias s => s.toList
  | verbatim s => s.toList

/-- The text starts and ends with what is no separator. -/
def Solid (d : Dialect) (m : Mention) : Prop :=
  opensApart (m.chars d) = false ∧ closesApart (m.chars d) = false

theorem solid_of_isNameChar {cs : List Char} (some : cs ≠ []) (h : ∀ c ∈ cs, isNameChar c = true) :
    opensApart cs = false ∧ closesApart cs = false := by
  have apart : ∀ c ∈ cs, isSeparator c = false := by
    intro c member
    have word := isIdentifierChar_of_isNameChar (h c member)
    cases separator : isSeparator c with
    | false => rfl
    | true =>
      rw [isIdentifierChar_of_isSeparator separator] at word
      cases word
  refine ⟨?_, ?_⟩
  · rw [opensApart, List.head?_eq_some_head some, Option.all_some]
    exact apart _ (List.head_mem some)
  · rw [closesApart, List.getLast?_eq_some_getLast some, Option.all_some]
    exact apart _ (List.getLast_mem some)

theorem ne_nil_of_bare {s : String} (bare : needsQuoting s = false) : s.toList ≠ [] := by
  intro empty
  simp [needsQuoting, isPlainIdentifier, empty] at bare

theorem solid_name (d : Dialect) (s : String) : (name s).Solid d := by
  show opensApart (d.identifier s).toList = false ∧ closesApart (d.identifier s).toList = false
  unfold Dialect.identifier
  split
  · have quotes : isSeparator d.identifierQuotes.1 = false ∧
        isSeparator d.identifierQuotes.2 = false := by
      cases d <;> decide
    rw [Dialect.toList_quotedIdentifier, ← List.cons_append]
    refine ⟨?_, ?_⟩
    · simp [opensApart, quotes.1]
    · rw [closesApart, List.getLast?_concat, Option.all_some]
      exact quotes.2
  · rename_i bare
    exact solid_of_isNameChar (ne_nil_of_bare (Bool.eq_false_iff.2 bare)) (consists_bare bare)

theorem solid_tableAlias {s : String} (bare : needsQuoting s = false) :
    (tableAlias s).Solid d :=
  solid_of_isNameChar (ne_nil_of_bare bare) (consists_bare (Bool.eq_false_iff.1 bare))

/-- Names close the quotes they open. What is written as it is may leave one open. -/
def Closing (d : Dialect) : Mention → Prop
  | name _ => True
  | tableAlias s | verbatim s => Neutral d s.toList

theorem Closing.neutral : ∀ {m : Mention}, m.Closing d → Neutral d (m.chars d)
  | name s, _ => (Dialect.closed_identifier s).neutral
  | tableAlias _, h | verbatim _, h => h

/-- Between what is before and after it, the mention is an identifier that stands for the name. -/
def ReadsAs (d : Dialect) (before after : List Char) (m : Mention) (s : String) : Prop :=
  closesApart before = true ∧ d.readIdentifier? (m.chars d ++ after) = some (s, after)

end Mention

/-- A part of a statement. -/
inductive Part where
  | text (cs : List Char)
  | mention (m : Mention)

namespace Part

/-- The text of a part. -/
def chars (d : Dialect) : Part → List Char
  | text cs => cs
  | mention m => m.chars d

/-- The text of parts. -/
def write (d : Dialect) (parts : List Part) : List Char := parts.flatMap (chars d)

/-- What parts mention. -/
def mentions (parts : List Part) : List Mention :=
  parts.filterMap fun
    | text _ => none
    | mention m => some m

theorem write_append (parts others : List Part) :
    write d (parts ++ others) = write d parts ++ write d others := List.flatMap_append

theorem mentions_append (parts others : List Part) :
    mentions (parts ++ others) = mentions parts ++ mentions others := List.filterMap_append

/-- Every mention written like a name stands between separators. -/
def Spaced (d : Dialect) (parts : List Part) : Prop :=
  ∀ before m after, parts = before ++ .mention m :: after → m.Solid d →
    closesApart (write d before) = true ∧ opensApart (write d after) = true

theorem not_opensApart_of_solid {m : Mention} (solid : m.Solid d) {before : List Part}
    (none : write d before = []) (after : List Part) :
    ¬opensApart (write d (before ++ .mention m :: after)) = true := by
  obtain ⟨start, _⟩ := solid
  rw [write_append, none, List.nil_append, Bool.not_eq_true]
  cases same : m.chars d with
  | nil =>
    rw [same] at start
    cases start
  | cons c cs =>
    rw [same] at start
    simpa [write, chars, same, opensApart] using start

theorem not_closesApart_of_solid {m : Mention} (solid : m.Solid d) {after : List Part}
    (none : write d after = []) (before : List Part) :
    ¬closesApart (write d (before ++ .mention m :: after)) = true := by
  obtain ⟨_, finish⟩ := solid
  have some : m.chars d ≠ [] := by
    intro empty
    rw [empty] at finish
    cases finish
  have whole : write d (before ++ .mention m :: after) = write d before ++ m.chars d := by
    have last : write d (.mention m :: after) = m.chars d ++ write d after := List.flatMap_cons
    rw [write_append, last, none, List.append_nil]
  rw [whole, Bool.not_eq_true, closesApart, List.getLast?_append_of_ne_nil _ some]
  exact finish

/-- **A name between separators reads back.** -/
theorem Spaced.readsAs_name {parts before after : List Part} {s : String} (h : Spaced d parts)
    (split : parts = before ++ .mention (.name s) :: after) :
    (Mention.name s).ReadsAs d (write d before) (write d after) s := by
  obtain ⟨starts, ends⟩ := h before _ after split (Mention.solid_name d s)
  exact ⟨starts, d.readIdentifier_identifier s ends⟩

/-- **An alias between separators reads back exactly when it needs no quotes.** -/
theorem Spaced.readsAs_tableAlias_iff {parts before after : List Part} {s : String}
    (h : Spaced d parts) (split : parts = before ++ .mention (.tableAlias s) :: after) :
    (Mention.tableAlias s).ReadsAs d (write d before) (write d after) s ↔
      needsQuoting s = false := by
  have apart := fun bare : needsQuoting s = false =>
    h before _ after split (Mention.solid_tableAlias bare)
  have reads := d.readIdentifier_bare_iff fun bare => (apart bare).2
  exact ⟨fun read => reads.1 read.2, fun bare => ⟨(apart bare).1, reads.2 bare⟩⟩

/-- Parts close their quotes if their mentions do. -/
theorem neutral_write {parts : List Part} (texts : ∀ cs, .text cs ∈ parts → Neutral d cs)
    (closing : ∀ m ∈ mentions parts, m.Closing d) : Neutral d (write d parts) := by
  induction parts with
  | nil => exact .nil
  | cons part parts ih =>
    have rest := fun closing => ih (fun cs member => texts cs (.tail _ member)) closing
    cases part with
    | text cs => exact (texts cs (.head _)).append (rest closing)
    | mention m =>
      exact (closing m (.head _)).neutral.append (rest fun k member => closing k (.tail _ member))

end Part

/-! ## Spelled texts -/

theorem opensApart_append {a b : List Char} (ha : opensApart a = true)
    (hb : a = [] → opensApart b = true) : opensApart (a ++ b) = true := by
  cases a with
  | nil => exact hb rfl
  | cons c cs => exact ha

theorem closesApart_append {a b : List Char} (hb : closesApart b = true)
    (ha : b = [] → closesApart a = true) : closesApart (a ++ b) = true := by
  by_cases none : b = []
  · rw [none, List.append_nil]
    exact ha none
  · rwa [closesApart, List.getLast?_append_of_ne_nil a none]

/-- The text is spelled from parts with these mentions. -/
def Spells (d : Dialect) (ms : List Mention) (t : String) : Prop :=
  ∃ parts, Part.mentions parts = ms ∧ Part.write d parts = t.toList ∧ Part.Spaced d parts ∧
    ∀ cs, .text cs ∈ parts → Neutral d cs

namespace Spells

variable {ms ns : List Mention} {t u w : String}

/-- A text that closes its quotes mentions nothing. -/
theorem text (h : Neutral d t.toList) : Spells d [] t := by
  refine ⟨[.text t.toList], rfl, List.append_nil _, ?_, ?_⟩
  · intro before m after same
    cases before with
    | nil => cases same
    | cons part before => simp at same
  · intro cs member
    cases List.mem_singleton.1 member
    exact h

theorem empty : Spells d [] "" := text .nil

/-- A mention alone. -/
theorem mention {m : Mention} (same : m.chars d = t.toList) : Spells d [m] t := by
  refine ⟨[.mention m], rfl, by simp [Part.write, Part.chars, same], ?_, ?_⟩
  · intro before k after same
    cases before with
    | nil =>
      cases same
      exact fun _ => ⟨rfl, rfl⟩
    | cons part before => simp at same
  · intro cs member
    cases List.mem_singleton.1 member

theorem name (s : String) : Spells d [.name s] (d.identifier s) := mention rfl

theorem verbatim (s : String) : Spells d [.verbatim s] s := mention rfl

theorem tableAlias (s : String) : Spells d [.tableAlias s] s := mention rfl

/-- **Two spelled texts are joined** where a separator ends the first one or starts the second
one. -/
theorem append (first : Spells d ms t) (second : Spells d ns u)
    (apart : closesApart t.toList = true ∨ opensApart u.toList = true) :
    Spells d (ms ++ ns) (t ++ u) := by
  obtain ⟨parts, rfl, left, spaced, neutral⟩ := first
  obtain ⟨others, rfl, right, spaced', neutral'⟩ := second
  refine ⟨parts ++ others, Part.mentions_append parts others,
    by rw [Part.write_append, left, right, String.toList_append], ?_, ?_⟩
  · intro before m after split solid
    have inSecond : ∀ more, before = parts ++ more → others = more ++ .mention m :: after →
        closesApart (Part.write d before) = true ∧ opensApart (Part.write d after) = true := by
      rintro more rfl rest
      obtain ⟨starts, ends⟩ := spaced' more m after rest solid
      refine ⟨?_, ends⟩
      rw [Part.write_append]
      refine closesApart_append starts fun none => ?_
      rw [left]
      refine apart.resolve_right ?_
      rw [← right, rest]
      exact Part.not_opensApart_of_solid solid none after
    rcases List.append_eq_append_iff.1 split with ⟨more, same, rest⟩ | ⟨more, rest, same⟩
    · exact inSecond more same rest
    · cases more with
      | nil => exact inSecond [] (by simpa using rest.symm) same.symm
      | cons part more =>
        rw [List.cons_append] at same
        obtain ⟨rfl, rfl⟩ := List.cons.inj same
        obtain ⟨starts, ends⟩ := spaced before m more rest solid
        refine ⟨starts, ?_⟩
        rw [Part.write_append]
        refine opensApart_append ends fun none => ?_
        rw [right]
        refine apart.resolve_left ?_
        rw [← left, rest]
        exact Part.not_closesApart_of_solid solid none before
  · intro cs member
    rcases List.mem_append.1 member with mine | yours
    · exact neutral cs mine
    · exact neutral' cs yours

end Spells

/-! ## Words around names -/

/-- The word closes its quotes and ends with a separator. -/
def Leads (d : Dialect) (w : String) : Prop :=
  Neutral d w.toList ∧ w.toList.getLast?.any isSeparator = true

/-- The word closes its quotes and starts with a separator. -/
def Trails (d : Dialect) (w : String) : Prop :=
  Neutral d w.toList ∧ w.toList.head?.any isSeparator = true

instance (d : Dialect) (w : String) : Decidable (Leads d w) :=
  inferInstanceAs (Decidable (_ ∧ _))

instance (d : Dialect) (w : String) : Decidable (Trails d w) :=
  inferInstanceAs (Decidable (_ ∧ _))

theorem neutral_word {w : String} {cs : List Char} (same : w = String.ofList cs)
    (h : cs.all isUnquotedChar = true) : Neutral d w.toList := by
  rw [same, String.toList_ofList]
  exact neutral_of_unquoted h

theorem Leads.word {w : String} {cs : List Char} (same : w = String.ofList cs)
    (h : (cs.all isUnquotedChar && cs.getLast?.any isSeparator) = true) : Leads d w := by
  rw [Bool.and_eq_true] at h
  exact ⟨neutral_word same h.1, by rw [same, String.toList_ofList]; exact h.2⟩

theorem Trails.word {w : String} {cs : List Char} (same : w = String.ofList cs)
    (h : (cs.all isUnquotedChar && cs.head?.any isSeparator) = true) : Trails d w := by
  rw [Bool.and_eq_true] at h
  exact ⟨neutral_word same h.1, by rw [same, String.toList_ofList]; exact h.2⟩

theorem Trails.append {w t : String} (h : Trails d w) (more : Neutral d t.toList) :
    Trails d (w ++ t) := by
  refine ⟨by rw [String.toList_append]; exact h.1.append more, ?_⟩
  have start := h.2
  cases chars : w.toList with
  | nil =>
    rw [chars] at start
    cases start
  | cons c cs =>
    rw [chars] at start
    rw [String.toList_append, chars]
    exact start

theorem Trails.opens {w : String} (h : Trails d w) (t : List Char) :
    opensApart (w.toList ++ t) = true := by
  have start := h.2
  cases chars : w.toList with
  | nil =>
    rw [chars] at start
    cases start
  | cons c cs =>
    rw [chars] at start
    exact start

theorem Leads.closes {w : String} (h : Leads d w) (t : List Char) :
    closesApart (t ++ w.toList) = true := by
  have finish := h.2
  have some : w.toList ≠ [] := by
    intro empty
    rw [empty] at finish
    cases finish
  rw [List.getLast?_eq_some_getLast some, Option.any_some] at finish
  rw [closesApart, List.getLast?_append_of_ne_nil t some, List.getLast?_eq_some_getLast some,
    Option.all_some, finish]

theorem Leads.behind {w t : String} (before : Neutral d t.toList) (h : Leads d w) :
    Leads d (t ++ w) := by
  obtain ⟨neutral, finish⟩ := h
  have some : w.toList ≠ [] := by
    intro empty
    rw [empty] at finish
    cases finish
  refine ⟨by rw [String.toList_append]; exact before.append neutral, ?_⟩
  rw [String.toList_append, List.getLast?_append_of_ne_nil _ some]
  exact finish

/-- A word between blanks. -/
theorem trails_leads_spaced {w : String} (plain : Neutral d w.toList) :
    Trails d (" " ++ w ++ " ") ∧ Leads d (" " ++ w ++ " ") := by
  have blank : Trails d " " ∧ Leads d " " := ⟨.word rfl rfl, .word rfl rfl⟩
  exact ⟨(blank.1.append plain).append blank.1.1, .behind (blank.1.append plain).1 blank.2⟩

theorem neutral_count (n : Nat) : Neutral d (toString n).toList := by
  refine (closed_of_plain ?_).neutral
  exact (consists_toString_nat n).mono fun _ => isPlainChar_of_isDigit

theorem Trails.append_count {w : String} (h : Trails d w) (n : Nat) : Trails d (w ++ toString n) :=
  h.append (neutral_count n)

namespace Spells

variable {ms ns : List Mention} {t u w : String}

theorem led (word : Leads d w) (h : Spells d ms t) : Spells d ms (w ++ t) :=
  (text word.1).append h (.inl (by simpa using word.closes []))

theorem trailed (h : Spells d ms t) (word : Trails d w) : Spells d ms (t ++ w) := by
  have joined := h.append (text word.1) (.inr (by simpa using word.opens []))
  rwa [List.append_nil] at joined

/-- A word between two texts. -/
theorem linked (first : Spells d ms t) (trails : Trails d w) (leads : Leads d w)
    (second : Spells d ns u) : Spells d (ms ++ ns) (t ++ w ++ u) :=
  (first.trailed trails).append second (.inl (by
    rw [String.toList_append]
    exact leads.closes _))

/-- Texts between separators. -/
theorem intercalate (trails : Trails d w) (leads : Leads d w) {each : List (List Mention)}
    {texts : List String} (h : List.Forall₂ (Spells d) each texts) :
    Spells d each.flatten (String.intercalate w texts) := by
  induction h with
  | nil =>
    rw [String.intercalate_nil]
    exact empty
  | @cons m t each texts first others ih =>
    cases others with
    | nil =>
      rw [String.intercalate_singleton, List.flatten_singleton]
      exact first
    | cons second others =>
      rw [String.intercalate_cons_cons, List.flatten_cons]
      exact first.linked trails leads ih

end Spells

/-! ## Spelled fragments -/

namespace Fragment

/-- The text of the fragment is spelled, wherever the count of parameters starts. -/
def Spelled (d : Dialect) (ms : List Mention) (f : Fragment) : Prop :=
  ∀ n, Spells d ms (f.sqlFrom d n)

/-- The text of the fragment is empty or starts with a separator. -/
def Opens (d : Dialect) (f : Fragment) : Prop := ∀ n, opensApart (f.sqlFrom d n).toList = true

variable {f g : Fragment} {ms ns : List Mention} {t w : String}

theorem opens_nil : Opens d [] := fun _ => rfl

theorem opens_text (word : Trails d w) (f : Fragment) : Opens d (.text w :: f) := by
  intro n
  rw [sqlFrom_text, String.toList_append]
  exact word.opens _

/-- A text that starts with a word. -/
theorem opens_word (word : Trails d w) (t : String) (f : Fragment) :
    Opens d (.text (w ++ t) :: f) := by
  intro n
  rw [sqlFrom_text, String.append_assoc, String.toList_append]
  exact word.opens _

theorem opens_append (hf : Opens d f) (hg : Opens d g) : Opens d (f ++ g) := by
  intro n
  rw [sqlFrom_append, String.toList_append]
  exact opensApart_append (hf n) fun _ => hg _

theorem opens_separatedAfter (word : Trails d w) (members : List Fragment) :
    Opens d (separatedAfter w true members) := by
  cases members with
  | nil => exact opens_nil
  | cons f rest => exact opens_text word _

theorem trails_spaced (c : Connective) : Trails d c.spaced := by
  cases c <;> exact .word rfl rfl

theorem leads_spaced (c : Connective) : Leads d c.spaced := by
  cases c <;> exact .word rfl rfl

theorem opens_chainedAfter (nodes : List (Connective × Fragment)) :
    Opens d (chainedAfter true nodes) := by
  induction nodes with
  | nil => exact opens_nil
  | cons node rest ih =>
    obtain ⟨c, f⟩ := node
    rw [chainedAfter]
    split
    · exact ih
    · exact opens_text (trails_spaced c) _

theorem opens_after (word : Trails d w) (f : Fragment) : Opens d (f.after w) := by
  unfold after
  split
  · exact opens_nil
  · exact opens_text word f

namespace Spelled

theorem nil : Spelled d [] [] := fun _ => .empty

theorem single (h : Spells d ms t) : Spelled d ms [.text t] := by
  intro n
  rwa [sqlFrom_text, sqlFrom_nil, String.append_empty]

theorem parameter (p : Pair) : Spelled d [] [.parameter p] := by
  intro n
  rw [sqlFrom_parameter, sqlFrom_nil, String.append_empty]
  exact .text (Dialect.closed_placeholder (n + 1)).neutral

theorem append (first : Spelled d ms f) (second : Spelled d ns g) (apart : Opens d g) :
    Spelled d (ms ++ ns) (f ++ g) := by
  intro n
  rw [sqlFrom_append]
  exact (first n).append (second _) (.inr (apart _))

/-- A fragment after a text that ends with a separator. -/
theorem behind (first : Spells d ms t) (closed : closesApart t.toList = true)
    (second : Spelled d ns g) : Spelled d (ms ++ ns) (.text t :: g) := by
  intro n
  rw [sqlFrom_text]
  exact first.append (second n) (.inl closed)

theorem led (word : Leads d w) (h : Spelled d ms f) : Spelled d ms (.text w :: f) :=
  behind (.text word.1) (by simpa using word.closes []) h

/-- A word between a text and a fragment. -/
theorem linked (first : Spells d ms t) (trails : Trails d w) (leads : Leads d w)
    (second : Spelled d ns g) : Spelled d (ms ++ ns) (.text (t ++ w) :: g) :=
  behind (first.trailed trails) (by rw [String.toList_append]; exact leads.closes _) second

theorem trailed (h : Spelled d ms f) (word : Trails d w) : Spelled d ms (f ++ [.text w]) := by
  have joined := h.append (single (.text word.1)) (opens_text word [])
  rwa [List.append_nil] at joined

/-- What a fragment mentions that writes nothing is mentioned by the empty one. -/
theorem of_writesNothing (h : Spelled d ms f) (nothing : f.writesNothing = true) :
    Spelled d ms [] := by
  intro n
  have here := h n
  rwa [(sqlFrom_eq_empty_iff n).2 nothing] at here

/-- A fragment that is left out if it writes nothing. -/
theorem choice (h : Spelled d ms f) {whole : Fragment} (written : Spelled d ms whole) :
    Spelled d ms (if f.writesNothing then [] else whole) := by
  split
  · rename_i nothing
    exact h.of_writesNothing nothing
  · exact written

theorem enclosed {before after : String} (leads : Leads d before) (trails : Trails d after)
    (h : Spelled d ms f) : Spelled d ms (.text before :: (f ++ [.text after])) :=
  (h.trailed trails).led leads

theorem parenthesized (h : Spelled d ms f) : Spelled d ms f.parenthesized :=
  h.choice (h.enclosed (.word rfl rfl) (.word rfl rfl))

theorem after (word : Leads d w) (h : Spelled d ms f) : Spelled d ms (f.after w) :=
  h.choice (h.led word)

theorem separatedAfter (trails : Trails d w) (leads : Leads d w) {each : List (List Mention)}
    {members : List Fragment} (h : List.Forall₂ (Spelled d) each members) (wrote : Bool) :
    Spelled d each.flatten (separatedAfter w wrote members) := by
  induction h generalizing wrote with
  | nil => exact nil
  | @cons m f each members first others ih =>
    rw [List.flatten_cons, Fragment.separatedAfter]
    have lead : Spelled d m (if wrote then f.cons (.text w) else f) := by
      cases wrote with
      | true => exact first.led leads
      | false => exact first
    cases nothing : f.writesNothing with
    | false => exact lead.append (ih true) (opens_separatedAfter trails members)
    | true =>
      -- a member that writes nothing leaves the separator before it, and none after it
      intro n
      rw [sqlFrom_append]
      refine (lead n).append (ih false _) (.inl ?_)
      have silent : f.sqlFrom d n = "" := (sqlFrom_eq_empty_iff n).2 nothing
      cases wrote with
      | true =>
        rw [if_pos rfl, sqlFrom_text, silent, String.append_empty]
        simpa using leads.closes []
      | false =>
        rw [if_neg Bool.false_ne_true, silent]
        rfl

theorem separated (trails : Trails d w) (leads : Leads d w) {each : List (List Mention)}
    {members : List Fragment} (h : List.Forall₂ (Spelled d) each members) :
    Spelled d each.flatten (separated w members) :=
  separatedAfter trails leads h false

theorem separatedTexts (trails : Trails d w) (leads : Leads d w) {each : List (List Mention)}
    {texts : List String} (h : List.Forall₂ (Spells d) each texts) :
    Spelled d each.flatten (separatedTexts w texts) := by
  refine separated trails leads ?_
  rw [List.forall₂_map_right_iff]
  exact h.imp fun _ _ => single

theorem chainedAfter {each : List (List Mention)} {nodes : List (Connective × Fragment)}
    (h : List.Forall₂ (fun ms node => Spelled d ms node.2) each nodes) (started : Bool) :
    Spelled d each.flatten (chainedAfter started nodes) := by
  induction h generalizing started with
  | nil => exact nil
  | @cons m node each nodes first others ih =>
    obtain ⟨c, f⟩ := node
    rw [List.flatten_cons, Fragment.chainedAfter]
    split
    · rename_i nothing
      have joined : Spelled d (m ++ each.flatten) ([] ++ Fragment.chainedAfter started nodes) := by
        intro n
        rw [sqlFrom_append]
        exact (first.of_writesNothing nothing n).append (ih started _) (.inl rfl)
      exact joined
    · have lead : Spelled d m (if started then .text c.spaced :: f else f) := by
        cases started with
        | true => exact first.led (leads_spaced c)
        | false => exact first
      exact lead.append (ih true) (opens_chainedAfter nodes)

theorem chained {each : List (List Mention)} {nodes : List (Connective × Fragment)}
    (h : List.Forall₂ (fun ms node => Spelled d ms node.2) each nodes) :
    Spelled d each.flatten (chained nodes) := chainedAfter h false

end Spelled

end Fragment

end EntitySql
