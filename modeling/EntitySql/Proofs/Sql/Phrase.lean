import EntitySql.Proofs.Outcome
import EntitySql.Proofs.Text.Characters
import EntitySql.Sql.Expression

/-!
# Phrases

A query contributes three kinds of wording to its text. Raw expressions, functions and aliases are
written verbatim. Names are written as identifiers and texts as string literals, between quotes
where they need any.

A phrase is a text put together from admitted wordings, plain characters, quoted plain characters
and parentheses that close. Every literal (`Dialect.phrase_literal`) and every column expression
(`Column.phrase_render`) is a phrase of the wordings of its parts, so a property of texts that
these rules keep holds of all expressions.
-/

namespace EntitySql

set_option autoImplicit false

open Outcome

/-! ## Wordings -/

/-- What a model contributes to the text of a statement. -/
inductive Wording where
  /-- A raw expression, a function or an alias, written as it is. -/
  | verbatim (s : String)
  /-- A name, written as an identifier. -/
  | identifier (s : String)
  /-- The content of a string literal. -/
  | content (s : String)
deriving DecidableEq

mutual
/-- The texts inside a literal. -/
def Value.wordings : Value → List Wording
  | .varchar (some s) | .unknown (some s) => [.content s]
  | .char (some c) => [.content (String.singleton c)]
  | .list (some vs) _ => Value.allWordings vs
  | _ => []
  termination_by structural v => v

/-- The texts inside the members of a list. -/
def Value.allWordings : List Value → List Wording
  | [] => []
  | v :: vs => v.wordings ++ Value.allWordings vs
  termination_by structural vs => vs
end

/-- The wordings of a column but those of its second operand. -/
def Column.ownWordings (c : Column) : List Wording :=
  c.function.toList.map .verbatim ++
    [.verbatim c.qualifier, if c.raw then .verbatim c.name else .identifier c.name,
      .identifier c.label] ++ c.literal.toList.flatMap Value.wordings

/-- The wordings of a column. -/
def Column.wordings : Column → List Wording
  | ⟨function, qualifier, name, label, value, raw, none⟩ =>
    ownWordings ⟨function, qualifier, name, label, value, raw, none⟩
  | ⟨function, qualifier, name, label, value, raw, some (_, other)⟩ =>
    ownWordings ⟨function, qualifier, name, label, value, raw, none⟩ ++ wordings other
  termination_by structural c => c

/-- The names of the columns of a schema. -/
def EntitySchema.columnWordings (schema : EntitySchema) : List Wording :=
  schema.columns.map fun c => .identifier c.name

namespace Scope

/-- The names of the columns of all tables in scope. -/
def columnWordings (tables : List VisibleTable) : List Wording :=
  tables.flatMap fun t => t.schema.toList.flatMap EntitySchema.columnWordings

/-- What a scope adds to references: the alias of its table and the names of columns. -/
def wordings (s : Scope) : List Wording :=
  s.defaultAlias?.toList.map .verbatim ++ columnWordings (s.tables ++ s.outer)

theorem verbatim_mem_wordings {s : Scope} {name : String} (h : s.defaultAlias? = some name) :
    .verbatim name ∈ s.wordings := by
  refine List.mem_append_left _ (List.mem_map_of_mem ?_)
  rw [h]
  exact List.mem_singleton.2 rfl

/-- The default alias is that of the first table. -/
theorem exists_of_defaultAlias? {s : Scope} {name : String} (h : s.defaultAlias? = some name) :
    ∃ t ∈ s.tables, t.aliasName = name := by
  unfold defaultAlias? at h
  split at h
  · obtain ⟨t, head, rfl⟩ := Option.map_eq_some_iff.1 h
    exact ⟨t, List.mem_of_mem_head? head, rfl⟩
  · cases h

/-- A name found in scope is the name of a column of a table in scope. -/
theorem identifier_mem_wordings {s : Scope} {aliasName name : String} {c : ColumnDef}
    (h : s.columnDef? aliasName name = some c) : .identifier c.name ∈ s.wordings := by
  obtain ⟨schema, found, resolved⟩ := Option.bind_eq_some_iff.1 h
  obtain ⟨t, first, same⟩ := Option.bind_eq_some_iff.1 found
  have column : c ∈ schema.columns := by
    rcases Option.or_eq_some_iff.1 resolved with field | ⟨_, named⟩
    · exact List.mem_of_find?_eq_some field
    · exact List.mem_of_find?_eq_some named
  refine List.mem_append_right _ (List.mem_flatMap.2 ⟨t, List.mem_of_find?_eq_some first, ?_⟩)
  exact List.mem_flatMap.2 ⟨schema, by simp [same], List.mem_map.2 ⟨c, column, rfl⟩⟩

end Scope

/-! ## Phrases -/

/-- What stands between quotes besides texts: plain characters, and the backslash where it does
not escape. -/
def Dialect.isQuotedChar (d : Dialect) (c : Char) : Bool :=
  isPlainChar c || (c == '\\' && d != .mysql)

/-- A text put together from admitted wordings, plain characters, quotes and parentheses. -/
inductive Phrase (d : Dialect) (admits : Wording → Prop) : String → Prop where
  | plain {t : String} : Consists isPlainChar t → Phrase d admits t
  | quoted {t : String} : Consists d.isQuotedChar t → Phrase d admits ("'" ++ t ++ "'")
  | verbatim {s : String} : admits (.verbatim s) → Phrase d admits s
  | identifier {s : String} : admits (.identifier s) → Phrase d admits (d.identifier s)
  | content {s : String} : admits (.content s) → Phrase d admits (d.stringLiteral s)
  | append {a b : String} : Phrase d admits a → Phrase d admits b → Phrase d admits (a ++ b)
  | parens {a : String} : Phrase d admits a → Phrase d admits ("(" ++ a ++ ")")

variable {d : Dialect} {admits : Wording → Prop}

namespace Phrase

variable {a b c f : String}

/-- A word of the language. -/
theorem word {t : String} {cs : List Char} (same : t = String.ofList cs)
    (h : cs.all isPlainChar = true) : Phrase d admits t :=
  .plain (.literal same h)

theorem empty : Phrase d admits "" := .word rfl rfl

/-- A phrase is known by its characters. -/
theorem of_toList (same : a.toList = b.toList) (h : Phrase d admits b) : Phrase d admits a :=
  String.toList_injective same ▸ h

/-- A plain text between quotes. -/
theorem quote {t : String} (plain : Consists isPlainChar t) : Phrase d admits ("'" ++ t ++ "'") :=
  .quoted (plain.mono fun c h => by rw [Dialect.isQuotedChar, h, Bool.true_or])

/-- A function applied to its argument. -/
theorem call (function : Phrase d admits f) (argument : Phrase d admits a) :
    Phrase d admits (f ++ "(" ++ a ++ ")") :=
  .of_toList (by simp) (function.append argument.parens)

theorem number {t : String} (h : Consists isNumberChar t) : Phrase d admits t :=
  .plain (h.mono fun _ => isPlainChar_of_isNumberChar)

theorem intercalate {separator : String} (plain : Consists isPlainChar separator) :
    ∀ texts : List String, (∀ t ∈ texts, Phrase d admits t) →
      Phrase d admits (String.intercalate separator texts)
  | [], _ => by
    rw [String.intercalate_nil]
    exact empty
  | [t], h => by
    rw [String.intercalate_singleton]
    exact h t (List.mem_singleton.2 rfl)
  | t :: u :: texts, h => by
    rw [String.intercalate_cons_cons]
    have rest := intercalate plain (u :: texts) fun x member =>
      h x (List.mem_cons_of_mem _ member)
    exact ((h t List.mem_cons_self).append (.plain plain)).append rest

end Phrase

/-! ## Literals -/

namespace Dialect

theorem phrase_booleanLiteral (b : Bool) : Phrase d admits (d.booleanLiteral b) := by
  refine .plain ?_
  cases d <;> cases b <;> decide

/-- A spelling of a number that is not finite, as a word or as the text a conversion reads. -/
theorem phrase_infinityLiteral (negative : Bool) :
    Phrase d admits (d.infinityLiteral negative) := by
  have text : Phrase d admits ("'" ++ ((if negative then "-" else "") ++ "Infinity") ++ "'") :=
    .quote (by cases negative <;> decide)
  cases d with
  | generic =>
    have same : Dialect.generic.infinityLiteral negative =
        "'" ++ ((if negative then "-" else "") ++ "Infinity") ++ "'" := by
      cases negative <;> decide
    rw [same]
    exact text
  | postgres =>
    have same : Dialect.postgres.infinityLiteral negative =
        ("'" ++ ((if negative then "-" else "") ++ "Infinity") ++ "'") ++ "::FLOAT8" := by
      cases negative <;> decide
    rw [same]
    exact text.append (.word rfl rfl)
  | h2 =>
    have same : Dialect.h2.infinityLiteral negative = "CAST" ++ "(" ++
        (("'" ++ ((if negative then "-" else "") ++ "Infinity") ++ "'") ++
          " AS DOUBLE PRECISION") ++ ")" := by
      cases negative <;> decide
    rw [same]
    exact Phrase.call (.word rfl rfl) (text.append (.word rfl rfl))
  | mysql => exact .plain (by cases negative <;> decide)
  | sqlServer => exact .plain (by cases negative <;> decide)
  | oracle => exact .plain (by cases negative <;> decide)

theorem phrase_nanLiteral : Phrase d admits d.nanLiteral := by
  have text : Phrase d admits ("'" ++ "NaN" ++ "'") := .quote (by decide)
  cases d with
  | generic => exact text
  | postgres => exact text.append (.word (t := "::FLOAT8") rfl rfl)
  | h2 =>
    exact Phrase.call (f := "CAST") (.word rfl rfl)
      (text.append (.word (t := " AS DOUBLE PRECISION") rfl rfl))
  | mysql => exact .word rfl rfl
  | sqlServer => exact .word rfl rfl
  | oracle => exact .word rfl rfl

theorem phrase_floatLiteral {k : FloatKind} (x : Binary k) :
    Phrase d admits (d.floatLiteral x) := by
  unfold floatLiteral
  split
  · exact phrase_nanLiteral
  · exact phrase_infinityLiteral _
  · exact .number (FloatLayout.consists_finite _ _ _ _ _)

/-- Bytes are their digits between quotes, or a word that starts with a digit. -/
theorem phrase_bytesLiteral (bytes : List UInt8) : Phrase d admits (d.bytesLiteral bytes) := by
  have lower : Consists isPlainChar (String.ofList (Text.hexOfBytes bytes)) :=
    .ofList fun c member => isPlainChar_of_isAlphanum (Text.isAlphanum_of_mem_hexOfBytes member).1
  have upper : Consists isPlainChar (String.ofList ((Text.hexOfBytes bytes).map Char.toUpper)) := by
    refine .ofList fun c member => ?_
    obtain ⟨b, digit, rfl⟩ := List.mem_map.1 member
    exact isPlainChar_of_isAlphanum (Text.isAlphanum_of_mem_hexOfBytes digit).2
  have marked : Phrase d admits
      ("X'" ++ String.ofList ((Text.hexOfBytes bytes).map Char.toUpper) ++ "'") :=
    .of_toList (by simp) (.append (.word (t := "X") rfl rfl) (.quote upper))
  cases d with
  | postgres =>
    have digits : Consists Dialect.postgres.isQuotedChar
        ("\\x" ++ String.ofList (Text.hexOfBytes bytes)) :=
      .append (by decide) (lower.mono fun c h => by rw [Dialect.isQuotedChar, h, Bool.true_or])
    exact .of_toList (by simp [bytesLiteral])
      (.append (.quoted digits) (.word (t := "::BYTEA") rfl rfl))
  | sqlServer => exact .append (.word rfl rfl) (.plain upper)
  | oracle =>
    exact .of_toList (by simp [bytesLiteral])
      (.call (.word (t := "HEXTORAW") rfl rfl) (.quote upper))
  | generic => exact marked
  | mysql => exact marked
  | h2 => exact marked

theorem phrase_dateLiteral (day : Date) : Phrase d admits (d.dateLiteral day) := by
  have text : Phrase d admits ("'" ++ day.toCompactText ++ "'") := .quote day.consists_toCompactText
  cases d with
  | oracle =>
    exact .of_toList (by simp [dateLiteral]) (.append (.word (t := "DATE ") rfl rfl) text)
  | generic => exact text
  | mysql => exact text
  | postgres => exact text
  | h2 => exact text
  | sqlServer => exact text

theorem phrase_timeLiteral (t : TimeOfDay) : Phrase d admits (timeLiteral t) :=
  .quote t.consists_toText

theorem phrase_momentLiteral (m : Moment) : Phrase d admits (d.momentLiteral m) := by
  have text : Phrase d admits ("'" ++ m.date.toCompactText ++ " " ++ m.time.toText ++ "'") :=
    .of_toList (by simp) (.quote ((m.date.consists_toCompactText.append
      (b := " ") (by decide)).append m.time.consists_toText))
  cases d with
  | oracle => exact .append (.word rfl rfl) text
  | generic => exact text
  | mysql => exact text
  | postgres => exact text
  | h2 => exact text
  | sqlServer => exact text

mutual
/-- **A literal is a phrase of the texts inside it.** -/
theorem phrase_literal : ∀ (v : Value) {t : String}, d.literal v = .ok t →
    (∀ w ∈ v.wordings, admits w) → Phrase d admits t
  | .boolean (some b), t, h, _ => by
    cases h
    exact phrase_booleanLiteral b
  | .int _ (some n), t, h, _ => by
    cases h
    exact .number (consists_toString_int n.val)
  | .float _ (some x), t, h, _ => by
    cases h
    exact phrase_floatLiteral x
  | .decimal (some v) _ _, t, h, _ => by
    cases h
    exact .number v.consists_toText
  | .char (some c), t, h, admitted => by
    cases h
    exact .content (admitted _ (List.mem_singleton.2 rfl))
  | .varchar (some s), t, h, admitted => by
    cases h
    exact .content (admitted _ (List.mem_singleton.2 rfl))
  | .unknown (some s), t, h, admitted => by
    cases h
    exact .content (admitted _ (List.mem_singleton.2 rfl))
  | .blob (some b), t, h, _ => by
    cases h
    exact phrase_bytesLiteral b
  | .date (some day), t, h, _ => by
    cases h
    exact phrase_dateLiteral day
  | .time (some clock), t, h, _ => by
    cases h
    exact phrase_timeLiteral clock
  | .timestamp (some m), t, h, _ => by
    cases h
    exact phrase_momentLiteral m
  | .zoned (some z), t, h, _ => by
    obtain ⟨m, _, rfl⟩ := map_eq_ok.1 h
    exact phrase_momentLiteral m
  | .uuid (some u), t, h, _ => by
    cases h
    exact .quote u.consists_toText
  | .list (some vs) _, t, h, admitted => by
    simp only [literal, bind_eq_ok, pure_eq_ok] at h
    obtain ⟨members, written, rfl⟩ := h
    exact .parens (.intercalate (by decide) _ (phrase_literals vs written admitted))
  | .null, t, h, _ | .boolean none, t, h, _ | .int _ none, t, h, _ | .float _ none, t, h, _
  | .decimal none _ _, t, h, _ | .char none, t, h, _ | .varchar none, t, h, _
  | .blob none, t, h, _ | .date none, t, h, _ | .time none, t, h, _ | .timestamp none, t, h, _
  | .zoned none, t, h, _ | .uuid none, t, h, _ | .list none _, t, h, _
  | .unknown none, t, h, _ => by
    cases h
    exact .word rfl rfl

theorem phrase_literals : ∀ (vs : List Value) {ts : List String}, d.literals vs = .ok ts →
    (∀ w ∈ Value.allWordings vs, admits w) → ∀ t ∈ ts, Phrase d admits t
  | [], ts, h, _ => by
    cases h
    exact fun t member => nomatch member
  | v :: vs, ts, h, admitted => by
    simp only [literals, bind_eq_ok, pure_eq_ok] at h
    obtain ⟨first, one, rest, others, rfl⟩ := h
    simp only [Value.allWordings, List.mem_append] at admitted
    intro t member
    rcases List.mem_cons.1 member with rfl | member
    · exact phrase_literal v one fun w mentioned => admitted w (.inl mentioned)
    · exact phrase_literals vs others (fun w mentioned => admitted w (.inr mentioned)) t member
end

end Dialect

/-! ## Column expressions -/

namespace Dialect

variable {a b t : String}

/-- The functions that stand for operators; the empty one is a pair of parentheses. -/
def operatorFunctions : List String := ["", "BITNOT", "BITAND", "BITOR", "BITXOR", "MOD"]

/-- A phrase in parentheses, after the function of an operator. -/
def Enclosed (d : Dialect) (admits : Wording → Prop) (t : String) : Prop :=
  ∃ f ∈ operatorFunctions, ∃ inner, Phrase d admits inner ∧
    t.toList = (f ++ "(" ++ inner ++ ")").toList

theorem Enclosed.phrase (h : d.Enclosed admits t) : Phrase d admits t := by
  obtain ⟨f, used, inner, phrase, same⟩ := h
  have plain : ∀ f ∈ operatorFunctions, Consists isPlainChar f := by decide
  exact .of_toList same (.call (.plain (plain f used)) phrase)

theorem enclosed_between {symbol : String} (plain : Consists isPlainChar symbol)
    (first : Phrase d admits a) (second : Phrase d admits b) :
    d.Enclosed admits (between a symbol b) := by
  have sides : Phrase d admits (a ++ (" " ++ symbol ++ " ") ++ b) :=
    (first.append (.plain ((Consists.append (by decide) plain).append (by decide)))).append second
  exact ⟨"", by decide, _, sides, by simp [between]⟩

theorem enclosed_call {function : String} (used : function ∈ operatorFunctions)
    (first : Phrase d admits a) (second : Phrase d admits b) :
    d.Enclosed admits (call function a b) := by
  have sides : Phrase d admits (a ++ ", " ++ b) := (first.append (.word rfl rfl)).append second
  exact ⟨function, used, _, sides, by simp [call]⟩

theorem enclosed_complement (operand : Phrase d admits a) : d.Enclosed admits (d.complement a) := by
  have tilde : ∀ e : Dialect, Phrase e admits a → e.Enclosed admits ("(~" ++ a ++ ")") :=
    fun e phrase => ⟨"", by decide, _, .append (.word (t := "~") rfl rfl) phrase, by simp⟩
  cases d with
  | h2 => exact ⟨"BITNOT", by decide, a, operand, by simp [complement]⟩
  | oracle =>
    have less : Phrase .oracle admits ("(" ++ (a ++ " - 1") ++ ")") :=
      (operand.append (.word rfl rfl)).parens
    have common : Phrase .oracle admits ("BITAND" ++ "(" ++ (a ++ ", -1") ++ ")") :=
      .call (.word rfl rfl) (operand.append (.word rfl rfl))
    have middle : Phrase .oracle admits " - 2 * " := .word rfl rfl
    exact ⟨"", by decide, _, (less.append middle).append common, by simp [complement]⟩
  | generic | mysql | postgres | sqlServer => exact tilde _ operand

/-- Sums and differences of the conjunction of bits stand for operators a dialect lacks. -/
theorem enclosed_derived (middle : String) (plain : Consists isPlainChar middle)
    (first : Phrase d admits a) (second : Phrase d admits b) :
    d.Enclosed admits ("((" ++ a ++ " + " ++ b ++ ")" ++ middle ++ call "BITAND" a b ++ ")") := by
  have sum : Phrase d admits ("(" ++ (a ++ " + " ++ b) ++ ")") :=
    ((first.append (.word rfl rfl)).append second).parens
  have common : Phrase d admits (call "BITAND" a b) :=
    (enclosed_call (by decide) first second).phrase
  exact ⟨"", by decide, _, (sum.append (.plain plain)).append common, by simp⟩

/-- **An operator applied to phrases is a phrase** in parentheses. -/
theorem enclosed_binary (op : BitOp) (first : Phrase d admits a) (second : Phrase d admits b) :
    d.Enclosed admits (d.binary op a b) := by
  cases op with
  | not => exact enclosed_complement first
  | and =>
    cases d with
    | h2 | oracle => exact enclosed_call (by decide) first second
    | _ => exact enclosed_between (by decide) first second
  | or =>
    cases d with
    | h2 => exact enclosed_call (by decide) first second
    | oracle =>
      have derived := enclosed_derived " - " (by decide) first second
      simpa [binary, Enclosed] using derived
    | _ => exact enclosed_between (by decide) first second
  | xor =>
    cases d with
    | h2 => exact enclosed_call (by decide) first second
    | oracle =>
      have derived := enclosed_derived " - 2 * " (by decide) first second
      simpa [binary, Enclosed] using derived
    | _ => exact enclosed_between (by decide) first second
  | remainder =>
    cases d with
    | h2 | oracle => exact enclosed_call (by decide) first second
    | _ => exact enclosed_between (by decide) first second
  | add => exact enclosed_between (by decide) first second
  | subtract => exact enclosed_between (by decide) first second
  | multiply => exact enclosed_between (by decide) first second
  | divide => exact enclosed_between (by decide) first second

theorem enclosed_operation {op : BitOp} {other : Option String}
    (h : d.operation op a other = .ok t) (first : Phrase d admits a)
    (second : ∀ b, other = some b → Phrase d admits b) : d.Enclosed admits t := by
  unfold operation at h
  split at h
  · cases h
    exact enclosed_complement first
  · cases h
    exact enclosed_binary op first (second _ rfl)
  · cases h

end Dialect

namespace Column

variable {s : Scope}

/-- The alias that qualifies a column is its own or that of the table in scope. -/
theorem verbatim_of_qualifierOf {c : Column} {name : String} (h : s.qualifierOf c = .ok name) :
    name = c.qualifier ∨ .verbatim name ∈ s.wordings ∨ name = "" := by
  unfold Scope.qualifierOf at h
  split at h
  · cases h
    exact .inl rfl
  · split at h
    · rename_i found
      cases h
      exact .inr (.inl (Scope.verbatim_mem_wordings found))
    · split at h
      · cases h
        exact .inr (.inr rfl)
      · cases h

theorem phrase_reference (c : Column) {qualifier : String} (named : Phrase d admits qualifier)
    (own : c.isWildcard = false → admits (.identifier c.name))
    (scope : ∀ w ∈ s.wordings, admits w) : Phrase d admits (c.reference d s qualifier) := by
  have prefixed : Phrase d admits
      (if s.qualify && qualifier != "" then qualifier ++ "." else "") := by
    split
    · exact named.append (.word rfl rfl)
    · exact .empty
  unfold reference
  cases wild : c.isWildcard with
  | true => exact prefixed.append (.word rfl rfl)
  | false =>
    simp only [Bool.false_eq_true, if_false]
    split
    · rename_i found
      exact prefixed.append (.identifier (scope _ (Scope.identifier_mem_wordings found)))
    · exact prefixed.append (.identifier (own wild))

/-- The base of a column is a phrase of its own wordings. -/
theorem phrase_base {c : Column} {t : String} (h : c.base d s = .ok t)
    (own : ∀ w ∈ c.ownWordings, admits w) (scope : ∀ w ∈ s.wordings, admits w) :
    Phrase d admits t := by
  simp only [ownWordings, List.mem_append, List.mem_cons, List.not_mem_nil, or_false] at own
  unfold base at h
  split at h
  · rename_i raw
    cases h
    exact .verbatim (own _ (.inl (.inr (.inr (.inl (by simp [raw]))))))
  · rename_i named
    split at h
    · rename_i v literal
      exact Dialect.phrase_literal v h fun w member =>
        own w (.inr (List.mem_flatMap.2 ⟨v, by simp [literal], member⟩))
    · split at h
      · cases h
        exact .empty
      · obtain ⟨qualifier, found, rfl⟩ := map_eq_ok.1 h
        have qualified : Phrase d admits qualifier := by
          rcases verbatim_of_qualifierOf found with rfl | visible | rfl
          · exact .verbatim (own _ (.inl (.inr (.inl rfl))))
          · exact .verbatim (scope _ visible)
          · exact .empty
        refine phrase_reference c qualified (fun _ => ?_) scope
        exact own _ (.inl (.inr (.inr (.inl (by simp [named])))))

theorem phrase_applied {function : Option String} {a : String} (argument : Phrase d admits a)
    (own : ∀ f, function = some f → admits (.verbatim f)) :
    Phrase d admits (applied function a) := by
  cases function with
  | none => exact argument
  | some f => exact .call (.verbatim (own f rfl)) argument

/-- A column with an operation is its base combined with the other operand, if that is used. -/
theorem render_operation_eq_ok {function : Option String} {qualifier name label t : String}
    {value : Option Value} {raw : Bool} {op : BitOp} {other : Column}
    (h : render d s ⟨function, qualifier, name, label, value, raw, some (op, other)⟩ = .ok t) :
    ∃ a b combined, base d s ⟨function, qualifier, name, label, value, raw, none⟩ = .ok a ∧
      (∀ text, b = some text → other.render d s = .ok text) ∧
      d.operation op a b = .ok combined ∧ t = applied function combined := by
  cases unary : op.isUnary with
  | true =>
    simp only [render, unary, if_true, bind_eq_ok, pure_eq_ok] at h
    obtain ⟨a, first, b, rfl, combined, joined, rfl⟩ := h
    exact ⟨a, none, combined, first, nofun, joined, rfl⟩
  | false =>
    simp only [render, unary, Bool.false_eq_true, if_false, bind_eq_ok, pure_eq_ok,
      map_eq_ok] at h
    obtain ⟨a, first, b, ⟨text, second, rfl⟩, combined, joined, rfl⟩ := h
    refine ⟨a, some text, combined, first, ?_, joined, rfl⟩
    rintro _ ⟨⟩
    exact second

/-- **The expression of a column is a phrase** of its wordings and those of the scope. -/
theorem phrase_render : ∀ (c : Column) {t : String}, c.render d s = .ok t →
    (∀ w ∈ c.wordings, admits w) → (∀ w ∈ s.wordings, admits w) → Phrase d admits t
  | ⟨function, qualifier, name, label, value, raw, none⟩, t, h, own, scope => by
    simp only [render, bind_eq_ok, pure_eq_ok] at h
    obtain ⟨a, first, rfl⟩ := h
    rw [wordings] at own
    refine phrase_applied (phrase_base first own scope) fun f same => own _ ?_
    simp [ownWordings, same]
  | ⟨function, qualifier, name, label, value, raw, some (op, other)⟩, t, h, own, scope => by
    obtain ⟨a, b, combined, first, second, joined, rfl⟩ := render_operation_eq_ok h
    rw [wordings] at own
    have mine : ∀ w ∈ ownWordings ⟨function, qualifier, name, label, value, raw, none⟩, admits w :=
      fun w member => own w (List.mem_append_left _ member)
    have operand : ∀ text, b = some text → Phrase d admits text := fun text same =>
      phrase_render other (second text same)
        (fun w member => own w (List.mem_append_right _ member)) scope
    have enclosed := Dialect.enclosed_operation joined (phrase_base first mine scope) operand
    refine phrase_applied enclosed.phrase fun f same => mine _ ?_
    simp [ownWordings, same]

theorem identifier_label_mem : ∀ (c : Column), .identifier c.label ∈ c.wordings
  | ⟨_, _, _, _, _, _, none⟩ => by simp [wordings, ownWordings]
  | ⟨_, _, _, _, _, _, some (_, _)⟩ => by simp [wordings, ownWordings]

theorem phrase_renderLabeled {c : Column} {t : String} (h : c.renderLabeled d s = .ok t)
    (own : ∀ w ∈ c.wordings, admits w) (scope : ∀ w ∈ s.wordings, admits w) :
    Phrase d admits t := by
  unfold renderLabeled at h
  split at h
  · cases h
  · simp only [bind_eq_ok, pure_eq_ok] at h
    obtain ⟨expression, written, rfl⟩ := h
    have body := phrase_render c written own scope
    split
    · exact body
    · exact (body.append (.word rfl rfl)).append (.identifier (own _ c.identifier_label_mem))

end Column

/-- A term to order by is a phrase. -/
theorem Ordered.phrase_render {s : Scope} {o : Ordered} {t : String} (h : o.render d s = .ok t)
    (own : ∀ w ∈ o.column.wordings, admits w) (scope : ∀ w ∈ s.wordings, admits w) :
    Phrase d admits t := by
  obtain ⟨expression, written, rfl⟩ := map_eq_ok.1 h
  refine (o.column.phrase_render written own scope).append (.plain ?_)
  cases o.direction <;> decide

end EntitySql
