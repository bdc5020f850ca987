import EntitySql.Proofs.Sql.Spelling

/-!
# What a query mentions

The names, aliases and verbatim texts that a query writes, in the order in which they stand in its
text: those of what it selects, of its tables and joins, of its conditions and groups, of its order.
A reference mentions the alias it is qualified with and the name of the column it refers to; an
operator that a dialect derives from others mentions its operands as often as it writes them. A
query inside another one is collected in its own scope.

Mentions are collected from the query and its scope alone. Every query that is written is spelled
with its mentions (`Query.spelled_render`), so each name stands in its text as an identifier of its
own, in each place that names it.
-/

namespace EntitySql

set_option autoImplicit false

open Outcome

variable {d : Dialect} {s : Scope}

/-! ## Mentions of columns -/

namespace Dialect

/-- The mentions of the complement of an operand. -/
def complementMentions (d : Dialect) (a : List Mention) : List Mention :=
  match d with
  | oracle => a ++ a
  | _ => a

/-- The mentions of an operator of two operands. -/
def binaryMentions (d : Dialect) (op : BitOp) (a b : List Mention) : List Mention :=
  match op, d with
  | .not, _ => d.complementMentions a
  | .or, oracle | .xor, oracle => a ++ b ++ (a ++ b)
  | _, _ => a ++ b

/-- The mentions of the test for an empty text. -/
def emptyTestMentions (d : Dialect) (left : List Mention) : List Mention :=
  match d with
  | oracle => left
  | _ => left ++ left

end Dialect

namespace Column

/-- The mentions of a reference with the qualifier found for it. -/
def referenceMentions (s : Scope) (c : Column) (qualifier : String) : List Mention :=
  (if s.qualify && qualifier != "" then [.tableAlias qualifier] else []) ++
    if c.isWildcard then []
    else
      match s.columnDef? qualifier c.name with
      | some column => [.name column.name]
      | none => [.name c.name]

/-- The mentions of the raw expression, the literal or the reference. -/
def baseMentions (s : Scope) (c : Column) : List Mention :=
  if c.raw then [.verbatim c.name]
  else if c.literal.isSome || c.name == "" then []
  else
    match s.qualifierOf c with
    | .ok qualifier => c.referenceMentions s qualifier
    | .error _ => []

/-- The mentions of the expression of a column. -/
def mentions (d : Dialect) (s : Scope) : Column → List Mention
  | ⟨function, qualifier, name, label, value, raw, none⟩ =>
    function.toList.map .verbatim ++
      baseMentions s ⟨function, qualifier, name, label, value, raw, none⟩
  | ⟨function, qualifier, name, label, value, raw, some (op, other)⟩ =>
    function.toList.map .verbatim ++ d.binaryMentions op
      (baseMentions s ⟨function, qualifier, name, label, value, raw, none⟩) (mentions d s other)
  termination_by structural c => c

/-- The mentions of a column followed by its label. -/
def labeledMentions (d : Dialect) (s : Scope) (c : Column) : List Mention :=
  c.mentions d s ++ if c.label = "" then [] else [.name c.label]

end Column

/-! ## Mentions of queries -/

/-- The mentions of the name of a table. -/
def TableRef.mentions (t : TableRef) : List Mention :=
  (if t.schema = "" then [] else [.name t.schema]) ++ [.name t.name]

mutual
/-- The mentions of a query in its scope, with those of the expression that is added to what it
selects. -/
def Query.mentions (d : Dialect) (s : Scope) (options : SelectOptions) (extra : List Mention) :
    Query → List Mention
  | ⟨table, joins, columns, _, filter, groupBy, having, orderBy, _, _, _⟩ =>
    (if options.count then []
      else (Query.selected columns orderBy).flatMap (Column.labeledMentions d s) ++ extra) ++
    (match table with
      | none => []
      | some t => t.mentions d s) ++
    Join.allMentions d s joins ++ (Node.allMentions d s filter).flatten ++
    groupBy.flatMap (Column.mentions d s) ++ (Node.allMentions d s having).flatten ++
    if options.unordered || options.count then []
    else orderBy.flatMap fun o => o.column.mentions d s
  termination_by structural q => q

/-- The mentions of a table and its alias. -/
def Table.mentions (d : Dialect) (s : Scope) : Table → List Mention
  | ⟨aliasName, source⟩ =>
    source.mentions d s ++ if aliasName = "" then [] else [.tableAlias aliasName]
  termination_by structural t => t

/-- The parts of the name of a table, or the mentions of the query it stands for. -/
def TableSource.mentions (d : Dialect) (s : Scope) : TableSource → List Mention
  | .entity schema => schema.table.mentions
  | .named name => (nameParts name).map .name
  | .subQuery q =>
    match s.inside q with
    | .ok inner => q.mentions d inner .standard []
    | .error _ => []
  termination_by structural t => t

/-- The mentions of a join: its table, then its condition. -/
def Join.mentions (d : Dialect) (s : Scope) : Join → List Mention
  | ⟨_, table, on⟩ => table.mentions d s ++ (Node.allMentions d s on).flatten
  termination_by structural j => j

/-- The mentions of joins one after the other. -/
def Join.allMentions (d : Dialect) (s : Scope) : List Join → List Mention
  | [] => []
  | j :: js => j.mentions d s ++ Join.allMentions d s js
  termination_by structural js => js

/-- The mentions of a node. -/
def Node.mentions (d : Dialect) (s : Scope) : Node → List Mention
  | .predicate _ p => p.mentions d s
  | .nested _ nodes => (Node.allMentions d s nodes).flatten
  | .group _ members => (Predicate.allMentions d s members).flatten
  termination_by structural n => n

/-- The mentions of nodes, one by one. -/
def Node.allMentions (d : Dialect) (s : Scope) : List Node → List (List Mention)
  | [] => []
  | n :: ns => n.mentions d s :: Node.allMentions d s ns
  termination_by structural ns => ns

/-- The mentions of a predicate. What is not written mentions nothing: membership in nothing and
ranges without bounds. -/
def Predicate.mentions (d : Dialect) (s : Scope) : Predicate → List Mention
  | .compare c _ (.value _) => c.mentions d s
  | .compare c _ (.column other) => c.mentions d s ++ other.mentions d s
  | .like c _ _ _ => c.mentions d s
  | .among c _ values => if values.isEmpty then [] else c.mentions d s
  | .isNull c _ => c.mentions d s
  | .isEmpty c _ => d.emptyTestMentions (c.mentions d s)
  | .between c low high => if low.isNull && high.isNull then [] else c.mentions d s
  | .hasRows _ q =>
    match s.inside q with
    | .ok inner => q.mentions d inner .standard []
    | .error _ => []
  termination_by structural p => p

/-- The mentions of predicates, one by one. -/
def Predicate.allMentions (d : Dialect) (s : Scope) : List Predicate → List (List Mention)
  | [] => []
  | p :: ps => p.mentions d s :: Predicate.allMentions d s ps
  termination_by structural ps => ps
end

/-! ## Literals mention nothing -/

mutual
/-- A literal has nothing but contents of strings from the model. -/
theorem Value.closed_wordings : ∀ v : Value, ∀ w ∈ v.wordings, w.Closed d
  | .varchar (some _), _, h | .unknown (some _), _, h | .char (some _), _, h => by
    rw [Value.wordings] at h
    rw [List.mem_singleton.1 h]
    trivial
  | .list (some vs) _, w, h => by
    rw [Value.wordings] at h
    exact Value.closed_allWordings vs w h
  | .null, _, h | .boolean _, _, h | .int _ _, _, h | .float _ _, _, h | .decimal _ _ _, _, h
  | .char none, _, h | .varchar none, _, h | .blob _, _, h | .date _, _, h | .time _, _, h
  | .timestamp _, _, h | .zoned _, _, h | .uuid _, _, h | .list none _, _, h
  | .unknown none, _, h => by cases h

theorem Value.closed_allWordings : ∀ vs : List Value, ∀ w ∈ Value.allWordings vs, w.Closed d
  | [], _, h => by cases h
  | v :: vs, w, h => by
    rw [Value.allWordings] at h
    rcases List.mem_append.1 h with first | later
    · exact Value.closed_wordings v w first
    · exact Value.closed_allWordings vs w later
end

theorem Dialect.neutral_literal {v : Value} {t : String} (h : d.literal v = .ok t) :
    Neutral d t.toList :=
  (Dialect.phrase_literal v h v.closed_wordings).closed.neutral

/-! ## Columns are spelled with their mentions -/

namespace Dialect

variable {ms ns : List Mention} {a b : String}

theorem spells_complement (h : Spells d ms a) :
    Spells d (d.complementMentions ms) (d.complement a) := by
  have tilde : Spells d ms ("(~" ++ a ++ ")") := (h.led (.word rfl rfl)).trailed (.word rfl rfl)
  cases d with
  | h2 =>
    have call : Spells .h2 ms ("BITNOT(" ++ a ++ ")") :=
      (h.led (.word rfl rfl)).trailed (.word rfl rfl)
    exact call
  | oracle =>
    have both : Spells .oracle (ms ++ ms) ("((" ++ a ++ " - 1) - 2 * BITAND(" ++ a) :=
      (h.led (.word rfl rfl)).linked (.word rfl rfl) (.word rfl rfl) h
    have whole := both.trailed (w := ", -1))") (.word rfl rfl)
    exact whole
  | generic | mysql | postgres | sqlServer => exact tilde

theorem spells_between {symbol : String} (plain : Neutral d symbol.toList) (first : Spells d ms a)
    (second : Spells d ns b) : Spells d (ms ++ ns) (between a symbol b) := by
  obtain ⟨trails, leads⟩ := trails_leads_spaced plain
  have whole := ((first.led (w := "(") (.word rfl rfl)).linked trails leads second).trailed
    (w := ")") (.word rfl rfl)
  have same : between a symbol b = "(" ++ a ++ (" " ++ symbol ++ " ") ++ b ++ ")" := by
    simp only [between, String.append_assoc]
  rwa [same]

theorem spells_call {function : String} (plain : Neutral d function.toList)
    (first : Spells d ms a) (second : Spells d ns b) :
    Spells d (ms ++ ns) (call function a b) := by
  have leads : Leads d (function ++ "(") := .behind plain (.word rfl rfl)
  have whole := ((first.led leads).linked (w := ", ") (.word rfl rfl) (.word rfl rfl)
    second).trailed (w := ")") (.word rfl rfl)
  exact whole

/-- An operator derived from others mentions its operands twice. -/
theorem spells_derived {middle : String} (trails : Trails d middle) (leads : Leads d middle)
    (first : Spells d ms a) (second : Spells d ns b) :
    Spells d (ms ++ ns ++ (ms ++ ns))
      ("((" ++ a ++ " + " ++ b ++ middle ++ call "BITAND" a b ++ ")") := by
  have plain : Neutral d "BITAND".toList := neutral_word rfl rfl
  have sum := (first.led (w := "((") (.word rfl rfl)).linked (w := " + ") (.word rfl rfl)
    (.word rfl rfl) second
  exact (sum.linked trails leads (spells_call plain first second)).trailed (.word rfl rfl)

theorem spells_binary (op : BitOp) (first : Spells d ms a) (second : Spells d ns b) :
    Spells d (d.binaryMentions op ms ns) (d.binary op a b) := by
  cases op with
  | not => exact spells_complement first
  | and =>
    cases d with
    | h2 | oracle => exact spells_call (neutral_word rfl rfl) first second
    | generic | mysql | postgres | sqlServer =>
      exact spells_between (neutral_word rfl rfl) first second
  | or =>
    cases d with
    | h2 => exact spells_call (neutral_word rfl rfl) first second
    | oracle => exact spells_derived (.word rfl rfl) (.word rfl rfl) first second
    | generic | mysql | postgres | sqlServer =>
      exact spells_between (neutral_word rfl rfl) first second
  | xor =>
    cases d with
    | h2 => exact spells_call (neutral_word rfl rfl) first second
    | oracle => exact spells_derived (.word rfl rfl) (.word rfl rfl) first second
    | generic | mysql | postgres | sqlServer =>
      exact spells_between (neutral_word rfl rfl) first second
  | remainder =>
    cases d with
    | h2 | oracle => exact spells_call (neutral_word rfl rfl) first second
    | generic | mysql | postgres | sqlServer =>
      exact spells_between (neutral_word rfl rfl) first second
  | add | subtract | multiply | divide =>
    exact spells_between (neutral_word rfl rfl) first second

theorem spells_emptyTest (negated : Bool) (left : Spells d ms a) :
    Spells d (d.emptyTestMentions ms) (d.emptyTest a negated) := by
  have tests : ∀ e : Dialect, Spells e ms a → Spells e (ms ++ ms) (if negated then
      "(" ++ a ++ " <> '' AND " ++ a ++ " IS NOT NULL)"
      else "(" ++ a ++ " = '' OR " ++ a ++ " IS NULL)") := by
    intro e left
    have opened : Spells e ms ("(" ++ a) := left.led (.word rfl rfl)
    split
    · exact (opened.linked (by cases e <;> decide) (by cases e <;> decide) left).trailed
        (.word rfl rfl)
    · exact (opened.linked (by cases e <;> decide) (by cases e <;> decide) left).trailed
        (.word rfl rfl)
  cases d with
  | oracle =>
    have word : Neutral .oracle (negation negated).toList := by cases negated <;> decide
    have whole := left.trailed (((Trails.word (w := " IS ") rfl rfl).append word).append
      (t := "NULL") (neutral_word rfl rfl))
    have same : Dialect.oracle.emptyTest a negated =
        a ++ (" IS " ++ negation negated ++ "NULL") := by
      simp only [emptyTest, String.append_assoc]
    rw [same]
    exact whole
  | generic | mysql | postgres | h2 | sqlServer => exact tests _ left

end Dialect

namespace Column

theorem spells_reference (c : Column) (qualifier : String) :
    Spells d (c.referenceMentions s qualifier) (c.reference d s qualifier) := by
  have prefixed : ∀ {ns : List Mention} {t : String}, Spells d ns t →
      Spells d ((if s.qualify && qualifier != "" then [.tableAlias qualifier] else []) ++ ns)
        ((if s.qualify && qualifier != "" then qualifier ++ "." else "") ++ t) := by
    intro ns t rest
    split
    · exact (Spells.tableAlias qualifier).linked (.word rfl rfl) (.word rfl rfl) rest
    · exact Spells.empty.append rest (.inl rfl)
  unfold referenceMentions reference
  cases wild : c.isWildcard with
  | true => exact prefixed (.text (neutral_word rfl rfl))
  | false =>
    simp only [Bool.false_eq_true, if_false]
    cases s.columnDef? qualifier c.name with
    | some column => exact prefixed (.name column.name)
    | none => exact prefixed (.name c.name)

theorem spells_base {c : Column} {t : String} (h : c.base d s = .ok t) :
    Spells d (c.baseMentions s) t := by
  unfold base at h
  unfold baseMentions
  split at h
  · rename_i raw
    cases h
    rw [if_pos raw]
    exact .verbatim c.name
  · rename_i named
    rw [if_neg named]
    split at h
    · rename_i v literal
      rw [literal, Option.isSome_some, Bool.true_or, if_pos rfl]
      exact .text (Dialect.neutral_literal h)
    · rename_i literal
      split at h
      · rename_i nameless
        cases h
        rw [if_pos (by simp [nameless])]
        exact .empty
      · rename_i referred
        obtain ⟨qualifier, found, rfl⟩ := map_eq_ok.1 h
        rw [literal, Option.isSome_none, Bool.false_or, if_neg (by simpa using referred), found]
        exact c.spells_reference qualifier

theorem spells_applied {ms : List Mention} {a : String} (function : Option String)
    (argument : Spells d ms a) :
    Spells d (function.toList.map .verbatim ++ ms) (applied function a) := by
  cases function with
  | none => exact argument
  | some f =>
    have whole := ((Spells.verbatim (d := d) f).linked (w := "(") (.word rfl rfl) (.word rfl rfl)
      argument).trailed (w := ")") (.word rfl rfl)
    exact whole

/-- **The expression of a column is spelled with its mentions.** -/
theorem spells_render : ∀ (c : Column) {t : String}, c.render d s = .ok t →
    Spells d (c.mentions d s) t
  | ⟨function, qualifier, name, label, value, raw, none⟩, t, h => by
    simp only [render, bind_eq_ok, pure_eq_ok] at h
    obtain ⟨a, first, rfl⟩ := h
    exact spells_applied function (spells_base first)
  | ⟨function, qualifier, name, label, value, raw, some (op, other)⟩, t, h => by
    obtain ⟨a, b, combined, first, second, joined, rfl⟩ := render_operation_eq_ok h
    refine spells_applied function ?_
    cases op with
    | not =>
      cases joined
      exact Dialect.spells_complement (spells_base first)
    | _ =>
      cases b with
      | none => cases joined
      | some text =>
        cases joined
        exact Dialect.spells_binary _ (spells_base first)
          (spells_render other (second text rfl))

theorem spells_renderLabeled {c : Column} {t : String} (h : c.renderLabeled d s = .ok t) :
    Spells d (c.labeledMentions d s) t := by
  unfold renderLabeled at h
  split at h
  · cases h
  · simp only [bind_eq_ok, pure_eq_ok] at h
    obtain ⟨expression, written, rfl⟩ := h
    have body := c.spells_render written
    unfold labeledMentions
    split
    · rw [List.append_nil]
      exact body
    · exact body.linked (.word rfl rfl) (.word rfl rfl) (.name c.label)

end Column

theorem Ordered.spells_render {o : Ordered} {t : String} (h : o.render d s = .ok t) :
    Spells d (o.column.mentions d s) t := by
  obtain ⟨expression, written, rfl⟩ := map_eq_ok.1 h
  refine (o.column.spells_render written).trailed ?_
  cases o.direction <;> exact .word rfl rfl

/-! ## Tests are spelled with their mentions -/

section Tests

variable {l : LeftSide} {ms : List Mention} {f : Fragment}

theorem spells_left {c : Column} (h : LeftSide.ofColumn d s c = .ok l) :
    Spells d (c.mentions d s) l.expression :=
  c.spells_render (LeftSide.ofColumn_eq_ok_iff.1 h).2

theorem append_spaced (a b c : String) : a ++ " " ++ b ++ c = a ++ (" " ++ b ++ c) := by
  simp only [String.append_assoc]

/-- A parameter after a text that ends with a separator. -/
theorem spelled_parameter {t w : String} (left : Spells d ms t) (trails : Trails d w)
    (leads : Leads d w) (p : Pair) : Fragment.Spelled d ms [.text (t ++ w), .parameter p] := by
  have whole := Fragment.Spelled.linked left trails leads (.parameter p)
  rwa [List.append_nil] at whole

theorem neutral_negation (negated : Bool) : Neutral d (negation negated).toList := by
  cases negated <;> exact neutral_word rfl rfl

/-- A word that may be negated. -/
theorem trails_leads_negation (negated : Bool) {w : String} (leads : Leads d w) :
    Trails d (" " ++ negation negated ++ w) ∧ Leads d (" " ++ negation negated ++ w) := by
  have start := (Trails.word (d := d) (w := " ") rfl rfl).append (neutral_negation negated)
  exact ⟨start.append leads.1, leads.behind start.1⟩

theorem spelled_compareTest {c : Column} {k : Comparison} {operand : Operand}
    (left : LeftSide.ofColumn d s c = .ok l) (h : compareTest d s l k operand = .ok f) :
    Fragment.Spelled d ((Predicate.compare c k operand).mentions d s) f := by
  have start := spells_left left
  obtain ⟨trails, leads⟩ : Trails d (" " ++ k.symbol ++ " ") ∧ Leads d (" " ++ k.symbol ++ " ") :=
    trails_leads_spaced (by cases k <;> exact neutral_word rfl rfl)
  rcases compareTest_eq_ok h with
    ⟨v, rfl, _, rfl⟩ | ⟨v, rfl, _, rfl⟩ | ⟨other, right, rfl, written, rfl⟩
  · refine .single (start.trailed ?_)
    split
    · exact .word rfl rfl
    · exact .word rfl rfl
  · rw [append_spaced]
    exact spelled_parameter start trails leads _
  · have whole := start.linked trails leads (other.spells_render written)
    rw [append_spaced]
    exact .single whole

theorem spelled_like (negated : Bool) (p : Pair) (left : Spells d ms l.expression) :
    Fragment.Spelled d ms
      [.text (l.expression ++ " " ++ negation negated ++ "LIKE "), .parameter p] := by
  obtain ⟨trails, leads⟩ := trails_leads_negation (d := d) negated (w := "LIKE ") (.word rfl rfl)
  rw [append_spaced]
  exact spelled_parameter left trails leads p

/-- Parameters mention nothing. -/
theorem spelled_parameters (pairs : List Pair) :
    Fragment.Spelled d [] (Fragment.separated ", " (pairs.map fun p => [.parameter p])) := by
  have each : List.Forall₂ (Fragment.Spelled d) (pairs.map fun _ => [])
      (pairs.map fun p => [.parameter p]) := by
    rw [List.forall₂_map_left_iff, List.forall₂_map_right_iff, List.forall₂_same]
    exact fun p _ => .parameter p
  have whole := Fragment.Spelled.separated (w := ", ") (.word rfl rfl) (.word rfl rfl) each
  rwa [List.flatten_eq_nil_iff.2 (by simp)] at whole

theorem spelled_amongTest (negated : Bool) (values : List Value)
    (left : Spells d ms l.expression) :
    Fragment.Spelled d (if values.isEmpty then [] else ms) (amongTest l negated values) := by
  unfold amongTest
  split
  · refine .single (.text ?_)
    cases negated <;> exact neutral_word rfl rfl
  · obtain ⟨trails, leads⟩ := trails_leads_negation (d := d) negated (w := "IN (") (.word rfl rfl)
    have members := spelled_parameters (d := d) (values.map fun v => Pair.forColumn? v l.column)
    rw [List.map_map] at members
    have whole := Fragment.Spelled.linked left trails leads
      (members.trailed (w := ")") (.word rfl rfl))
    rw [List.append_nil] at whole
    rw [append_spaced]
    exact whole

theorem spelled_betweenTest {low high : Value} (left : Spells d ms l.expression)
    (h : betweenTest l low high = .ok f) :
    Fragment.Spelled d (if low.isNull && high.isNull then [] else ms) f := by
  rcases betweenTest_eq_ok h with ⟨noLow, noHigh, rfl⟩ | ⟨someLow, _, rfl⟩
  · rw [noLow, noHigh]
    exact .nil
  · rw [someLow]
    have bound : Fragment.Spelled d [] [.text " AND ", l.parameter high] :=
      .led (.word rfl rfl) (.parameter _)
    have whole := (spelled_parameter left (w := " BETWEEN ") (.word rfl rfl) (.word rfl rfl)
      (Pair.forColumn? low l.column)).append bound (Fragment.opens_text (.word rfl rfl) _)
    rw [List.append_nil] at whole
    exact whole

end Tests

/-! ## Parts of a query are spelled with their mentions -/

section Parts

variable {f : Fragment}

/-- Steps over a list give texts in the order of their mentions. -/
theorem forall₂_of_mapM {α β : Type} {render : α → Except Error β} {mentions : α → List Mention}
    {spelled : List Mention → β → Prop} {as : List α} {bs : List β} (h : as.mapM render = .ok bs)
    (each : ∀ a b, render a = .ok b → spelled (mentions a) b) :
    List.Forall₂ spelled (as.map mentions) bs := by
  rw [List.forall₂_map_left_iff]
  exact (mapM_eq_ok.1 h).imp each

theorem spelled_selectList {columns : List Column} (h : selectList d s columns = .ok f) :
    Fragment.Spelled d (columns.flatMap (Column.labeledMentions d s)) f := by
  unfold selectList at h
  split at h
  · rename_i none
    cases h
    rw [List.isEmpty_iff.1 none]
    exact .single (.text (neutral_word rfl rfl))
  · obtain ⟨texts, rendered, rfl⟩ := map_eq_ok.1 h
    rw [List.flatMap_def]
    exact .separatedTexts (.word rfl rfl) (.word rfl rfl)
      (forall₂_of_mapM rendered fun _ _ => Column.spells_renderLabeled)

/-- The added expression is spelled with the added mentions, and the added condition mentions
nothing. -/
structure SelectOptions.Spelled (d : Dialect) (options : SelectOptions) (extra : List Mention) :
    Prop where
  column : ∀ e, options.extraColumn = some e → Spells d extra e
  noColumn : options.extraColumn = none → extra = []
  condition : ∀ e, options.extraCondition = some e → Spells d [] e

theorem SelectOptions.spelled_of_plain {options : SelectOptions}
    (noColumn : options.extraColumn = none) (noCondition : options.extraCondition = none) :
    options.Spelled d [] where
  column _ some := by
    rw [noColumn] at some
    cases some
  noColumn _ := rfl
  condition _ some := by
    rw [noCondition] at some
    cases some

theorem spelled_selectHead {options : SelectOptions} {extra : List Mention} {distinct : Bool}
    {columns : List Column} (h : selectHead d s options distinct columns = .ok f)
    (added : options.Spelled d extra) :
    Fragment.Spelled d (if options.count then []
      else columns.flatMap (Column.labeledMentions d s) ++ extra) f := by
  unfold selectHead at h
  split at h
  · rename_i count
    cases h
    rw [if_pos count]
    exact .single (.text (neutral_word rfl rfl))
  · rename_i rows
    rw [if_neg rows]
    simp only [bind_eq_ok, pure_eq_ok] at h
    obtain ⟨list, written, rfl⟩ := h
    have keyword : Leads d (if distinct then "SELECT DISTINCT " else "SELECT ") := by
      split <;> exact .word rfl rfl
    refine .led keyword ?_
    have listed := spelled_selectList written
    split
    · rename_i e some
      have column : Fragment.Spelled d extra [.text (", " ++ e)] :=
        .single ((added.column e some).led (.word rfl rfl))
      exact listed.append column (Fragment.opens_word (.word rfl rfl) e [])
    · rename_i none
      rw [added.noColumn none, List.append_nil, List.append_nil]
      exact listed

theorem spelled_groupClause {columns : List Column} (h : groupClause d s columns = .ok f) :
    Fragment.Spelled d (columns.flatMap (Column.mentions d s)) f ∧ Fragment.Opens d f := by
  unfold groupClause at h
  split at h
  · rename_i none
    cases h
    rw [List.isEmpty_iff.1 none]
    exact ⟨.nil, Fragment.opens_nil⟩
  · obtain ⟨texts, rendered, rfl⟩ := map_eq_ok.1 h
    rw [List.flatMap_def]
    exact ⟨.led (.word rfl rfl) (.separatedTexts (.word rfl rfl) (.word rfl rfl)
      (forall₂_of_mapM rendered fun c _ => c.spells_render)), Fragment.opens_text (.word rfl rfl) _⟩

theorem spells_orderClause {terms : List Ordered} {t : String} (h : orderClause d s terms = .ok t) :
    Spells d (terms.flatMap fun o => o.column.mentions d s) t := by
  obtain ⟨texts, rendered, rfl⟩ := map_eq_ok.1 h
  rw [List.flatMap_def]
  exact (Spells.intercalate (.word rfl rfl) (.word rfl rfl)
    (forall₂_of_mapM rendered fun _ _ => Ordered.spells_render)).led (.word rfl rfl)

theorem spelled_finalOrder {options : SelectOptions} {terms : List Ordered}
    (h : finalOrder d s options terms = .ok f) :
    Fragment.Spelled d (if options.unordered || options.count then []
      else terms.flatMap fun o => o.column.mentions d s) f ∧ Fragment.Opens d f := by
  unfold finalOrder at h
  cases left : options.unordered || options.count with
  | true =>
    rw [left, Bool.true_or, if_pos rfl] at h
    cases h
    exact ⟨.nil, Fragment.opens_nil⟩
  | false =>
    rw [left, Bool.false_or] at h
    split at h
    · rename_i none
      cases h
      rw [List.isEmpty_iff.1 none]
      exact ⟨.nil, Fragment.opens_nil⟩
    · obtain ⟨clause, written, rfl⟩ := map_eq_ok.1 h
      exact ⟨.single ((spells_orderClause written).led (.word rfl rfl)),
        Fragment.opens_word (.word rfl rfl) clause []⟩

theorem spelled_whereClause {ms : List Mention} {extra : Option String}
    (h : Fragment.Spelled d ms f) (added : ∀ e, extra = some e → Spells d [] e) :
    Fragment.Spelled d ms (whereClause f extra) ∧ Fragment.Opens d (whereClause f extra) := by
  cases extra with
  | none => exact ⟨h.after (.word rfl rfl), Fragment.opens_after (.word rfl rfl) f⟩
  | some e =>
    have bound := added e rfl
    cases nothing : f.writesNothing with
    | true =>
      simp only [whereClause, nothing, if_true]
      have test : Fragment.Spelled d [] [.text (" WHERE " ++ e)] :=
        .single (bound.led (.word rfl rfl))
      have opens := Fragment.opens_word (d := d) (w := " WHERE ") (.word rfl rfl) e []
      have whole := (h.of_writesNothing nothing).append test opens
      rw [List.append_nil] at whole
      exact ⟨whole, opens⟩
    | false =>
      simp only [whereClause, nothing, Bool.false_eq_true, if_false]
      have test : Fragment.Spelled d [] [.text (") AND " ++ e)] :=
        .single (bound.led (.word rfl rfl))
      have opens := Fragment.opens_word (d := d) (w := ") AND ") (.word rfl rfl) e []
      have whole := (h.append test opens).led (w := " WHERE (") (.word rfl rfl)
      rw [List.append_nil] at whole
      exact ⟨whole, Fragment.opens_text (.word rfl rfl) _⟩

theorem spells_schemaTableName (t : TableRef) : Spells d t.mentions (schemaTableName d t) := by
  unfold TableRef.mentions schemaTableName
  split
  · exact .name t.name
  · exact (Spells.name t.schema).linked (w := ".") (.word rfl rfl) (.word rfl rfl) (.name t.name)

theorem spells_tableName (name : String) :
    Spells d ((nameParts name).map .name) (tableName d name) := by
  have each : List.Forall₂ (Spells d) ((nameParts name).map fun part => [.name part])
      ((nameParts name).map d.identifier) := by
    rw [List.forall₂_map_left_iff, List.forall₂_map_right_iff, List.forall₂_same]
    exact fun part _ => .name part
  have whole := Spells.intercalate (w := ".") (.word rfl rfl) (.word rfl rfl) each
  rwa [← List.flatMap_def, ← List.map_eq_flatMap] at whole

theorem spelled_aliasSuffix (aliasName : String) :
    Fragment.Spelled d (if aliasName = "" then [] else [.tableAlias aliasName])
      [.text (aliasSuffix aliasName)] ∧ Fragment.Opens d [.text (aliasSuffix aliasName)] := by
  unfold aliasSuffix
  split
  · exact ⟨.single .empty, fun _ => rfl⟩
  · exact ⟨.single ((Spells.tableAlias aliasName).led (.word rfl rfl)),
      Fragment.opens_word (.word rfl rfl) aliasName []⟩

end Parts

/-! ## Queries are spelled with their mentions -/

mutual
/-- **A query is spelled with its mentions.** -/
theorem Query.spelled_render : ∀ (q : Query) {s : Scope} {options : SelectOptions}
    {extra : List Mention} {f : Fragment}, q.render d s options = .ok f →
      options.Spelled d extra → Fragment.Spelled d (q.mentions d s options extra) f
  | ⟨none, _, _, _, _, _, _, _, _, _, _⟩, s, options, extra, f, h, _ => by
    obtain ⟨t, _, _, _, _, _, _, _, absent, _⟩ := Query.render_eq_ok_iff.1 h
    cases absent
  | ⟨some t, joins, columns, _, filter, groupBy, having, orderBy, _, _, _⟩, s, options, extra, f,
      h, added => by
    obtain ⟨_, head, first, others, condition, groups, groupCondition, order, same, hh, hf, ho, hc,
      hg, hv, hr, rfl⟩ := Query.render_eq_ok_iff.1 h
    cases same
    have list := spelled_selectHead hh added
    have source := Table.spelled_render t hf
    have joined := Join.spelled_renderAll joins ho
    have filtered := spelled_whereClause
      (Fragment.Spelled.chained (Node.spelled_renderAll filter hc)) added.condition
    have grouped := spelled_groupClause hg
    have having := Fragment.Spelled.after (w := " HAVING ") (.word rfl rfl)
      (.chained (Node.spelled_renderAll having hv))
    have ordered := spelled_finalOrder hr
    have tables := (source.append joined.1 joined.2).append filtered.1 filtered.2
    have groups := (tables.append grouped.1 grouped.2).append having
      (Fragment.opens_after (.word rfl rfl) _)
    have body := (groups.append ordered.1 ordered.2).led (w := " FROM ") (.word rfl rfl)
    have whole := list.append body (Fragment.opens_text (.word rfl rfl) _)
    simp only [Query.mentions, List.append_assoc] at whole ⊢
    exact whole

theorem Table.spelled_render : ∀ (t : Table) {s : Scope} {f : Fragment}, t.render d s = .ok f →
    Fragment.Spelled d (t.mentions d s) f
  | ⟨aliasName, source⟩, s, f, h => by
    obtain ⟨g, written, rfl⟩ := Table.render_eq_ok_iff.1 h
    have suffix := spelled_aliasSuffix (d := d) aliasName
    exact (TableSource.spelled_render source written).append suffix.1 suffix.2

theorem TableSource.spelled_render : ∀ (t : TableSource) {s : Scope} {f : Fragment},
    t.render d s = .ok f → Fragment.Spelled d (t.mentions d s) f
  | .entity schema, s, f, h => by
    cases h
    exact .single (spells_schemaTableName schema.table)
  | .named name, s, f, h => by
    cases h
    exact .single (spells_tableName name)
  | .subQuery q, s, f, h => by
    obtain ⟨inner, body, entered, written, rfl⟩ := TableSource.render_subQuery_eq_ok_iff.1 h
    have inside := Query.spelled_render q written (SelectOptions.spelled_of_plain rfl rfl)
    rw [TableSource.mentions, entered]
    exact inside.enclosed (.word rfl rfl) (.word rfl rfl)

theorem Join.spelled_render : ∀ (j : Join) {s : Scope} {f : Fragment}, j.render d s = .ok f →
    Fragment.Spelled d (j.mentions d s) f ∧ Fragment.Opens d f
  | ⟨kind, table, on⟩, s, f, h => by
    obtain ⟨t, condition, ht, hc, rfl⟩ := Join.render_eq_ok_iff.1 h
    have words : Trails d (" " ++ kind.words ++ " ") ∧ Leads d (" " ++ kind.words ++ " ") :=
      trails_leads_spaced (by cases kind <;> exact neutral_word rfl rfl)
    have tested : Fragment.Spelled d (Node.allMentions d s on).flatten
        (if on.isEmpty then [] else .text " ON " :: Fragment.chained condition) ∧
        Fragment.Opens d
          (if on.isEmpty then [] else .text " ON " :: Fragment.chained condition) := by
      cases on with
      | nil => exact ⟨.nil, Fragment.opens_nil⟩
      | cons n ns =>
        exact ⟨.led (.word rfl rfl) (.chained (Node.spelled_renderAll (n :: ns) hc)),
          Fragment.opens_text (.word rfl rfl) _⟩
    exact ⟨((Table.spelled_render table ht).append tested.1 tested.2).led words.2,
      Fragment.opens_text words.1 _⟩

theorem Join.spelled_renderAll : ∀ (js : List Join) {s : Scope} {f : Fragment},
    Join.renderAll d s js = .ok f →
      Fragment.Spelled d (Join.allMentions d s js) f ∧ Fragment.Opens d f
  | [], s, f, h => by
    cases h
    exact ⟨.nil, Fragment.opens_nil⟩
  | j :: js, s, f, h => by
    obtain ⟨first, rest, hf, hr, rfl⟩ := Join.renderAll_cons_eq_ok_iff.1 h
    have one := Join.spelled_render j hf
    have others := Join.spelled_renderAll js hr
    exact ⟨one.1.append others.1 others.2, Fragment.opens_append one.2 others.2⟩

theorem Node.spelled_render : ∀ (n : Node) {s : Scope} {f : Fragment}, n.render d s = .ok f →
    Fragment.Spelled d (n.mentions d s) f
  | .predicate _ p, s, f, h => by
    rw [Node.render_predicate] at h
    exact Predicate.spelled_render p h
  | .nested _ nodes, s, f, h => by
    obtain ⟨members, written, rfl⟩ := Node.render_nested_eq_ok_iff.1 h
    exact (Fragment.Spelled.chained (Node.spelled_renderAll nodes written)).parenthesized
  | .group c members, s, f, h => by
    obtain ⟨fs, written, rfl⟩ := Node.render_group_eq_ok_iff.1 h
    exact (Fragment.Spelled.separated (Fragment.trails_spaced c.inner)
      (Fragment.leads_spaced c.inner) (Predicate.spelled_renderAll members written)).parenthesized

theorem Node.spelled_renderAll : ∀ (ns : List Node) {s : Scope}
    {fs : List (Connective × Fragment)}, Node.renderAll d s ns = .ok fs →
      List.Forall₂ (fun ms node => Fragment.Spelled d ms node.2) (Node.allMentions d s ns) fs
  | [], s, fs, h => by
    cases h
    exact .nil
  | n :: ns, s, fs, h => by
    obtain ⟨first, rest, hf, hr, rfl⟩ := Node.renderAll_cons_eq_ok_iff.1 h
    exact .cons (Node.spelled_render n hf) (Node.spelled_renderAll ns hr)

theorem Predicate.spelled_render : ∀ (p : Predicate) {s : Scope} {f : Fragment},
    p.render d s = .ok f → Fragment.Spelled d (p.mentions d s) f
  | .compare c k operand, s, f, h => by
    obtain ⟨l, left, written⟩ := Predicate.render_compare_eq_ok_iff.1 h
    exact spelled_compareTest left written
  | .like c place negated part, s, f, h => by
    obtain ⟨l, text, left, found, rfl⟩ := Predicate.render_like_eq_ok_iff.1 h
    exact spelled_like negated _ (spells_left left)
  | .among c negated values, s, f, h => by
    obtain ⟨l, left, rfl⟩ := Predicate.render_among_eq_ok_iff.1 h
    exact spelled_amongTest negated values (spells_left left)
  | .isNull c negated, s, f, h => by
    obtain ⟨l, left, rfl⟩ := Predicate.render_isNull_eq_ok_iff.1 h
    have word : Trails d (" IS " ++ negation negated ++ "NULL") :=
      ((Trails.word rfl rfl).append (neutral_negation negated)).append (neutral_word rfl rfl)
    have whole := (spells_left left).trailed word
    rw [← String.append_assoc, ← String.append_assoc] at whole
    exact .single whole
  | .isEmpty c negated, s, f, h => by
    obtain ⟨l, left, rfl⟩ := Predicate.render_isEmpty_eq_ok_iff.1 h
    exact .single (Dialect.spells_emptyTest negated (spells_left left))
  | .between c low high, s, f, h => by
    obtain ⟨l, left, written⟩ := Predicate.render_between_eq_ok_iff.1 h
    exact spelled_betweenTest (spells_left left) written
  | .hasRows negated q, s, f, h => by
    obtain ⟨inner, body, entered, written, rfl⟩ := Predicate.render_hasRows_eq_ok_iff.1 h
    have inside := Query.spelled_render q written (SelectOptions.spelled_of_plain rfl rfl)
    rw [Predicate.mentions, entered]
    exact inside.enclosed (.behind (neutral_negation negated) (.word rfl rfl)) (.word rfl rfl)

theorem Predicate.spelled_renderAll : ∀ (ps : List Predicate) {s : Scope} {fs : List Fragment},
    Predicate.renderAll d s ps = .ok fs →
      List.Forall₂ (Fragment.Spelled d) (Predicate.allMentions d s ps) fs
  | [], s, fs, h => by
    cases h
    exact .nil
  | p :: ps, s, fs, h => by
    obtain ⟨first, rest, hf, hr, rfl⟩ := Predicate.renderAll_cons_eq_ok_iff.1 h
    exact .cons (Predicate.spelled_render p hf) (Predicate.spelled_renderAll ps hr)
end

end EntitySql
