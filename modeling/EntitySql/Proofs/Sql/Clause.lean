import EntitySql.Proofs.Sql.Phrase
import EntitySql.Proofs.Sql.Rendering

/-!
# Clauses

A clause is a fragment put together from phrases and parameters such that parentheses close and no
digit follows a parameter. Every part of a query is a clause of its wordings
(`Query.clause_render`), so what these rules keep holds of all queries, with sub-queries at any
depth.

The wordings of a query are those of its tables, columns and conditions. A sub-query sees the
tables around it, so its scope adds their aliases and column names; those are wordings of the
queries around it.
-/

namespace EntitySql

set_option autoImplicit false

open Outcome

/-! ## Wordings of queries -/

/-- The wordings of the right side of a comparison. -/
def Operand.wordings : Operand → List Wording
  | .value _ => []
  | .column c => c.wordings

mutual
/-- The wordings of a query. -/
def Query.wordings : Query → List Wording
  | ⟨table, joins, columns, _, filter, groupBy, having, orderBy, _, _, _⟩ =>
    Table.optionWordings table ++ Join.allWordings joins ++ columns.flatMap Column.wordings ++
      Node.allWordings filter ++ groupBy.flatMap Column.wordings ++ Node.allWordings having ++
      orderBy.flatMap fun o => o.column.wordings
  termination_by structural q => q

/-- The wordings of a table that may be absent. -/
def Table.optionWordings : Option Table → List Wording
  | none => []
  | some t => t.wordings
  termination_by structural t => t

/-- The alias of a table and the wordings of its source. -/
def Table.wordings : Table → List Wording
  | ⟨aliasName, source⟩ => .verbatim aliasName :: source.wordings
  termination_by structural t => t

/-- The names of a table and of its columns, or the wordings of the query it stands for. -/
def TableSource.wordings : TableSource → List Wording
  | .entity schema =>
    [.identifier schema.table.schema, .identifier schema.table.name] ++ schema.columnWordings
  | .named name => (nameParts name).map .identifier
  | .subQuery q => q.wordings
  termination_by structural t => t

/-- The wordings of a join. -/
def Join.wordings : Join → List Wording
  | ⟨_, table, on⟩ => table.wordings ++ Node.allWordings on
  termination_by structural j => j

/-- The wordings of joins. -/
def Join.allWordings : List Join → List Wording
  | [] => []
  | j :: js => j.wordings ++ Join.allWordings js
  termination_by structural js => js

/-- The wordings of a node. -/
def Node.wordings : Node → List Wording
  | .predicate _ p => p.wordings
  | .nested _ nodes => Node.allWordings nodes
  | .group _ members => Predicate.allWordings members
  termination_by structural n => n

/-- The wordings of nodes. -/
def Node.allWordings : List Node → List Wording
  | [] => []
  | n :: ns => n.wordings ++ Node.allWordings ns
  termination_by structural ns => ns

/-- The wordings of a predicate: those of its columns or of its query. -/
def Predicate.wordings : Predicate → List Wording
  | .compare c _ operand => c.wordings ++ operand.wordings
  | .like c _ _ _ => c.wordings
  | .among c _ _ => c.wordings
  | .isNull c _ => c.wordings
  | .isEmpty c _ => c.wordings
  | .between c _ _ => c.wordings
  | .hasRows _ q => q.wordings
  termination_by structural p => p

/-- The wordings of predicates. -/
def Predicate.allWordings : List Predicate → List Wording
  | [] => []
  | p :: ps => p.wordings ++ Predicate.allWordings ps
  termination_by structural ps => ps
end

/-- The alias of a table in scope and the names of its columns are wordings of the table. -/
theorem Table.visible_wordings (t : Table) :
    .verbatim t.visible.aliasName ∈ t.wordings ∧
      ∀ w ∈ Scope.columnWordings [t.visible], w ∈ t.wordings := by
  obtain ⟨aliasName, source⟩ := t
  refine ⟨by simp [visible, wordings], ?_⟩
  cases source with
  | entity schema =>
    intro w member
    simp only [Scope.columnWordings, visible, schema?, List.flatMap_cons, Option.toList_some,
      List.flatMap_nil, List.append_nil] at member
    simp [wordings, TableSource.wordings, member]
  | named name => simp [Scope.columnWordings, visible, schema?]
  | subQuery q => simp [Scope.columnWordings, visible, schema?]

theorem Join.mem_allWordings {j : Join} {w : Wording} {js : List Join} (h : w ∈ j.table.wordings)
    (member : j ∈ js) : w ∈ Join.allWordings js := by
  induction js with
  | nil => cases member
  | cons i js ih =>
    simp only [Join.allWordings, List.mem_append]
    rcases List.mem_cons.1 member with rfl | member
    · obtain ⟨_, table, on⟩ := j
      exact .inl (by simp only [Join.wordings, List.mem_append]; exact .inl h)
    · exact .inr (ih member)

/-- What is selected is requested or ordered by. -/
theorem Query.mem_withTerms {c : Column} : ∀ {columns : List Column} {orderBy : List Ordered},
    c ∈ withTerms columns orderBy → c ∈ columns ∨ ∃ o ∈ orderBy, c = o.column
  | columns, [], h => .inl h
  | columns, term :: rest, h => by
    rw [withTerms] at h
    split at h
    · rcases mem_withTerms h with requested | ⟨o, used, same⟩
      · exact .inl requested
      · exact .inr ⟨o, List.mem_cons_of_mem _ used, same⟩
    · rcases mem_withTerms h with requested | ⟨o, used, same⟩
      · rcases List.mem_append.1 requested with requested | added
        · exact .inl requested
        · exact .inr ⟨term, List.mem_cons_self, List.mem_singleton.1 added⟩
      · exact .inr ⟨o, List.mem_cons_of_mem _ used, same⟩

theorem Query.mem_selected {c : Column} {columns : List Column} {orderBy : List Ordered}
    (h : c ∈ selected columns orderBy) : c ∈ columns ∨ ∃ o ∈ orderBy, c = o.column := by
  unfold selected at h
  split at h
  · exact .inl h
  · exact mem_withTerms h

namespace Query

variable {q : Query} {w : Wording}

/-- The wordings of the tables of a query are wordings of the query. -/
theorem mem_wordings_of_table {t : Table} (h : w ∈ t.wordings) (member : t ∈ q.tables) :
    w ∈ q.wordings := by
  obtain ⟨table, joins, columns, distinct, filter, groupBy, having, orderBy, _, _, _⟩ := q
  simp only [wordings, List.mem_append]
  rcases List.mem_append.1 member with first | joined
  · cases table with
    | none => cases first
    | some u =>
      cases List.mem_singleton.1 first
      exact .inl (.inl (.inl (.inl (.inl (.inl h)))))
  · obtain ⟨j, used, rfl⟩ := List.mem_map.1 joined
    exact .inl (.inl (.inl (.inl (.inl (.inr (Join.mem_allWordings h used))))))

theorem mem_wordings_of_column {c : Column} (h : w ∈ c.wordings) (member : c ∈ q.columns) :
    w ∈ q.wordings := by
  obtain ⟨table, joins, columns, distinct, filter, groupBy, having, orderBy, _, _, _⟩ := q
  simp only [wordings, List.mem_append, List.mem_flatMap]
  exact .inl (.inl (.inl (.inl (.inr ⟨c, member, h⟩))))

theorem mem_wordings_of_term {o : Ordered} (h : w ∈ o.column.wordings) (member : o ∈ q.orderBy) :
    w ∈ q.wordings := by
  obtain ⟨table, joins, columns, distinct, filter, groupBy, having, orderBy, _, _, _⟩ := q
  simp only [wordings, List.mem_append, List.mem_flatMap]
  exact .inr ⟨o, member, h⟩

/-- The wordings of what is selected are wordings of the query. -/
theorem mem_wordings_of_selected {c : Column} (h : w ∈ c.wordings)
    (member : c ∈ selected q.columns q.orderBy) : w ∈ q.wordings := by
  rcases mem_selected member with requested | ⟨o, used, rfl⟩
  · exact mem_wordings_of_column h requested
  · exact mem_wordings_of_term h used

end Query

namespace Scope

/-- What entering a query leaves: its tables before those around it. -/
theorem enter_eq_ok {qualify : Bool} {outer : List VisibleTable} {q : Query} {s : Scope}
    (h : enter qualify outer q = .ok s) :
    s = ⟨q.tables.map Table.visible, outer, q.isSingleTable, qualify, q.endOfDay⟩ := by
  unfold enter at h
  split at h
  · cases h
  · simp only at h
    split at h
    · cases h
    · split at h
      · cases h
      · cases h
        rfl

theorem mem_columnWordings_append {w : Wording} {ts us : List VisibleTable} :
    w ∈ columnWordings (ts ++ us) ↔ w ∈ columnWordings ts ∨ w ∈ columnWordings us := by
  simp only [columnWordings, List.flatMap_append, List.mem_append]

/-- **A scope adds nothing new:** its wordings are those of its query and of the scope around. -/
theorem admits_of_enter {admits : Wording → Prop} {qualify : Bool} {outer : List VisibleTable}
    {q : Query} {s : Scope} (h : enter qualify outer q = .ok s)
    (own : ∀ w ∈ q.wordings, admits w) (around : ∀ w ∈ columnWordings outer, admits w) :
    ∀ w ∈ s.wordings, admits w := by
  have same := enter_eq_ok h
  subst same
  intro w member
  simp only [wordings, List.mem_append, mem_columnWordings_append] at member
  rcases member with named | column | column
  · obtain ⟨name, isDefault, rfl⟩ := List.mem_map.1 named
    obtain ⟨v, visible, rfl⟩ := exists_of_defaultAlias? (Option.mem_toList.1 isDefault)
    obtain ⟨t, used, rfl⟩ := List.mem_map.1 visible
    exact own _ (Query.mem_wordings_of_table t.visible_wordings.1 used)
  · obtain ⟨v, visible, mentioned⟩ := List.mem_flatMap.1 column
    obtain ⟨t, used, rfl⟩ := List.mem_map.1 visible
    refine own _ (Query.mem_wordings_of_table (t.visible_wordings.2 w ?_) used)
    simpa [columnWordings] using mentioned
  · exact around w column

theorem admits_of_inside {admits : Wording → Prop} {s inner : Scope} {q : Query}
    (h : s.inside q = .ok inner) (own : ∀ w ∈ q.wordings, admits w)
    (scope : ∀ w ∈ s.wordings, admits w) : ∀ w ∈ inner.wordings, admits w :=
  admits_of_enter h own fun w column => scope w (List.mem_append_right _ column)

end Scope

/-! ## Clauses -/

/-- Two fragments have one text and as many parameters. -/
def Fragment.Alike (d : Dialect) (f g : Fragment) : Prop :=
  (∀ n, (f.sqlFrom d n).toList = (g.sqlFrom d n).toList) ∧
    f.parameters.length = g.parameters.length

/-- A fragment of phrases and parameters whose parentheses close. -/
inductive Clause (d : Dialect) (admits : Wording → Prop) : Fragment → Prop where
  | nil : Clause d admits []
  | text {s : String} {f : Fragment} :
      Phrase d admits s → Clause d admits f → Clause d admits (.text s :: f)
  | parameter (p : Pair) : Clause d admits [.parameter p]
  | append {f g : Fragment} : Clause d admits f → Clause d admits g → g.leadsClear = true →
      Clause d admits (f ++ g)
  | parens {f : Fragment} : Clause d admits f → Clause d admits (.text "(" :: (f ++ [.text ")"]))
  | alike {f g : Fragment} : Clause d admits g → f.Alike d g → Clause d admits f

variable {d : Dialect} {admits : Wording → Prop}

namespace Clause

variable {f g : Fragment}

theorem single {s : String} (h : Phrase d admits s) : Clause d admits [.text s] := .text h .nil

/-- A fragment that writes nothing changes nothing before another one. -/
theorem append_of_writesNothing (nothing : f.writesNothing = true) (h : Clause d admits g) :
    Clause d admits (f ++ g) := by
  induction f with
  | nil => exact h
  | cons piece f ih =>
    simp only [Fragment.writesNothing, List.all_cons, Bool.and_eq_true] at nothing
    cases piece with
    | parameter p => cases nothing.1
    | text s =>
      have empty : s = "" := by simpa [Piece.isEmpty] using nothing.1
      subst empty
      exact .text .empty (ih nothing.2)

theorem separatedAfter {separator : String} {c : Char} {cs : List Char}
    (plain : Consists isPlainChar separator) (first : separator.toList = c :: cs)
    (clear : c.isDigit = false) : ∀ {members : List Fragment} (wrote : Bool),
    (∀ f ∈ members, Clause d admits f) →
      Clause d admits (Fragment.separatedAfter separator wrote members)
  | [], _, _ => .nil
  | f :: rest, wrote, h => by
    have one : Clause d admits (if wrote then f.cons (.text separator) else f) := by
      split
      · exact .text (.plain plain) (h f List.mem_cons_self)
      · exact h f List.mem_cons_self
    have others : ∀ w, Clause d admits (Fragment.separatedAfter separator w rest) := fun w =>
      separatedAfter plain first clear w fun g member => h g (List.mem_cons_of_mem _ member)
    rw [Fragment.separatedAfter]
    cases nothing : f.writesNothing with
    | false => exact one.append (others _) (Fragment.leadsClear_separatedAfter first clear rest)
    | true =>
      cases wrote with
      | false => exact append_of_writesNothing nothing (others _)
      | true => exact .text (.plain plain) (append_of_writesNothing nothing (others _))

theorem separated {separator : String} {c : Char} {cs : List Char}
    (plain : Consists isPlainChar separator) (first : separator.toList = c :: cs)
    (clear : c.isDigit = false) {members : List Fragment}
    (h : ∀ f ∈ members, Clause d admits f) :
    Clause d admits (Fragment.separated separator members) :=
  separatedAfter plain first clear false h

theorem chainedAfter : ∀ {nodes : List (Connective × Fragment)} (started : Bool),
    (∀ node ∈ nodes, Clause d admits node.2) →
      Clause d admits (Fragment.chainedAfter started nodes)
  | [], _, _ => .nil
  | (c, f) :: rest, started, h => by
    have one : Clause d admits f := h (c, f) List.mem_cons_self
    have others : ∀ st, Clause d admits (Fragment.chainedAfter st rest) := fun st =>
      chainedAfter st fun node member => h node (List.mem_cons_of_mem _ member)
    rw [Fragment.chainedAfter]
    split
    · exact others started
    · have lead : Clause d admits (if started then .text c.spaced :: f else f) := by
        split
        · exact .text (.plain (by cases c <;> decide)) one
        · exact one
      exact lead.append (others true) (Fragment.leadsClear_chainedAfter rest)

theorem chained {nodes : List (Connective × Fragment)}
    (h : ∀ node ∈ nodes, Clause d admits node.2) : Clause d admits (Fragment.chained nodes) :=
  chainedAfter false h

theorem parenthesized (h : Clause d admits f) : Clause d admits f.parenthesized := by
  unfold Fragment.parenthesized
  split
  · exact .nil
  · exact h.parens

/-- A text before a parenthesis and one after it. -/
theorem enclosed (before after : String) {opening closing : String} (h : Clause d admits f)
    (left : Phrase d admits before) (right : Phrase d admits after)
    (clear : Fragment.leadsClear [.text after] = true)
    (opens : opening.toList = before.toList ++ ['('])
    (closes : closing.toList = ')' :: after.toList) :
    Clause d admits (.text opening :: (f ++ [.text closing])) := by
  refine .alike (.text left (h.parens.append (.single right) clear)) ⟨fun n => ?_, by simp⟩
  simp [Fragment.sqlFrom_append, opens, closes]

/-- Two parentheses, one around the other, with texts between them. -/
theorem enclosedTwice (outer inner between after : String) {opening closing : String}
    (h : Clause d admits f) (first : Phrase d admits outer) (second : Phrase d admits inner)
    (third : Phrase d admits between) (fourth : Phrase d admits after)
    (clear : Fragment.leadsClear [.text between] = true ∧ Fragment.leadsClear [.text after] = true)
    (opens : opening.toList = outer.toList ++ '(' :: (inner.toList ++ ['(']))
    (closes : closing.toList = ')' :: (between.toList ++ ')' :: after.toList)) :
    Clause d admits (.text opening :: (f ++ [.text closing])) := by
  have level : Clause d admits (.text (inner ++ "(") :: (f ++ [.text (")" ++ between)])) :=
    h.enclosed inner between second third clear.1 (by simp) (by simp)
  refine .alike (.text first (level.parens.append (.single fourth) clear.2)) ⟨fun n => ?_, by simp⟩
  simp [Fragment.sqlFrom_append, opens, closes]

end Clause

/-! ## Tests are clauses -/

section Tests

variable {s : Scope} {l : LeftSide}

/-- The expression on the left side of a test on a column. -/
theorem phrase_left {c : Column} (h : LeftSide.ofColumn d s c = .ok l)
    (own : ∀ w ∈ c.wordings, admits w) (scope : ∀ w ∈ s.wordings, admits w) :
    Phrase d admits l.expression :=
  c.phrase_render (LeftSide.ofColumn_eq_ok_iff.1 h).2 own scope

theorem clause_compareTest {k : Comparison} {operand : Operand} {f : Fragment}
    (h : compareTest d s l k operand = .ok f) (left : Phrase d admits l.expression)
    (own : ∀ w ∈ operand.wordings, admits w) (scope : ∀ w ∈ s.wordings, admits w) :
    Clause d admits f := by
  have symbol : Phrase d admits k.symbol := .plain (by cases k <;> decide)
  have blank : Phrase d admits " " := .word rfl rfl
  rcases compareTest_eq_ok h with
    ⟨v, rfl, _, rfl⟩ | ⟨v, rfl, _, rfl⟩ | ⟨other, right, rfl, written, rfl⟩
  · refine .single (left.append (.plain ?_))
    split <;> decide
  · exact .text (((left.append blank).append symbol).append blank) (.parameter _)
  · exact .single ((((left.append blank).append symbol).append blank).append
      (other.phrase_render written own scope))

theorem clause_like (negated : Bool) (p : Pair) (left : Phrase d admits l.expression) :
    Clause d admits [.text (l.expression ++ " " ++ negation negated ++ "LIKE "), .parameter p] := by
  have word : Phrase d admits (negation negated) := .plain (by cases negated <;> decide)
  exact .text (((left.append (.word rfl rfl)).append word).append (.word rfl rfl)) (.parameter p)

/-- The values of a test for membership, one parameter each. -/
theorem clause_members (values : List Value) :
    Clause d admits (Fragment.separated ", " (values.map fun v => [l.parameter v])) := by
  refine .separated (by decide) rfl rfl fun f member => ?_
  obtain ⟨v, _, rfl⟩ := List.mem_map.1 member
  exact .parameter _

theorem clause_amongTest (negated : Bool) (values : List Value)
    (left : Phrase d admits l.expression) : Clause d admits (amongTest l negated values) := by
  unfold amongTest
  split
  · exact .single (.plain (by cases negated <;> decide))
  · have members : Clause d admits
        (Fragment.separated ", " (values.map fun v => [l.parameter v])) := clause_members values
    have word : Phrase d admits (negation negated) := .plain (by cases negated <;> decide)
    refine members.enclosed (l.expression ++ " " ++ negation negated ++ "IN ") ""
      (((left.append (.word rfl rfl)).append word).append (.word rfl rfl)) .empty rfl ?_ (by simp)
    simp

theorem phrase_emptyTest (negated : Bool) (left : Phrase d admits l.expression) :
    Phrase d admits (d.emptyTest l.expression negated) := by
  have quotes : Phrase d admits ("'" ++ "" ++ "'") := .quote (by decide)
  have tests : Phrase d admits (if negated then
      "(" ++ l.expression ++ " <> '' AND " ++ l.expression ++ " IS NOT NULL)"
      else "(" ++ l.expression ++ " = '' OR " ++ l.expression ++ " IS NULL)") := by
    split
    · have first : Phrase d admits (l.expression ++ " <> " ++ ("'" ++ "" ++ "'") ++ " AND ") :=
        ((left.append (.word rfl rfl)).append quotes).append (.word rfl rfl)
      have last : Phrase d admits " IS NOT NULL" := .word rfl rfl
      exact .of_toList (by simp) ((first.append left).append last).parens
    · have first : Phrase d admits (l.expression ++ " = " ++ ("'" ++ "" ++ "'") ++ " OR ") :=
        ((left.append (.word rfl rfl)).append quotes).append (.word rfl rfl)
      have last : Phrase d admits " IS NULL" := .word rfl rfl
      exact .of_toList (by simp) ((first.append left).append last).parens
  cases d with
  | oracle =>
    have word : Phrase .oracle admits (negation negated) := .plain (by cases negated <;> decide)
    exact ((left.append (.word rfl rfl)).append word).append (.word rfl rfl)
  | generic => exact tests
  | mysql => exact tests
  | postgres => exact tests
  | h2 => exact tests
  | sqlServer => exact tests

theorem clause_betweenTest {low high : Value} {f : Fragment} (h : betweenTest l low high = .ok f)
    (left : Phrase d admits l.expression) : Clause d admits f := by
  rcases betweenTest_eq_ok h with ⟨_, _, rfl⟩ | ⟨_, _, rfl⟩
  · exact .nil
  · exact .text (left.append (.word rfl rfl)) (.append (f := [_]) (.parameter _)
      (.text (.word rfl rfl) (.parameter _)) rfl)

end Tests

/-! ## Parts of a query are clauses -/

section Parts

variable {s : Scope} {f : Fragment}

theorem clause_separatedTexts {texts : List String} (h : ∀ t ∈ texts, Phrase d admits t) :
    Clause d admits (separatedTexts ", " texts) := by
  refine .separated (by decide) rfl rfl fun g member => ?_
  obtain ⟨t, used, rfl⟩ := List.mem_map.1 member
  exact .single (h t used)

/-- The expressions that options add are phrases. -/
def SelectOptions.ArePhrases (d : Dialect) (admits : Wording → Prop) (options : SelectOptions) :
    Prop :=
  (∀ e, options.extraColumn = some e → Phrase d admits e) ∧
    ∀ e, options.extraCondition = some e → Phrase d admits e

theorem SelectOptions.standard_arePhrases : standard.ArePhrases d admits :=
  ⟨nofun, nofun⟩

theorem clause_selectHead {options : SelectOptions} {distinct : Bool} {columns : List Column}
    (h : selectHead d s options distinct columns = .ok f)
    (own : ∀ c ∈ columns, ∀ w ∈ c.wordings, admits w) (scope : ∀ w ∈ s.wordings, admits w)
    (extra : ∀ e, options.extraColumn = some e → Phrase d admits e) : Clause d admits f := by
  unfold selectHead at h
  split at h
  · cases h
    have call : Phrase d admits ("COUNT" ++ "(" ++ "*" ++ ")") :=
      .call (.word rfl rfl) (.word rfl rfl)
    have select : Phrase d admits "SELECT " := .word rfl rfl
    exact .single (.of_toList (by simp) (select.append call))
  · simp only [bind_eq_ok, pure_eq_ok, selectList] at h
    obtain ⟨list, written, rfl⟩ := h
    have columnsClause : Clause d admits list := by
      split at written
      · cases written
        exact .single (.word rfl rfl)
      · obtain ⟨texts, rendered, rfl⟩ := map_eq_ok.1 written
        exact clause_separatedTexts (forall_of_mapM rendered fun c member t text =>
          Column.phrase_renderLabeled text (own c member) scope)
    have keyword : Phrase d admits (if distinct then "SELECT DISTINCT " else "SELECT ") := by
      split <;> exact .word rfl rfl
    refine .text keyword ?_
    split
    · rename_i e same
      exact columnsClause.append (.single ((Phrase.word rfl rfl).append (extra e same)))
        (Fragment.leadsClear_word rfl rfl)
    · rw [List.append_nil]
      exact columnsClause

theorem clause_groupClause {columns : List Column} (h : groupClause d s columns = .ok f)
    (own : ∀ c ∈ columns, ∀ w ∈ c.wordings, admits w) (scope : ∀ w ∈ s.wordings, admits w) :
    Clause d admits f ∧ f.leadsClear = true := by
  unfold groupClause at h
  split at h
  · cases h
    exact ⟨.nil, rfl⟩
  · obtain ⟨texts, rendered, rfl⟩ := map_eq_ok.1 h
    have each := forall_of_mapM rendered fun c member t text =>
      c.phrase_render text (own c member) scope
    exact ⟨.text (.word rfl rfl) (clause_separatedTexts each), rfl⟩

theorem phrase_orderClause {terms : List Ordered} {t : String} (h : orderClause d s terms = .ok t)
    (own : ∀ o ∈ terms, ∀ w ∈ o.column.wordings, admits w) (scope : ∀ w ∈ s.wordings, admits w) :
    Phrase d admits t := by
  obtain ⟨texts, rendered, rfl⟩ := map_eq_ok.1 h
  exact (Phrase.word rfl rfl).append (.intercalate (by decide) _
    (forall_of_mapM rendered fun o member t text =>
      Ordered.phrase_render text (own o member) scope))

theorem clause_finalOrder {options : SelectOptions} {terms : List Ordered}
    (h : finalOrder d s options terms = .ok f)
    (own : ∀ o ∈ terms, ∀ w ∈ o.column.wordings, admits w) (scope : ∀ w ∈ s.wordings, admits w) :
    Clause d admits f ∧ f.leadsClear = true := by
  unfold finalOrder at h
  split at h
  · cases h
    exact ⟨.nil, rfl⟩
  · obtain ⟨clause, written, rfl⟩ := map_eq_ok.1 h
    exact ⟨.single ((Phrase.word rfl rfl).append (phrase_orderClause written own scope)),
      Fragment.leadsClear_word rfl rfl⟩

theorem clause_after (keyword : String) {c : Char} {cs : List Char}
    (plain : Consists isPlainChar keyword) (first : keyword.toList = c :: cs)
    (clear : c.isDigit = false) (h : Clause d admits f) :
    Clause d admits (f.after keyword) ∧ (f.after keyword).leadsClear = true := by
  unfold Fragment.after
  split
  · exact ⟨.nil, rfl⟩
  · exact ⟨.text (.plain plain) h, Fragment.leadsClear_text first clear⟩

theorem clause_whereClause {extra : Option String} (h : Clause d admits f)
    (more : ∀ e, extra = some e → Phrase d admits e) :
    Clause d admits (whereClause f extra) ∧ (whereClause f extra).leadsClear = true := by
  cases extra with
  | none => exact clause_after _ (by decide) rfl rfl h
  | some e =>
    have test := more e rfl
    cases nothing : f.writesNothing with
    | true =>
      simp only [whereClause, nothing, if_true]
      exact ⟨.single ((Phrase.word rfl rfl).append test),
        Fragment.leadsClear_word rfl rfl⟩
    | false =>
      simp only [whereClause, nothing, Bool.false_eq_true, if_false]
      have bound : Phrase d admits (" AND " ++ e) := (Phrase.word rfl rfl).append test
      refine ⟨h.enclosed " WHERE " _ (.word rfl rfl) bound (Fragment.leadsClear_word rfl rfl)
        (by simp) (by simp), rfl⟩

theorem phrase_schemaTableName {t : TableRef} (schema : admits (.identifier t.schema))
    (name : admits (.identifier t.name)) : Phrase d admits (schemaTableName d t) := by
  unfold schemaTableName
  split
  · exact .identifier name
  · exact ((Phrase.identifier schema).append (.word rfl rfl)).append (.identifier name)

theorem phrase_tableName {name : String} (h : ∀ part ∈ nameParts name, admits (.identifier part)) :
    Phrase d admits (tableName d name) := by
  refine .intercalate (by decide) _ fun t member => ?_
  obtain ⟨part, used, rfl⟩ := List.mem_map.1 member
  exact .identifier (h part used)

theorem clause_aliasSuffix {name : String} (h : admits (.verbatim name)) :
    Clause d admits [.text (aliasSuffix name)] ∧
      Fragment.leadsClear [.text (aliasSuffix name)] = true := by
  unfold aliasSuffix
  split
  · exact ⟨.single .empty, rfl⟩
  · exact ⟨.single ((Phrase.word rfl rfl).append (.verbatim h)),
      Fragment.leadsClear_word rfl rfl⟩

end Parts

/-! ## Queries are clauses -/

mutual
/-- **A query is a clause** of its wordings and those of its scope. -/
theorem Query.clause_render : ∀ (q : Query) {s : Scope} {options : SelectOptions} {f : Fragment},
    q.render d s options = .ok f → (∀ w ∈ q.wordings, admits w) → (∀ w ∈ s.wordings, admits w) →
      options.ArePhrases d admits → Clause d admits f
  | ⟨none, _, _, _, _, _, _, _, _, _, _⟩, s, options, f, h, _, _, _ => by
    obtain ⟨t, _, _, _, _, _, _, _, absent, _⟩ := Query.render_eq_ok_iff.1 h
    cases absent
  | ⟨some t, joins, columns, _, filter, groupBy, having, orderBy, _, _, _⟩, s, options, f, h, own,
      scope, extra => by
    obtain ⟨_, head, first, others, condition, groups, groupCondition, order, same, hh, hf, ho, hc,
      hg, hv, hr, rfl⟩ := Query.render_eq_ok_iff.1 h
    cases same
    have selected : ∀ c ∈ Query.selected columns orderBy, ∀ w ∈ c.wordings, admits w :=
      fun c member w mentioned => own w (Query.mem_wordings_of_selected mentioned member)
    simp only [Query.wordings, Table.optionWordings, List.mem_append, List.mem_flatMap] at own
    have headClause := clause_selectHead hh selected scope extra.1
    have firstClause := Table.clause_render t hf
      (fun w member => own w (.inl (.inl (.inl (.inl (.inl (.inl member))))))) scope
    have othersClause := Join.clause_renderAll joins ho
      (fun w member => own w (.inl (.inl (.inl (.inl (.inl (.inr member))))))) scope
    have conditionClause := clause_whereClause (.chained (Node.clause_renderAll filter hc
      (fun w member => own w (.inl (.inl (.inl (.inr member))))) scope)) extra.2
    have groupsClause := clause_groupClause hg
      (fun c member w mentioned => own w (.inl (.inl (.inr ⟨c, member, mentioned⟩)))) scope
    have havingClause := clause_after " HAVING " (by decide) rfl rfl
      (.chained (Node.clause_renderAll having hv
        (fun w member => own w (.inl (.inr member))) scope))
    have orderClause := clause_finalOrder hr
      (fun o member w mentioned => own w (.inr ⟨o, member, mentioned⟩)) scope
    have tables := firstClause.append othersClause.1 othersClause.2
    have filtered := tables.append conditionClause.1 conditionClause.2
    have grouped := (filtered.append groupsClause.1 groupsClause.2).append havingClause.1
      havingClause.2
    exact headClause.append (.text (.word rfl rfl) (grouped.append orderClause.1 orderClause.2)) rfl

theorem Table.clause_render : ∀ (t : Table) {s : Scope} {f : Fragment}, t.render d s = .ok f →
    (∀ w ∈ t.wordings, admits w) → (∀ w ∈ s.wordings, admits w) → Clause d admits f
  | ⟨aliasName, source⟩, s, f, h, own, scope => by
    obtain ⟨g, written, rfl⟩ := Table.render_eq_ok_iff.1 h
    simp only [Table.wordings, List.mem_cons] at own
    have suffix := clause_aliasSuffix (d := d) (own _ (.inl rfl))
    exact (TableSource.clause_render source written (fun w member => own w (.inr member))
      scope).append suffix.1 suffix.2

theorem TableSource.clause_render : ∀ (t : TableSource) {s : Scope} {f : Fragment},
    t.render d s = .ok f → (∀ w ∈ t.wordings, admits w) → (∀ w ∈ s.wordings, admits w) →
      Clause d admits f
  | .entity schema, s, f, h, own, _ => by
    cases h
    exact .single (phrase_schemaTableName (own _ (by simp [TableSource.wordings]))
      (own _ (by simp [TableSource.wordings])))
  | .named name, s, f, h, own, _ => by
    cases h
    exact .single (phrase_tableName fun part used =>
      own _ (by simpa [TableSource.wordings] using used))
  | .subQuery q, s, f, h, own, scope => by
    obtain ⟨inner, body, entered, written, rfl⟩ := TableSource.render_subQuery_eq_ok_iff.1 h
    rw [TableSource.wordings] at own
    exact .parens (Query.clause_render q written own (Scope.admits_of_inside entered own scope)
      SelectOptions.standard_arePhrases)

theorem Join.clause_render : ∀ (j : Join) {s : Scope} {f : Fragment}, j.render d s = .ok f →
    (∀ w ∈ j.wordings, admits w) → (∀ w ∈ s.wordings, admits w) →
      Clause d admits f ∧ f.leadsClear = true
  | ⟨kind, table, on⟩, s, f, h, own, scope => by
    obtain ⟨t, condition, ht, hc, rfl⟩ := Join.render_eq_ok_iff.1 h
    simp only [Join.wordings, List.mem_append] at own
    have words : Phrase d admits (" " ++ kind.words ++ " ") := .plain (by cases kind <;> decide)
    have tableClause := Table.clause_render table ht (fun w member => own w (.inl member)) scope
    have onClause := Node.clause_renderAll on hc (fun w member => own w (.inr member)) scope
    refine ⟨.text words (tableClause.append ?_ ?_),
      Fragment.leadsClear_word (by rw [String.toList_append]; rfl) rfl⟩
    · split
      · exact .nil
      · exact .text (.word rfl rfl) (.chained onClause)
    · split <;> rfl

theorem Join.clause_renderAll : ∀ (js : List Join) {s : Scope} {f : Fragment},
    Join.renderAll d s js = .ok f → (∀ w ∈ Join.allWordings js, admits w) →
      (∀ w ∈ s.wordings, admits w) → Clause d admits f ∧ f.leadsClear = true
  | [], s, f, h, _, _ => by
    cases h
    exact ⟨.nil, rfl⟩
  | j :: js, s, f, h, own, scope => by
    obtain ⟨first, rest, hf, hr, rfl⟩ := Join.renderAll_cons_eq_ok_iff.1 h
    simp only [Join.allWordings, List.mem_append] at own
    have one := Join.clause_render j hf (fun w member => own w (.inl member)) scope
    have others := Join.clause_renderAll js hr (fun w member => own w (.inr member)) scope
    exact ⟨one.1.append others.1 others.2, Fragment.leadsClear_append one.2 others.2⟩

theorem Node.clause_render : ∀ (n : Node) {s : Scope} {f : Fragment}, n.render d s = .ok f →
    (∀ w ∈ n.wordings, admits w) → (∀ w ∈ s.wordings, admits w) → Clause d admits f
  | .predicate _ p, s, f, h, own, scope => by
    rw [Node.render_predicate] at h
    rw [Node.wordings] at own
    exact Predicate.clause_render p h own scope
  | .nested _ nodes, s, f, h, own, scope => by
    obtain ⟨members, written, rfl⟩ := Node.render_nested_eq_ok_iff.1 h
    rw [Node.wordings] at own
    exact (Clause.chained (Node.clause_renderAll nodes written own scope)).parenthesized
  | .group c members, s, f, h, own, scope => by
    obtain ⟨fs, written, rfl⟩ := Node.render_group_eq_ok_iff.1 h
    rw [Node.wordings] at own
    have each := Predicate.clause_renderAll members written own scope
    refine Clause.parenthesized ?_
    cases c.inner with
    | and => exact .separated (by decide) rfl rfl each
    | or => exact .separated (by decide) rfl rfl each

theorem Node.clause_renderAll : ∀ (ns : List Node) {s : Scope}
    {fs : List (Connective × Fragment)}, Node.renderAll d s ns = .ok fs →
      (∀ w ∈ Node.allWordings ns, admits w) → (∀ w ∈ s.wordings, admits w) →
        ∀ node ∈ fs, Clause d admits node.2
  | [], s, fs, h, _, _ => by
    cases h
    exact List.forall_mem_nil _
  | n :: ns, s, fs, h, own, scope => by
    obtain ⟨first, rest, hf, hr, rfl⟩ := Node.renderAll_cons_eq_ok_iff.1 h
    simp only [Node.allWordings, List.mem_append] at own
    intro node member
    rcases List.mem_cons.1 member with rfl | member
    · exact Node.clause_render n hf (fun w mentioned => own w (.inl mentioned)) scope
    · exact Node.clause_renderAll ns hr (fun w mentioned => own w (.inr mentioned)) scope node
        member

theorem Predicate.clause_render : ∀ (p : Predicate) {s : Scope} {f : Fragment},
    p.render d s = .ok f → (∀ w ∈ p.wordings, admits w) → (∀ w ∈ s.wordings, admits w) →
      Clause d admits f
  | .compare c k operand, s, f, h, own, scope => by
    obtain ⟨l, left, written⟩ := Predicate.render_compare_eq_ok_iff.1 h
    simp only [Predicate.wordings, List.mem_append] at own
    exact clause_compareTest written
      (phrase_left left (fun w member => own w (.inl member)) scope)
      (fun w member => own w (.inr member)) scope
  | .like c place negated part, s, f, h, own, scope => by
    obtain ⟨l, text, left, found, rfl⟩ := Predicate.render_like_eq_ok_iff.1 h
    rw [Predicate.wordings] at own
    exact clause_like negated _ (phrase_left left own scope)
  | .among c negated values, s, f, h, own, scope => by
    obtain ⟨l, left, rfl⟩ := Predicate.render_among_eq_ok_iff.1 h
    rw [Predicate.wordings] at own
    exact clause_amongTest negated values (phrase_left left own scope)
  | .isNull c negated, s, f, h, own, scope => by
    obtain ⟨l, left, rfl⟩ := Predicate.render_isNull_eq_ok_iff.1 h
    rw [Predicate.wordings] at own
    have word : Phrase d admits (negation negated) := .plain (by cases negated <;> decide)
    exact .single ((((phrase_left left own scope).append (.word rfl rfl)).append word).append
      (.word rfl rfl))
  | .isEmpty c negated, s, f, h, own, scope => by
    obtain ⟨l, left, rfl⟩ := Predicate.render_isEmpty_eq_ok_iff.1 h
    rw [Predicate.wordings] at own
    exact .single (phrase_emptyTest negated (phrase_left left own scope))
  | .between c low high, s, f, h, own, scope => by
    obtain ⟨l, left, written⟩ := Predicate.render_between_eq_ok_iff.1 h
    rw [Predicate.wordings] at own
    exact clause_betweenTest written (phrase_left left own scope)
  | .hasRows negated q, s, f, h, own, scope => by
    obtain ⟨inner, body, entered, written, rfl⟩ := Predicate.render_hasRows_eq_ok_iff.1 h
    rw [Predicate.wordings] at own
    have bodyClause := Query.clause_render q written own (Scope.admits_of_inside entered own scope)
      SelectOptions.standard_arePhrases
    have word : Phrase d admits (negation negated) := .plain (by cases negated <;> decide)
    exact bodyClause.enclosed (negation negated ++ "EXISTS ") "" (word.append (.word rfl rfl))
      .empty rfl (by simp) (by simp)

theorem Predicate.clause_renderAll : ∀ (ps : List Predicate) {s : Scope} {fs : List Fragment},
    Predicate.renderAll d s ps = .ok fs → (∀ w ∈ Predicate.allWordings ps, admits w) →
      (∀ w ∈ s.wordings, admits w) → ∀ f ∈ fs, Clause d admits f
  | [], s, fs, h, _, _ => by
    cases h
    exact List.forall_mem_nil _
  | p :: ps, s, fs, h, own, scope => by
    obtain ⟨first, rest, hf, hr, rfl⟩ := Predicate.renderAll_cons_eq_ok_iff.1 h
    simp only [Predicate.allWordings, List.mem_append] at own
    intro f member
    rcases List.mem_cons.1 member with rfl | member
    · exact Predicate.clause_render p hf (fun w mentioned => own w (.inl mentioned)) scope
    · exact Predicate.clause_renderAll ps hr (fun w mentioned => own w (.inr mentioned)) scope f
        member
end

end EntitySql
