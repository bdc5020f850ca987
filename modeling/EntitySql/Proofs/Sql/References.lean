import EntitySql.Proofs.Sql.Visibility

/-!
# References of queries with joins

A reference without alias belongs to the only table of its query. Where tables are joined there is
no such table, so a reference must have an alias of its own, in whichever clause it stands and at
whatever depth of the query tree, also as a second operand or under a function. Then it is written
with that alias; a reference without one makes the query fail (`Query.compile_references`).

In a query on one table the alias of that table is used. It is the alias of no table around, so the
reference is not taken for one of an enclosing query.
-/

namespace EntitySql

set_option autoImplicit false

open Outcome

variable {d : Dialect} {p : Query} {outer : List Query} {c : Column}

/-! ## Qualifiers along a path -/

namespace Scope

/-- Where tables are joined, references have no default. -/
theorem qualifierOf_joined (outer : List Query) (joined : p.joins ≠ [])
    (named : c.isNamed = true) :
    (along (p :: outer)).qualifierOf c =
      if c.qualifier ≠ "" then .ok c.qualifier
      else .error (.model (.unqualifiedColumn c.name)) := by
  have several : (along (p :: outer)).defaultAlias? = none := by
    have single : p.isSingleTable = false := by
      rw [Query.isSingleTable, List.isEmpty_eq_false_iff.2 joined, Bool.and_false]
    simp [defaultAlias?, along, single]
  simp only [qualifierOf, several, Column.isReference_of_isNamed named,
    Column.isWildcard_of_isNamed named, Bool.not_true, Bool.or_self, Bool.false_eq_true, if_false]

/-- On one table, references without alias have that of the table. -/
theorem qualifierOf_single {t : Table} (table : p.table = some t) (single : p.joins = [])
    (bare : c.qualifier = "") : (along (p :: outer)).qualifierOf c = .ok t.aliasName := by
  have default : (along (p :: outer)).defaultAlias? = some t.aliasName := by
    simp [defaultAlias?, along, Query.isSingleTable, Query.tables, table, single, Table.visible]
  simp [qualifierOf, default, bare]

end Scope

namespace Column

/-- A reference is written after its qualifier. -/
theorem base_qualified (reference : c.isReference = true) {qualifier : String}
    (found : (Scope.along (p :: outer)).qualifierOf c = .ok qualifier) (given : qualifier ≠ "") :
    c.base d (Scope.along (p :: outer)) =
      .ok (qualifier ++ "." ++ c.target d (Scope.along (p :: outer)) qualifier) := by
  have qualify : ((Scope.along (p :: outer)).qualify && qualifier != "") = true := by
    simp [Scope.along, given]
  rw [base_of_isReference reference, found]
  show Except.ok (c.reference d _ qualifier) = _
  rw [reference_eq, qualify, if_pos rfl]

/-- **Among joined tables a column is written with its own alias,** or not at all. -/
theorem base_joined (d : Dialect) (outer : List Query) (joined : p.joins ≠ [])
    (named : c.isNamed = true) :
    c.base d (Scope.along (p :: outer)) =
      if c.qualifier ≠ "" then
        .ok (c.qualifier ++ "." ++ c.target d (Scope.along (p :: outer)) c.qualifier)
      else .error (.model (.unqualifiedColumn c.name)) := by
  have reference := isReference_of_isNamed named
  have qualifier := Scope.qualifierOf_joined outer joined named
  split
  · rename_i given
    rw [if_pos given] at qualifier
    exact base_qualified reference qualifier given
  · rename_i bare
    rw [if_neg bare] at qualifier
    rw [base_of_isReference reference, qualifier]
    rfl

end Column

namespace Query

/-- **A column that a query is written with has a step** among those of the tree. -/
theorem exists_step_of_rendered {root : Query} (h : Descends root (p :: outer))
    (member : c ∈ p.rendered) :
    ∃ shown, .column (p :: outer) c shown ∈ root.allSteps .standard := by
  obtain ⟨shown, own⟩ := exists_column_step (p :: outer) member
  refine ⟨shown, (steps_of_descends h).2 _ ?_⟩
  rw [ite_self]
  exact (mem_steps_iff p .standard).2 (.inl own)

/-- **Columns of joined tables carry their aliases.** If a query tree is compiled, the references
occur in the text in their order. Where tables are joined, each column is written with its own
alias; on one table with an alias, each reference without alias is written with that of the table,
which no table around has. If a column of joined tables has no alias, nothing is compiled, and the
error names the column if it is the first one met. -/
theorem compile_references (d : Dialect) (q : Query) :
    (∀ st, q.compile d none = .ok st →
      InOrder (Step.texts d (q.allSteps .standard)) st.sql ∧
      ∀ p outer, Descends q (p :: outer) → ∀ c ∈ p.rendered,
        (∃ shown, .column (p :: outer) c shown ∈ q.allSteps .standard) ∧
        (p.joins ≠ [] → c.isNamed = true →
          c.qualifier ≠ "" ∧
          c.base d (Scope.along (p :: outer)) =
            .ok (c.qualifier ++ "." ++ c.target d (Scope.along (p :: outer)) c.qualifier)) ∧
        ∀ t, p.table = some t → p.joins = [] → t.aliasName ≠ "" → c.isReference = true →
          c.qualifier = "" →
          c.base d (Scope.along (p :: outer)) =
            .ok (t.aliasName ++ "." ++ c.target d (Scope.along (p :: outer)) t.aliasName) ∧
          ∀ around ∈ outer, ∀ u ∈ around.tables, u.aliasName ≠ t.aliasName) ∧
    ∀ p outer, Descends q (p :: outer) → p.joins ≠ [] → ∀ c ∈ p.rendered,
      c.isNamed = true → c.qualifier = "" →
        (∃ e, q.compile d none = .error e) ∧
        ∀ before after shown,
          q.allSteps .standard = before ++ .column (p :: outer) c shown :: after →
          (∀ step ∈ before, step.outcome d = .ok ()) →
            q.compile d none = .error (.model (.unqualifiedColumn c.name)) := by
  have follows := follows_compile (d := d) q
  refine ⟨?_, ?_⟩
  · intro st compiled
    have each : ∀ step ∈ q.allSteps .standard, step.outcome d = .ok () := by
      refine Step.run_eq_ok_iff.1 ?_
      rw [← follows.outcome, compiled]
      rfl
    refine ⟨follows.shown st compiled, ?_⟩
    intro p outer h c member
    obtain ⟨shown, step⟩ := exists_step_of_rendered h member
    refine ⟨⟨shown, step⟩, ?_, ?_⟩
    · intro joined named
      obtain ⟨text, written, _⟩ := map_eq_ok.1 (each _ step)
      have base := Column.base_joined d outer joined named
      by_cases given : c.qualifier ≠ ""
      · rw [if_pos given] at base
        exact ⟨given, base⟩
      · rw [if_neg given, written] at base
        cases base
    · intro t table single given reference bare
      have own : t ∈ p.tables := by
        rw [tables, table, Option.toList_some]
        exact List.mem_append_left _ (List.mem_singleton.2 rfl)
      exact ⟨Column.base_qualified reference (Scope.qualifierOf_single table single bare) given,
        aliasName_ne_around (each _ (steps_of_descends h).1) own given⟩
  · intro p outer h joined c member named bare
    have failed : ∀ shown, (Step.column (p :: outer) c shown).outcome d =
        .error (.model (.unqualifiedColumn c.name)) := by
      intro shown
      have base := Column.base_joined d outer joined named
      rw [if_neg (not_not.2 bare)] at base
      exact map_eq_error.2 base
    refine ⟨?_, ?_⟩
    · cases result : q.compile d none with
      | error e => exact ⟨e, rfl⟩
      | ok st =>
        obtain ⟨shown, step⟩ := exists_step_of_rendered h member
        have run := follows.outcome
        rw [result] at run
        have succeeded := Step.run_eq_ok_iff.1 run.symm _ step
        rw [failed shown] at succeeded
        cases succeeded
    · intro before after shown same earlier
      have run := Step.run_eq_error_iff.2 ⟨before, _, after, same, earlier, failed shown⟩
      rw [← follows.outcome] at run
      exact map_eq_error.1 run

/-- Orders and their customers, under a condition. -/
def customersSample (filter : Condition) : Query :=
  { (empty 0).selectFrom ⟨"o", .named "ORDERS"⟩ |>.join .left ⟨"c", .named "CUSTOMERS"⟩
      [.predicate .and (.compare (Table.column ⟨"o", .named "ORDERS"⟩ "CUSTOMER_ID") .equal
        (.column (Table.column ⟨"c", .named "CUSTOMERS"⟩ "ID")))] with
    columns := [Table.column ⟨"o", .named "ORDERS"⟩ "ID",
      { Table.column ⟨"c", .named "CUSTOMERS"⟩ "NAME" with function := some "UPPER" }]
    filter }

/-- The items of the order; their column has no alias. -/
def itemsOfOrder : Query :=
  { (empty 0).selectFrom ⟨"i", .named "ITEMS"⟩ with
    filter := [.predicate .and (.compare (.ofName "ORDER_ID") .equal
      (.column (Table.column ⟨"o", .named "ORDERS"⟩ "ID")))] }

theorem compile_references_customersSample :
    (∃ st, (customersSample [.predicate .and (.hasRows false itemsOfOrder)]).compile .generic none =
        .ok st ∧
      st.sql = "SELECT o.ID, UPPER(c.NAME) FROM ORDERS o LEFT JOIN CUSTOMERS c " ++
        "ON o.CUSTOMER_ID = c.ID WHERE EXISTS (SELECT * FROM ITEMS i WHERE i.ORDER_ID = o.ID)" ∧
      InOrder ["o.ID", "c.NAME", "o.CUSTOMER_ID", "c.ID", "i.ORDER_ID", "o.ID"] st.sql) ∧
    ∃ e, (customersSample [.predicate .and (.isNull (.ofName "NAME") false)]).compile .generic
      none = .error e := by
  constructor
  · obtain ⟨written, _⟩ := compile_references .generic
      (customersSample [.predicate .and (.hasRows false itemsOfOrder)])
    exact ⟨_, rfl, by decide +kernel, (written _ rfl).1⟩
  · obtain ⟨_, fails⟩ := compile_references .generic
      (customersSample [.predicate .and (.isNull (.ofName "NAME") false)])
    exact (fails _ [] .root (List.cons_ne_nil _ _) (.ofName "NAME")
      (.tail _ (.tail _ (.tail _ (.tail _ (.head _))))) rfl rfl).1

end Query

end EntitySql
