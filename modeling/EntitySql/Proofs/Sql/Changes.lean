import EntitySql.Proofs.Condition.Pruning
import EntitySql.Proofs.Schema.Names
import EntitySql.Proofs.Sql.Operation

/-!
# Rows that satisfy a condition

Updates and deletions under a condition are written alike: a head, the keyword `WHERE` and the
condition (`Change.compile_eq_ok_iff`). They refuse a condition without nodes. A condition whose
nodes are all dropped or empty has nodes and is not refused; it is written as nothing, so the
statement ends with the keyword (`Change.compile_where`).

The rows of a schema that satisfy a condition are selected by a query of its table. Its text has
the keyword only if something follows it (`EntitySchema.sql_selected`).
-/

namespace EntitySql

set_option autoImplicit false

open Outcome

/-- What is done to the rows that satisfy a condition. -/
inductive Change where
  | update (assignments : List (String × Value))
  | delete

namespace Change

variable {d : Dialect} {schema : EntitySchema} {filter : Condition} {k : Change}

/-- The change as an operation. -/
def operation (schema : EntitySchema) (filter : Condition) : Change → Operation
  | update assignments => .update schema assignments filter
  | delete => .delete schema filter

/-- The statement of a dialect for the change. -/
def compile (d : Dialect) (schema : EntitySchema) (filter : Condition) (k : Change) :
    Except Error Statement :=
  (k.operation schema filter).compile d

/-- The statement up to its condition. -/
def head (d : Dialect) (schema : EntitySchema) : Change → Except Error Fragment
  | update assignments => EntitySchema.updateHead d schema assignments
  | delete => .ok (EntitySchema.deleteHead d schema)

/-- The fault of a change without condition. -/
def withoutCondition : Change → ModelFault
  | update _ => .updateWithoutCondition
  | delete => .deleteWithoutCondition

theorem compile_nil (k : Change) :
    k.compile d schema [] = .error (.model k.withoutCondition) := by
  cases k <;> rfl

theorem compile_of_ne_nil (some : filter ≠ []) :
    k.compile d schema filter = do
      let head ← k.head d schema
      let condition ← Condition.render d (.ofSchema schema) filter
      return .change d (head ++ .text " WHERE " :: condition) := by
  have nodes : filter.isEmpty = false := List.isEmpty_eq_false_iff.2 some
  cases k with
  | update assignments =>
    simp only [compile, operation, Operation.compile, EntitySchema.compileUpdate, nodes]
    rfl
  | delete =>
    simp only [compile, operation, Operation.compile, EntitySchema.compileDelete, nodes]
    rfl

/-- **A change is its head, the keyword and its condition,** which must have a node. -/
theorem compile_eq_ok_iff {st : Statement} :
    k.compile d schema filter = .ok st ↔
      filter ≠ [] ∧ ∃ head condition, k.head d schema = .ok head ∧
        Condition.render d (.ofSchema schema) filter = .ok condition ∧
        st = .change d (head ++ .text " WHERE " :: condition) := by
  by_cases some : filter = []
  · rw [some, compile_nil]
    exact ⟨nofun, fun h => absurd rfl h.1⟩
  · rw [compile_of_ne_nil some]
    simp only [bind_eq_ok, pure_eq_ok]
    constructor
    · rintro ⟨head, begun, condition, written, rfl⟩
      exact ⟨some, head, condition, begun, written, rfl⟩
    · rintro ⟨_, head, condition, begun, written, rfl⟩
      exact ⟨head, begun, condition, written, rfl⟩

/-- The text of a change; its condition goes on counting where the head ended. -/
theorem sql_change (head condition : Fragment) :
    (Statement.change d (head ++ .text " WHERE " :: condition)).sql =
      head.sql d ++ " WHERE " ++ condition.sqlFrom d head.parameters.length := by
  rw [Statement.sql, Statement.change, Fragment.sql, Fragment.sqlFrom_append, Nat.zero_add,
    Fragment.sqlFrom_text, ← String.append_assoc, Fragment.sql]

theorem parameters_change (head condition : Fragment) :
    (Statement.change d (head ++ .text " WHERE " :: condition)).parameters =
      head.parameters ++ condition.parameters :=
  Fragment.parameters_append head _

end Change

/-- A condition is written as nothing when nothing is left of it. -/
theorem Condition.sqlFrom_eq_empty_iff {d : Dialect} {s : Scope} {c : Condition} {f : Fragment}
    (h : Condition.render d s c = .ok f) (n : Nat) : f.sqlFrom d n = "" ↔ c.pruned = [] := by
  obtain ⟨fs, written, rfl⟩ := Condition.render_eq_ok_iff.1 h
  obtain ⟨gs, again, _, exceeds⟩ := Node.renderAll_pruneAll c written
  have pruned : Condition.render d s c.pruned = .ok (Fragment.chained gs) :=
    Condition.render_eq_ok_iff.2 ⟨gs, again, rfl⟩
  rw [← Condition.pruned_eq_nil_iff pruned n, Fragment.sqlFrom_eq_empty_iff,
    Fragment.sqlFrom_eq_empty_iff, Fragment.chained, (exceeds false).writes, Fragment.chained]

/-- **A change is refused for its condition only when that has no nodes.** Otherwise it is written
when its head and its condition are, and what follows the keyword is the condition. Nothing follows
it exactly when nothing is left of the condition without its dropped predicates and the groups and
nested conditions that are empty then. -/
theorem Change.compile_where {d : Dialect} {schema : EntitySchema} {filter : Condition}
    (k : Change) :
    (filter = [] → k.compile d schema filter = .error (.model k.withoutCondition)) ∧
      ((∃ st, k.compile d schema filter = .ok st) ↔
        filter ≠ [] ∧ (∃ head, k.head d schema = .ok head) ∧
          ∃ condition, Condition.render d (.ofSchema schema) filter = .ok condition) ∧
      ∀ st, k.compile d schema filter = .ok st →
        ∃ head condition, k.head d schema = .ok head ∧
          Condition.render d (.ofSchema schema) filter = .ok condition ∧
          st.sql = head.sql d ++ " WHERE " ++ condition.sqlFrom d head.parameters.length ∧
          st.parameters = head.parameters ++ condition.parameters ∧
          (st.sql = head.sql d ++ " WHERE " ↔ filter.pruned = []) := by
  refine ⟨?_, ⟨?_, ?_⟩, ?_⟩
  · rintro rfl
    exact compile_nil k
  · rintro ⟨st, compiled⟩
    obtain ⟨some, head, condition, begun, written, _⟩ := compile_eq_ok_iff.1 compiled
    exact ⟨some, ⟨head, begun⟩, condition, written⟩
  · rintro ⟨some, ⟨head, begun⟩, condition, written⟩
    exact ⟨_, compile_eq_ok_iff.2 ⟨some, head, condition, begun, written, rfl⟩⟩
  · intro st compiled
    obtain ⟨_, head, condition, begun, written, rfl⟩ := compile_eq_ok_iff.1 compiled
    refine ⟨head, condition, begun, written, sql_change head condition,
      parameters_change head condition, ?_⟩
    rw [sql_change, String.append_eq_left_iff,
      Condition.sqlFrom_eq_empty_iff written]

/-- Under a range without bounds an update and a deletion end with the keyword. -/
theorem Change.compile_where_openRange :
    ∃ updated deleted,
      (Change.update [("NAME", .varchar (some "Ann"))]).compile .generic personSample
          [.predicate .and (openRange "ID")] = .ok updated ∧
        updated.sql = "UPDATE PERSON SET NAME = ? WHERE " ∧
      Change.delete.compile .generic personSample [.predicate .and (openRange "ID")] =
          .ok deleted ∧
        deleted.sql = "DELETE FROM PERSON WHERE " := by
  refine ⟨_, _, rfl, ?_, rfl, ?_⟩ <;> decide +kernel

/-! ## Selections -/

/-- The table of a schema in the scope of a query that stands alone. -/
def Scope.ofSelection (schema : EntitySchema) : Scope :=
  { Scope.ofSchema schema with qualify := true }

namespace EntitySchema

variable {d : Dialect} {schema : EntitySchema} {filter : Condition} {pool : Nat}

/-- The query for the rows of a schema that satisfy a condition. -/
def selection (schema : EntitySchema) (pool : Nat) (filter : Condition) : Query :=
  { Query.ofSchema pool schema with filter }

/-- A selection up to its condition. -/
def selectionHead (d : Dialect) (schema : EntitySchema) : Fragment :=
  [.text "SELECT ", .text "*", .text " FROM ", .text (schemaTableName d schema.table),
    .text (aliasSuffix "")]

/-- A selection written from its condition. -/
def selected (d : Dialect) (schema : EntitySchema) (condition : Fragment) : Statement :=
  ⟨d, selectionHead d schema ++ condition.after " WHERE ", .entity schema, []⟩

/-- **A selection is written when its condition is,** from the condition. -/
theorem compile_selection :
    (schema.selection pool filter).compile d none =
      (Condition.render d (.ofSelection schema) filter).map (schema.selected d) := by
  have compiled : (schema.selection pool filter).compile d none = do
      let body ← (schema.selection pool filter).render d (.ofSelection schema) .standard
      return ⟨d, body, .entity schema, []⟩ := rfl
  rw [compiled, Condition.render, selection, Query.ofSchema, Query.empty, Query.render]
  cases Node.renderAll d (.ofSelection schema) filter with
  | error e => rfl
  | ok nodes =>
    have clauses : whereClause (Fragment.chained nodes) none ++ [] ++
        (Fragment.chained []).after " HAVING " ++ [] =
          (Fragment.chained nodes).after " WHERE " := by
      rw [List.append_nil, List.append_nil]
      exact List.append_nil _
    have written : ∀ f : Fragment, (Fragment.chained nodes).after " WHERE " = f →
        (Except.ok ⟨d, selectionHead d schema ++ f, .entity schema, []⟩ : Except Error Statement) =
          .ok (schema.selected d (Fragment.chained nodes)) := by
      rintro _ rfl
      rfl
    exact written _ clauses.symm

/-- The text of a selection has a condition if that writes something. -/
theorem sql_selected (condition : Fragment) :
    (schema.selected d condition).sql =
      "SELECT * FROM " ++ schemaTableName d schema.table ++
        if condition.writesNothing then "" else " WHERE " ++ condition.sql d := by
  have joined : ∀ f : Fragment, (selectionHead d schema ++ f).sql d =
      "SELECT * FROM " ++ schemaTableName d schema.table ++ f.sql d := by
    intro f
    have suffix : aliasSuffix "" = "" := rfl
    simp only [Fragment.sql, selectionHead, List.cons_append, List.nil_append,
      Fragment.sqlFrom_text, suffix, String.empty_append, ← String.append_assoc]
    rfl
  rw [Statement.sql, selected, joined, Fragment.after]
  split <;> rfl

theorem parameters_selected (condition : Fragment) :
    (schema.selected d condition).parameters = condition.parameters :=
  Fragment.parameters_after " WHERE " condition

end EntitySchema

end EntitySql
