import EntitySql.Proofs.Condition.Pruning
import EntitySql.Sql.Paging
import Mathlib.Data.List.Dedup

/-!
# Runs of queries

A run of a query groups the rows that satisfy its condition: by their values where it has columns to
group by, all together where only a condition on groups or an aggregate asks for groups, and each
row alone otherwise. It makes one row of each group that passes the condition on groups.

**Order.** A clause of order compares groups, or the rows of a distinct query. Rows that it does not
tell apart stay as they were, and the order that is none tells no rows apart
(`OrderedRun.result_anyOrder`).

**Numbers.** A row made of one numbered row has the number of that row. What number is shown beside
an aggregate is left to the run.
-/

namespace EntitySql

set_option autoImplicit false

/-! ## Rows of a query -/

/-- A run of a query against some data. -/
structure SelectRun (σ κ ρ : Type) where
  /-- The rows of the tables, joined. -/
  source : List σ
  /-- The condition. -/
  holds : σ → Bool
  /-- The values of the columns to group by. -/
  key : σ → κ
  /-- The condition on groups. -/
  passes : List σ → Bool
  /-- An aggregate is selected. -/
  aggregates : Bool
  /-- The row made of a group. -/
  project : List σ → ρ

/-- The condition on groups is written. -/
def Query.testsGroups (q : Query) : Bool := !(Condition.pruned q.having).isEmpty

namespace SelectRun

variable {σ κ ρ ρ' : Type}

/-- The rows that satisfy the condition. -/
def kept (e : SelectRun σ κ ρ) : List σ := e.source.filter e.holds

/-- Other rows made of the same groups. -/
def reselect (e : SelectRun σ κ ρ) (aggregates : Bool) (project : List σ → ρ') :
    SelectRun σ κ ρ' :=
  ⟨e.source, e.holds, e.key, e.passes, aggregates, project⟩

variable [DecidableEq κ]

/-- The groups of rows: by their keys, all in one, or each alone. -/
def groups (e : SelectRun σ κ ρ) (q : Query) : List (List σ) :=
  if q.groupBy ≠ [] then
    (e.kept.map e.key).dedup.map fun k => e.kept.filter fun a => e.key a = k
  else if q.testsGroups || e.aggregates then [e.kept]
  else e.kept.map fun a => [a]

/-- The groups of rows that pass. -/
def passing (e : SelectRun σ κ ρ) (q : Query) : List (List σ) :=
  (e.groups q).filter fun g => !q.testsGroups || e.passes g

variable [DecidableEq ρ]

/-- The rows of a query. -/
def rows (e : SelectRun σ κ ρ) (q : Query) : List ρ :=
  if q.distinct then ((e.passing q).map e.project).dedup else (e.passing q).map e.project

end SelectRun

/-! ## Rows in an order -/

/-- A run with the meaning of clauses of order and of the numbers of rows. -/
structure OrderedRun (σ κ ρ : Type) extends SelectRun σ κ ρ where
  /-- By a clause, a group may stand before another. -/
  before : String → List σ → List σ → Bool
  /-- By a clause, a row of a distinct query may stand before another. -/
  beforeRow : String → ρ → ρ → Bool
  /-- The number beside a row, from the numbers of the rows it is made of. -/
  number : List Nat → Nat
  before_anyOrder : ∀ g h, before Query.anyOrder g h = true
  beforeRow_anyOrder : ∀ a b, beforeRow Query.anyOrder a b = true
  number_singleton : ∀ n, number [n] = n

namespace OrderedRun

variable {σ κ ρ : Type} [DecidableEq κ] [DecidableEq ρ] {e : OrderedRun σ κ ρ} {q : Query}

/-- The rows made of the groups that pass, sorted by a clause. -/
def sortedGroups (e : OrderedRun σ κ ρ) (q : Query) (clause : String) : List ρ :=
  ((e.passing q).mergeSort (e.before clause)).map e.project

/-- The rows of a query, sorted by a clause. -/
def sortedRows (e : OrderedRun σ κ ρ) (q : Query) (clause : String) : List ρ :=
  (e.rows q).mergeSort (e.beforeRow clause)

/-- The rows of a query in its order, if it has one. A distinct query sorts the rows that it keeps,
any other one the groups they are made of. -/
def result (e : OrderedRun σ κ ρ) (q : Query) : Option String → List ρ
  | none => e.rows q
  | some clause => if q.distinct then e.sortedRows q clause else e.sortedGroups q clause

theorem sortedGroups_anyOrder (plain : q.distinct = false) :
    e.sortedGroups q Query.anyOrder = e.rows q := by
  have tied : (e.passing q).Pairwise fun g h => e.before Query.anyOrder g h = true :=
    List.pairwise_of_forall e.before_anyOrder
  rw [sortedGroups, List.mergeSort_of_pairwise tied, SelectRun.rows, plain,
    if_neg Bool.false_ne_true]

theorem sortedRows_anyOrder : e.sortedRows q Query.anyOrder = e.rows q :=
  List.mergeSort_of_pairwise (List.pairwise_of_forall e.beforeRow_anyOrder)

/-- **The order that is none** leaves the rows as they are. -/
theorem result_anyOrder : e.result q (some Query.anyOrder) = e.result q none := by
  cases distinct : q.distinct with
  | true => simp only [result, distinct, if_true, sortedRows_anyOrder]
  | false =>
    simp only [result, distinct, Bool.false_eq_true, if_false, sortedGroups_anyOrder distinct]

end OrderedRun

end EntitySql
