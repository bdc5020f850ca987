import EntitySql.Proofs.Sql.Qualifiers

/-!
# Trees of queries

A query stands in another one as the source of a table, from which it is selected or which is
joined to it, or in a test for rows in one of its conditions. So queries form a tree
(`Query.queries`). A path leads from the query at the root inwards and is written with its last
query first, as the tables of the enclosing queries are, the nearest first (`Query.Descends`).

What holds of a query when it holds of the queries in it, holds of every query
(`Query.tree_induction`).
-/

namespace EntitySql

set_option autoImplicit false

/-! ## The queries of a query -/

/-- The query that a table stands for. -/
def Table.queries (t : Table) : List Query :=
  match t.source with
  | .subQuery q => [q]
  | _ => []

/-- The query that is tested for rows. -/
def Predicate.queries : Predicate → List Query
  | .hasRows _ q => [q]
  | _ => []

/-- The queries that a condition tests for rows. -/
def Condition.queries (c : Condition) : List Query :=
  (Node.allPredicates c).flatMap Predicate.queries

/-- The queries of a joined table and of its condition. -/
def Join.queries (j : Join) : List Query := j.table.queries ++ Condition.queries j.on

namespace Query

/-- The queries that stand in a query, without those that stand in them. -/
def queries (q : Query) : List Query :=
  q.table.toList.flatMap Table.queries ++ q.joins.flatMap Join.queries ++
    Condition.queries q.filter ++ Condition.queries q.having

/-- The queries on a way from the root inwards, the last one first. -/
inductive Descends (root : Query) : List Query → Prop where
  | root : Descends root [root]
  | inner {p c : Query} {path : List Query} : Descends root (p :: path) → c ∈ p.queries →
      Descends root (c :: p :: path)

end Query

/-! ## Induction over the tree -/

section Induction

variable {P : Query → Prop}

mutual
/-- **What holds of a query when it holds of the queries in it,** holds of every query. -/
theorem Query.tree_induction (step : ∀ q : Query, (∀ c ∈ q.queries, P c) → P q) : ∀ q, P q
  | ⟨table, joins, columns, distinct, filter, groupBy, having, orderBy, endOfDay, shape, pool⟩ => by
    refine step _ fun c member => ?_
    simp only [Query.queries, List.mem_append] at member
    rcases member with ((source | joined) | tested) | tested
    · cases table with
      | none => cases source
      | some t =>
        simp only [Option.toList_some, List.flatMap_cons, List.flatMap_nil,
          List.append_nil] at source
        exact Table.tree_induction step t c source
    · exact Join.tree_induction step joins c joined
    · exact Node.tree_inductionAll step filter c tested
    · exact Node.tree_inductionAll step having c tested

theorem Table.tree_induction (step : ∀ q : Query, (∀ c ∈ q.queries, P c) → P q) :
    ∀ t : Table, ∀ c ∈ t.queries, P c
  | ⟨_, source⟩ => TableSource.tree_induction step source

theorem TableSource.tree_induction (step : ∀ q : Query, (∀ c ∈ q.queries, P c) → P q) :
    ∀ t : TableSource, ∀ c ∈ Table.queries ⟨"", t⟩, P c
  | .entity _ => List.forall_mem_nil _
  | .named _ => List.forall_mem_nil _
  | .subQuery q => List.forall_mem_singleton.2 (Query.tree_induction step q)

theorem Join.tree_induction (step : ∀ q : Query, (∀ c ∈ q.queries, P c) → P q) :
    ∀ joins : List Join, ∀ c ∈ joins.flatMap Join.queries, P c
  | [] => List.forall_mem_nil _
  | ⟨_, table, on⟩ :: joins => by
    intro c member
    simp only [List.flatMap_cons, Join.queries, List.mem_append] at member
    rcases member with (source | tested) | later
    · exact Table.tree_induction step table c source
    · exact Node.tree_inductionAll step on c tested
    · exact Join.tree_induction step joins c later

theorem Node.tree_induction (step : ∀ q : Query, (∀ c ∈ q.queries, P c) → P q) :
    ∀ n : Node, ∀ c ∈ n.predicates.flatMap Predicate.queries, P c
  | .predicate _ p => by
    rw [Node.predicates, List.flatMap_singleton]
    exact Predicate.tree_induction step p
  | .nested _ nodes => by
    rw [Node.predicates]
    exact Node.tree_inductionAll step nodes
  | .group _ members => by
    rw [Node.predicates]
    exact Predicate.tree_inductionAll step members

theorem Node.tree_inductionAll (step : ∀ q : Query, (∀ c ∈ q.queries, P c) → P q) :
    ∀ nodes : List Node, ∀ c ∈ Condition.queries nodes, P c
  | [] => List.forall_mem_nil _
  | n :: ns => by
    intro c member
    rw [Condition.queries, Node.allPredicates, List.flatMap_append, List.mem_append] at member
    rcases member with here | later
    · exact Node.tree_induction step n c here
    · exact Node.tree_inductionAll step ns c later

theorem Predicate.tree_induction (step : ∀ q : Query, (∀ c ∈ q.queries, P c) → P q) :
    ∀ p : Predicate, ∀ c ∈ p.queries, P c
  | .hasRows _ q => List.forall_mem_singleton.2 (Query.tree_induction step q)
  | .compare .. | .like .. | .among .. | .isNull .. | .isEmpty .. | .between .. =>
    List.forall_mem_nil _

theorem Predicate.tree_inductionAll (step : ∀ q : Query, (∀ c ∈ q.queries, P c) → P q) :
    ∀ members : List Predicate, ∀ c ∈ members.flatMap Predicate.queries, P c
  | [] => List.forall_mem_nil _
  | p :: ps => by
    intro c member
    rw [List.flatMap_cons, List.mem_append] at member
    rcases member with here | later
    · exact Predicate.tree_induction step p c here
    · exact Predicate.tree_inductionAll step ps c later
end

end Induction

end EntitySql
