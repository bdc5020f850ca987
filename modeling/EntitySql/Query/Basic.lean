import EntitySql.Query.Column
import EntitySql.Schema.EntitySchema

/-!
# Queries

A query selects columns from a table and the tables joined to it, under a condition, grouped and
ordered. Tables may be queries again, and conditions may ask whether a query has rows, so queries,
tables, joins, conditions and predicates are defined together.

**Conditions** are sequences of nodes. A node is a predicate, a condition of its own or a group of
predicates; its composition says by which connective it follows the nodes before it and which
connective joins the members of a group.

**Aliases.** A query knows the number of the alias pool it takes aliases from; it shares the pool
with the queries nested in it.
-/

namespace EntitySql

set_option autoImplicit false

/-- A connective between truth values. -/
inductive Connective where
  | and
  | or
deriving DecidableEq, Repr

/-- How a node joins what is before it, and how the members of a group are joined. -/
inductive Composition where
  | and
  | or
  /-- Conjunction before the node, disjunction inside its group. -/
  | andOr
  /-- Disjunction before the node, conjunction inside its group. -/
  | orAnd
  /-- Disjunction before the node and inside its group. -/
  | orOr
deriving DecidableEq, Repr

namespace Composition

/-- The connective before the node. -/
def outer : Composition → Connective
  | and | andOr => .and
  | or | orAnd | orOr => .or

/-- The connective inside the group. -/
def inner : Composition → Connective
  | and | orAnd => .and
  | or | andOr | orOr => .or

end Composition

/-- A comparison of two operands. -/
inductive Comparison where
  | equal
  | notEqual
  | less
  | lessEqual
  | more
  | moreEqual
deriving DecidableEq, Repr

/-- The right side of a comparison. -/
inductive Operand where
  | value (v : Value)
  | column (c : Column)

namespace Operand

/-- The operands are of one form and equal. -/
def equals : Operand → Operand → Bool
  | value v, value w => v.equals w
  | column c, column d => c.equals d
  | _, _ => false

end Operand

/-- Where in a text a part is looked for. -/
inductive PatternPlace where
  | anywhere
  | start
  | finish
deriving DecidableEq, Repr

/-- What kind of join. -/
inductive JoinKind where
  | inner
  | left
  | right
  | full
deriving DecidableEq, Repr

/-- What the rows of a query become. -/
inductive Shape where
  | entity (schema : EntitySchema)
  | map
  | scalar

namespace Shape

/-- The shapes agree; entities by type and table. -/
def same : Shape → Shape → Bool
  | entity s, entity t => s.same t
  | map, map => true
  | scalar, scalar => true
  | _, _ => false

end Shape

mutual
/-- A query. -/
structure Query where
  /-- The table selected from. -/
  table : Option Table
  joins : List Join
  columns : List Column
  distinct : Bool
  filter : List Node
  groupBy : List Column
  having : List Node
  orderBy : List Ordered
  /-- Dates of `<` and `<=` comparisons stand for the end of their day. -/
  endOfDay : Bool
  shape : Shape
  /-- The number of the alias pool. -/
  pool : Nat

/-- A table under an alias, which is empty when there is none. -/
structure Table where
  aliasName : String
  source : TableSource

/-- What a table is. -/
inductive TableSource where
  | entity (schema : EntitySchema)
  | named (name : String)
  | subQuery (query : Query)

/-- A table joined to those before it. -/
structure Join where
  kind : JoinKind
  table : Table
  on : List Node

/-- A node of a condition. -/
inductive Node where
  | predicate (composition : Composition) (p : Predicate)
  | nested (composition : Composition) (nodes : List Node)
  | group (composition : Composition) (members : List Predicate)

/-- A single test. -/
inductive Predicate where
  | compare (column : Column) (comparison : Comparison) (operand : Operand)
  | like (column : Column) (place : PatternPlace) (negated : Bool) (part : Value)
  | among (column : Column) (negated : Bool) (values : List Value)
  | isNull (column : Column) (negated : Bool)
  | isEmpty (column : Column) (negated : Bool)
  | between (column : Column) (low high : Value)
  | hasRows (negated : Bool) (query : Query)
end

/-- A condition is a sequence of nodes; the empty one holds. -/
abbrev Condition := List Node

namespace Node

/-- The composition of the node. -/
def composition : Node → Composition
  | predicate c _ => c
  | nested c _ => c
  | group c _ => c

end Node

namespace Table

/-- The schema of an entity table. -/
def schema? (t : Table) : Option EntitySchema :=
  match t.source with
  | .entity s => some s
  | _ => none

/-- A column qualified with the alias of the table. -/
def column (t : Table) (name : String) : Column :=
  { Column.ofName name with qualifier := t.aliasName }

/-- The table of a schema without alias. -/
def ofSchema (s : EntitySchema) : Table := ⟨"", .entity s⟩

end Table

namespace Query

/-- The query of nothing. -/
def empty (pool : Nat) : Query := ⟨none, [], [], false, [], [], [], [], false, .map, pool⟩

/-- The query of an entity table without alias; its rows become entities. -/
def ofSchema (pool : Nat) (s : EntitySchema) : Query :=
  { empty pool with table := some (.ofSchema s), shape := .entity s }

/-- The query of a named table without alias. -/
def ofNamed (pool : Nat) (name : String) : Query :=
  { empty pool with table := some ⟨"", .named name⟩ }

/-- An empty query that shares the alias pool. -/
def nested (q : Query) : Query := empty q.pool

/-- The table selected from and the joined ones. -/
def tables (q : Query) : List Table := q.table.toList ++ q.joins.map Join.table

/-- There is a table and nothing is joined to it. -/
def isSingleTable (q : Query) : Bool := q.table.isSome && q.joins.isEmpty

/-- Selects from a table. The first entity table of a query of maps makes its rows entities. -/
def selectFrom (q : Query) (t : Table) : Query :=
  match q.shape, t.schema?, q.table, q.joins with
  | .map, some s, none, [] => { q with table := some t, shape := .entity s }
  | _, _, _, _ => { q with table := some t }

/-- Joins a table. -/
def join (q : Query) (kind : JoinKind) (t : Table) (on : Condition) : Query :=
  { q with joins := q.joins ++ [⟨kind, t, on⟩] }

/-- Adds columns to select. -/
def select (q : Query) (columns : List Column) : Query :=
  { q with columns := q.columns ++ columns }

/-- Adds columns to group by. -/
def addGroupBy (q : Query) (columns : List Column) : Query :=
  { q with groupBy := q.groupBy ++ columns }

/-- Adds terms to order by. -/
def addOrderBy (q : Query) (terms : List Ordered) : Query :=
  { q with orderBy := q.orderBy ++ terms }

end Query

/-! ## Equality -/

/-- Two lists agree member by member. -/
def sameList {α : Type} (same : α → α → Bool) : List α → List α → Bool
  | [], [] => true
  | a :: as, b :: bs => same a b && sameList same as bs
  | _, _ => false

mutual
/-- The queries are equal, whatever their alias pools. -/
def Query.same : Query → Query → Bool
  | ⟨table, joins, columns, distinct, filter, groupBy, having, orderBy, endOfDay, shape, _⟩, q =>
    Table.sameOption table q.table && Join.sameAll joins q.joins &&
      sameList Column.equals columns q.columns && distinct == q.distinct &&
      Node.sameAll filter q.filter && sameList Column.equals groupBy q.groupBy &&
      Node.sameAll having q.having && sameList Ordered.equals orderBy q.orderBy &&
      endOfDay == q.endOfDay && shape.same q.shape
  termination_by structural q => q

/-- The tables have one alias and equal sources. -/
def Table.same : Table → Table → Bool
  | ⟨aliasName, source⟩, t => aliasName == t.aliasName && TableSource.same source t.source
  termination_by structural t => t

/-- Both tables are absent, or they are equal. -/
def Table.sameOption : Option Table → Option Table → Bool
  | none, none => true
  | some t, some u => Table.same t u
  | _, _ => false
  termination_by structural t => t

/-- The sources are of one form and equal. -/
def TableSource.same : TableSource → TableSource → Bool
  | .entity s, .entity t => s.same t
  | .named m, .named n => m == n
  | .subQuery p, .subQuery q => Query.same p q
  | _, _ => false
  termination_by structural s => s

/-- The joins are equal. -/
def Join.same : Join → Join → Bool
  | ⟨kind, table, on⟩, j => kind == j.kind && Table.same table j.table && Node.sameAll on j.on
  termination_by structural j => j

/-- The joins are equal one by one. -/
def Join.sameAll : List Join → List Join → Bool
  | [], [] => true
  | i :: is, j :: js => Join.same i j && Join.sameAll is js
  | _, _ => false
  termination_by structural js => js

/-- The nodes are of one form and equal. -/
def Node.same : Node → Node → Bool
  | .predicate c p, .predicate d q => c == d && Predicate.same p q
  | .nested c ns, .nested d ms => c == d && Node.sameAll ns ms
  | .group c ps, .group d qs => c == d && Predicate.sameAll ps qs
  | _, _ => false
  termination_by structural n => n

/-- The nodes are equal one by one. -/
def Node.sameAll : List Node → List Node → Bool
  | [], [] => true
  | n :: ns, m :: ms => Node.same n m && Node.sameAll ns ms
  | _, _ => false
  termination_by structural ns => ns

/-- The predicates are of one form and equal. -/
def Predicate.same : Predicate → Predicate → Bool
  | .compare c k o, .compare c' k' o' => c.equals c' && k == k' && o.equals o'
  | .like c p n v, .like c' p' n' v' => c.equals c' && p == p' && n == n' && v.equals v'
  | .among c n vs, .among c' n' vs' => c.equals c' && n == n' && Value.allEqual vs vs'
  | .isNull c n, .isNull c' n' => c.equals c' && n == n'
  | .isEmpty c n, .isEmpty c' n' => c.equals c' && n == n'
  | .between c l h, .between c' l' h' => c.equals c' && l.equals l' && h.equals h'
  | .hasRows n q, .hasRows n' q' => n == n' && Query.same q q'
  | _, _ => false
  termination_by structural p => p

/-- The predicates are equal one by one. -/
def Predicate.sameAll : List Predicate → List Predicate → Bool
  | [], [] => true
  | p :: ps, q :: qs => Predicate.same p q && Predicate.sameAll ps qs
  | _, _ => false
  termination_by structural ps => ps
end

end EntitySql
