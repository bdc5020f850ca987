import EntitySql.Catalog.Samples
import EntitySql.Conformance.Trial
import EntitySql.Query.AliasPool

/-!
# Trials of queries

Groups of tests, aliases of a table joined to itself, parameters of nested queries, and the way of
an entity from a driver row to an insertion.
-/

namespace EntitySql.Conformance

set_option autoImplicit false

/-- The column compares in a way with the value. -/
def test (c : Column) (comparison : Comparison) (v : Value) : Predicate :=
  .compare c comparison (.value v)

/-- A predicate that must hold with those before it. -/
def also (p : Predicate) : Node := .predicate .and p

/-- The user lives in a city. -/
def livesIn (city : String) : Predicate := test (.ofName "city") .equal (varchar city)

/-- Adults who live in one of two cities. -/
def adults (pool : Nat) (user : EntitySchema) : Query :=
  { Query.ofSchema pool user with
    filter :=
      [also (test (.ofName "age") .more (int32 18)), .group .andOr [livesIn "NY", livesIn "LA"]] }

/-- A column in ascending order. -/
def ascending (name : String) : Ordered := ⟨.ofName name, .ascending⟩

/-- The schema of users. -/
def userSchema : Except Error EntitySchema := Catalog.user.toEntity.schema

/-- The schema of orders. -/
def orderSchema : Except Error EntitySchema := Catalog.order.toEntity.schema

/-- A group stands in brackets, and compiling twice gives one statement. -/
def groupTrial (d : Dialect) : Trial Unit := do
  let user ← require userSchema
  let q := (adults 0 user).addOrderBy [ascending "name"]
  let s ← select d q (some ⟨20, 10⟩)
  ensure "the parameters of the tests come first"
    (Value.allEqual ((values s).take 3) [int32 18, varchar "NY", varchar "LA"])
  ensure "there is one OR" (occurrences " OR " s.sql == 1)
  ensure "the group is in brackets" (occurs " AND (" s.sql)
  let again ← select d q (some ⟨20, 10⟩)
  ensure "compiling is deterministic" (sameStatement s again)

/-- A table joined to itself has two aliases. -/
def selfJoinTrial (d : Dialect) : Trial Unit := do
  let user ← require userSchema
  let (a, pool) ← require (AliasPool.empty.entityTable user none)
  let (b, _) ← require (pool.entityTable user none)
  ensure "aliases are numbered" (a.aliasName == "u0" && b.aliasName == "u1")
  let q := (((Query.empty 0).selectFrom a).select [b.column "name"]).join .inner b
    [also (.compare (a.column "id") .equal (.column (b.column "id")))]
  let s ← select d q none
  ensure "the join is on the aliases"
    (occurs "FROM USERS u0 INNER JOIN USERS u1 ON u0.ID = u1.ID" s.sql)
  ensure "there are no parameters" s.parameters.isEmpty

/-- Parameters of a nested query stand between those around it, and take the kind of their
column. -/
def nestedTrial (d : Dialect) : Trial Unit := do
  let user ← require userSchema
  let order ← require orderSchema
  let (u, pool) ← require (AliasPool.empty.entityTable user none)
  let (o, _) ← require (pool.entityTable order none)
  ensure "the nested query has an alias of its own" (o.aliasName == "o0")
  let orders : Query := { ((Query.empty 0).selectFrom o).select [.ofLiteral (int32 1)] with
    filter :=
      [also (.compare (o.column "user_id") .equal (.column (u.column "id"))),
        also (test (o.column "total") .more (int32 100))] }
  let q : Query := { (Query.empty 0).selectFrom u with
    filter :=
      [also (test (u.column "city") .equal (varchar "NY")), also (.hasRows false orders),
        also (test (u.column "age") .more (int32 30))] }
  let s ← select d q none
  ensure "the parameters are in the order of the text"
    (Value.allEqual (values s) [varchar "NY", int32 100, int32 30])
  ensure "the parameter takes the kind of the column"
    (((s.parameters.drop 1).head?.map Pair.kind).any (Value.equals (.decimal none 10 2)))

/-- A driver row becomes a user, whose row can be inserted. -/
def entityTrial (d : Dialect) : Trial Unit := do
  let user ← require userSchema
  let raw := RawRow.ofValues ["id", "Name", "AGE", "city"]
    [int64 1, varchar "Ada", sample (.int .int16) "36", .varchar none]
  let row ← require (← note .hydrateRow .row (hydrateRow user raw))
  let record ← require (Catalog.user.ofRow row)
  let full := Catalog.user.toRow record
  ensure "the record has the values of the row"
    (Value.allEqual full.values [int64 1, varchar "Ada", int32 36, .varchar none])
  let s ← insert d user full
  ensure "every column is inserted" (s.parameters.length == 4)
  ensure "an absent value is inserted as null"
    (((values s).drop 3).head?.any (Value.equals (.varchar none)))

/-- The trials of queries. -/
def queryTrials (d : Dialect) : Trial Unit := do
  groupTrial d
  selfJoinTrial d
  nestedTrial d
  entityTrial d

end EntitySql.Conformance
