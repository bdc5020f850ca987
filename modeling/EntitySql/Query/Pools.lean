import EntitySql.Query.AliasPool

/-!
# Pools of several queries

Queries know their alias pool by number. The pools are numbered in the order they are opened;
queries that share a number share a pool.
-/

namespace EntitySql

set_option autoImplicit false

/-- All alias pools, by number. -/
structure AliasPools where
  pools : List AliasPool

namespace AliasPools

/-- No pool is open. -/
def empty : AliasPools := ⟨[]⟩

/-- The number of the next pool. -/
def next (ps : AliasPools) : Nat := ps.pools.length

/-- Opens a pool. -/
def opened (ps : AliasPools) : AliasPools := ⟨ps.pools ++ [.empty]⟩

/-- The pool of a query. -/
def poolOf (ps : AliasPools) (q : Query) : AliasPool := ps.pools[q.pool]?.getD .empty

/-- The pools with the pool of a query replaced. -/
def withPoolOf (ps : AliasPools) (q : Query) (p : AliasPool) : AliasPools :=
  ⟨ps.pools.set q.pool p⟩

end AliasPools

end EntitySql
