/-!
# SQL dialects

The library writes SQL for five database systems and in a generic form. What differs between them
is spread over the modules that write it; here are their names and the ways they page.
-/

namespace EntitySql

set_option autoImplicit false

/-- A dialect of SQL. -/
inductive Dialect where
  | generic
  | mysql
  | postgres
  | h2
  | sqlServer
  | oracle
deriving DecidableEq, Repr

/-- How a dialect restricts a query to a window of its rows. -/
inductive Pagination where
  /-- The clauses `LIMIT` and `OFFSET`. -/
  | limitOffset
  /-- Rows numbered by a window function in a derived table. -/
  | rowNumber
  /-- The pseudo column `ROWNUM`. -/
  | pseudoRowNumber
deriving DecidableEq, Repr

namespace Pagination

/-- The name of the algorithm. -/
def name : Pagination → String
  | limitOffset => "LimitOffset"
  | rowNumber => "RowNumber"
  | pseudoRowNumber => "PseudoRowNumber"

end Pagination

namespace Dialect

/-- All dialects. -/
def all : List Dialect := [generic, mysql, postgres, h2, sqlServer, oracle]

/-- The name of the dialect. -/
def name : Dialect → String
  | generic => "generic"
  | mysql => "mysql"
  | postgres => "postgres"
  | h2 => "h2"
  | sqlServer => "sqlserver"
  | oracle => "oracle"

/-- The paging algorithm of the dialect. -/
def pagination : Dialect → Pagination
  | sqlServer => .rowNumber
  | oracle => .pseudoRowNumber
  | _ => .limitOffset

end Dialect

end EntitySql
