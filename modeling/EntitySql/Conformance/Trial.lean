import EntitySql.Marshal.Bind
import EntitySql.Marshal.Hydrate
import EntitySql.Sql.Statement

/-!
# Trials of a dialect

A trial calls operations of a dialect and states what must hold of their outcomes. It notes every
call with its outcome in order, and stops at the first statement that does not hold, or at a
failure that it does not expect.
-/

namespace EntitySql.Conformance

set_option autoImplicit false

/-- The operations that trials call. -/
inductive Operation where
  | select
  | count
  | insert
  | bind
  | decode
  | hydrateRow
  | hydrateMap
  | hydrateScalar
  deriving DecidableEq, Repr

/-- The name of the operation. -/
def Operation.name : Operation → String
  | select => "compile_select"
  | count => "compile_count"
  | insert => "compile_insert"
  | bind => "bind"
  | decode => "decode"
  | hydrateRow => "hydrate_row"
  | hydrateMap => "hydrate_map"
  | hydrateScalar => "hydrate_scalar"

/-- What an operation gives. -/
inductive Outcome where
  | statement (s : Statement)
  | driverValue (v : DriverValue)
  | value (v : Value)
  | row (r : Row)
  | map (m : RowMap)

/-- A call and its outcome. -/
structure Exchange where
  operation : Operation
  outcome : Except Error Outcome

/-- Why a trial stops. -/
inductive Stop where
  /-- What was stated does not hold. -/
  | broken (statement : String)
  | failed (error : Error)

/-- A course of calls, with those made so far. -/
abbrev Trial := StateT (List Exchange) (Except Stop)

/-- Notes a call. -/
def note {α : Type} (operation : Operation) (outcome : α → Outcome) (result : Except Error α) :
    Trial (Except Error α) := do
  modify fun exchanges => exchanges ++ [⟨operation, result.map outcome⟩]
  return result

/-- The result, which must not be a failure. -/
def require {α : Type} : Except Error α → Trial α
  | .ok a => pure a
  | .error e => throw (.failed e)

/-- States what must hold. -/
def ensure (statement : String) (holds : Bool) : Trial Unit :=
  if holds then pure () else throw (.broken statement)

/-! ## Calls -/

/-- Compiles a query, or a window of its rows. -/
def select (d : Dialect) (q : Query) (window : Option PageWindow) : Trial Statement := do
  require (← note .select .statement (q.compile d window))

/-- Compiles the count of the rows of a query. -/
def count (d : Dialect) (q : Query) : Trial Statement := do
  require (← note .count .statement (q.compileCount d))

/-- Compiles the insertion of a row. -/
def insert (d : Dialect) (s : EntitySchema) (r : Row) : Trial Statement := do
  require (← note .insert .statement (s.compileInsert d r))

/-- Binds a parameter. -/
def bindPair (d : Dialect) (p : Pair) : Trial DriverValue := do
  require (← note .bind .driverValue (bind d p))

/-- Decodes a value under a column. -/
def decodeColumn (raw : DriverValue) (c : ColumnDef) : Trial Value := do
  require (← note .decode .value (decode raw c))

/-! ## Statements about outcomes -/

/-- The values of the parameters of a statement. -/
def values (s : Statement) : List Value := s.parameters.map Pair.value

/-- How often a part occurs in a text. -/
def occurrences (part text : String) : Nat := (text.splitOn part).length - 1

/-- A part occurs in a text. -/
def occurs (part text : String) : Bool := 0 < occurrences part text

/-- The statements have one text and equal parameters. -/
def sameStatement (s t : Statement) : Bool :=
  s.sql == t.sql && Value.allEqual (values s) (values t)

/-! ## Values -/

/-- The value of a type that a text stands for. -/
def sample (p : Primitive) (text : String) : Value :=
  match p.parse text with
  | .ok x => p.toValue x
  | .error _ => p.empty

def int32 (n : Int) : Value := .int .int32 (FixedInt.ofInt? .int32 n)

def int64 (n : Int) : Value := .int .int64 (FixedInt.ofInt? .int64 n)

def varchar (s : String) : Value := .varchar (some s)

end EntitySql.Conformance
