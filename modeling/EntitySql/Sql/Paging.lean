import EntitySql.Query.Page
import EntitySql.Sql.Select

/-!
# Paging

A query restricted to a window, as each dialect does it.

**Limit and offset** follow the query as two parameters.

**Row numbers.** The rows are numbered by a window function in a derived table, in the order of
the query, and the window is taken from outside. A distinct query is wrapped first, as numbers
would make all its rows distinct; it is then numbered by its labels and names.

**Pseudo row numbers.** The pseudo column counts the rows as they are produced, before they are
ordered. An ordered query is therefore wrapped twice. An unordered one is bounded from inside: in
its own condition if it selects plain columns only, else from one level up.
-/

namespace EntitySql

set_option autoImplicit false

/-- A count as a bound value; the kind has no greater values than its greatest. -/
def countValue (n : UInt64) : Value := .int .int64 (some (.clamp .int64 (n.toNat : Int)))

namespace Query

/-- The query as it is. -/
def renderPlain (d : Dialect) (s : Scope) (q : Query) : Except Error Fragment :=
  q.render d s .standard

/-- The query followed by limit and offset. -/
def renderLimited (d : Dialect) (s : Scope) (q : Query) (w : PageWindow) :
    Except Error Fragment := do
  let f ← q.renderPlain d s
  return f ++ [.text " LIMIT ", .parameter (.ofValue (countValue w.size)),
    .text " OFFSET ", .parameter (.ofValue (countValue w.offset))]

/-- The order that is none. -/
def anyOrder : String := "ORDER BY (SELECT 0)"

/-- A term to order the rows of a derived table by: the label of the selected column that is the
same expression, or the unqualified expression. -/
def derivedTerm (d : Dialect) (s : Scope) (columns : List Column) (o : Ordered) :
    Except Error String :=
  match columns.find? fun c => c.label != "" && c.sameExpression o.column with
  | some c => .ok (d.identifier c.label ++ o.direction.word)
  | none => o.render d { s with qualify := false }

/-- The order in which rows are numbered. -/
def numberingOrder (d : Dialect) (s : Scope) (q : Query) : Except Error String :=
  if q.orderBy.isEmpty then .ok anyOrder
  else if q.distinct then
    (q.orderBy.mapM (derivedTerm d s (selected q.columns q.orderBy))).map fun terms =>
      "ORDER BY " ++ String.intercalate ", " terms
  else orderClause d s q.orderBy

/-- The query as a derived table of numbered rows. -/
def renderNumbered (d : Dialect) (s : Scope) (q : Query) : Except Error Fragment := do
  let order ← q.numberingOrder d s
  let number := "ROW_NUMBER() OVER(" ++ order ++ ") AS rn_"
  if q.distinct then
    let f ← q.render d s { SelectOptions.standard with unordered := true }
    return .text ("SELECT d_.*, " ++ number ++ " FROM (") :: (f ++ [.text ") d_"])
  else
    q.render d s { SelectOptions.standard with extraColumn := some number, unordered := true }

/-- The numbered rows of a window. -/
def renderRowNumber (d : Dialect) (s : Scope) (q : Query) (w : PageWindow) :
    Except Error Fragment := do
  let f ← q.renderNumbered d s
  return .text ("SELECT TOP " ++ toString w.size.toNat ++ " * FROM (") ::
    (f ++ [.text (") p_ WHERE rn_ > " ++ toString w.offset.toNat ++ " ORDER BY rn_")])

/-- The pseudo column can be read in the query itself: its columns are plain, its rows neither
grouped nor distinct. -/
def readsPseudoColumn (q : Query) : Bool :=
  !q.distinct && q.groupBy.isEmpty && q.having.isEmpty && !q.columns.isEmpty &&
    !q.columns.any Column.isWildcard

/-- The ordered query, wrapped twice. -/
def renderPseudoOrdered (d : Dialect) (s : Scope) (q : Query) (w : PageWindow) :
    Except Error Fragment := do
  let f ← q.renderPlain d s
  return .text "SELECT * FROM (SELECT o_.*, ROWNUM AS rn_ FROM (" ::
    (f ++ [.text (") o_) WHERE rn_ > " ++ toString w.offset.toNat ++ " AND rn_ <= " ++
      toString w.last.toNat)])

/-- The unordered query with the pseudo column among its own. -/
def renderPseudoDirect (d : Dialect) (s : Scope) (q : Query) (w : PageWindow) :
    Except Error Fragment := do
  let bound := "ROWNUM <= " ++ toString w.last.toNat
  let f ← q.render d s
    { SelectOptions.standard with
      extraColumn := some "ROWNUM AS rn_", extraCondition := some bound }
  return .text "SELECT * FROM (" :: (f ++ [.text (") WHERE rn_ > " ++ toString w.offset.toNat)])

/-- The unordered query, bounded from one level up. -/
def renderPseudoWrapped (d : Dialect) (s : Scope) (q : Query) (w : PageWindow) :
    Except Error Fragment := do
  let f ← q.renderPlain d s
  return .text "SELECT * FROM (SELECT b_.*, ROWNUM AS rn_ FROM (" ::
    (f ++ [.text (") b_ WHERE ROWNUM <= " ++ toString w.last.toNat ++ ") WHERE rn_ > " ++
      toString w.offset.toNat)])

/-- The query in the form its page state asks for. -/
def renderPaged (d : Dialect) (s : Scope) (q : Query) (state : PageState) :
    Except Error Fragment :=
  match state.window? with
  | none => q.renderPlain d s
  | some w =>
    match d.pagination with
    | .limitOffset => q.renderLimited d s w
    | .rowNumber => q.renderRowNumber d s w
    | .pseudoRowNumber =>
      match state with
      | .ordered _ => q.renderPseudoOrdered d s w
      | _ => if q.readsPseudoColumn then q.renderPseudoDirect d s w else q.renderPseudoWrapped d s w

end Query

end EntitySql
