import EntitySql.Sql.Context
import EntitySql.Sql.Statement

/-!
# Statements as they are written

Each part of a statement appends its text and collects its parameters where it stands: queries,
tables, joins, conditions and predicates by mutual recursion, then the forms of paging and the
statements themselves. Expressions of columns bind no parameters; they are written as a whole.

**Conditions** of a query are written on the side, since the keyword before one is written only if
there is something behind it. So is every node of a condition, as it may come to nothing. The
condition of a join is written in place.
-/

namespace EntitySql

set_option autoImplicit false

open Writer

/-! ## Columns -/

/-- Writes the expression of a column. -/
def Column.write (d : Dialect) (c : Column) : Writer Unit := do
  push (← c.render d (← scope))

/-- Writes the expression of a column and its label. -/
def Column.writeLabeled (d : Dialect) (c : Column) : Writer Unit := do
  push (← c.renderLabeled d (← scope))

/-- Writes a term to order by. -/
def Ordered.write (d : Dialect) (o : Ordered) : Writer Unit := do
  o.column.write d
  push o.direction.word

/-- Writes the clause that orders rows. -/
def writeOrderClause (d : Dialect) (terms : List Ordered) : Writer Unit := do
  push "ORDER BY "
  separated ", " (terms.map (Ordered.write d))

/-- The left side of a test, its expression written on the side. -/
def LeftSide.read (d : Dialect) (c : Column) : Writer LeftSide := do
  let column ← (← scope).columnDefOf c
  let expression ← aside (c.write d)
  return ⟨column, expression⟩

/-! ## Tests -/

/-- Writes a comparison with a value that is null. -/
def writeNullTest (left : String) (comparison : Comparison) : Writer Unit :=
  match comparison with
  | .equal => push (left ++ " IS NULL")
  | .notEqual => push (left ++ " IS NOT NULL")
  | _ => throw (.model (.nullComparison left comparison.symbol))

/-- Writes a comparison. -/
def writeCompareTest (d : Dialect) (l : LeftSide) (comparison : Comparison) :
    Operand → Writer Unit
  | .value v =>
    if v.isNull then writeNullTest l.expression comparison
    else do
      let endOfDay := (← scope).endOfDay
      let v := if endOfDay && comparison.boundsAbove then shiftEndOfDay v else v
      push (l.expression ++ " " ++ comparison.symbol ++ " ")
      parameter d (.forColumn? v l.column)
  | .column other => do
    push (l.expression ++ " " ++ comparison.symbol ++ " ")
    other.write d

/-- Writes a test against a pattern. -/
def writeLikeTest (d : Dialect) (l : LeftSide) (place : PatternPlace) (negated : Bool)
    (part : Value) : Writer Unit := do
  let text ← patternText part
  push (l.expression ++ " " ++ negation negated ++ "LIKE ")
  parameter d (.ofValue (.varchar (some (place.pattern text))))

/-- Writes a test for membership. -/
def writeAmongTest (d : Dialect) (l : LeftSide) (negated : Bool) (values : List Value) :
    Writer Unit :=
  if values.isEmpty then push (if negated then "1=1" else "1=0")
  else do
    push (l.expression ++ " " ++ negation negated ++ "IN (")
    separated ", " (values.map fun v => parameter d (.forColumn? v l.column))
    push ")"

/-- Writes a test for a range. -/
def writeBetweenTest (d : Dialect) (l : LeftSide) (low high : Value) : Writer Unit :=
  match low.isNull, high.isNull with
  | true, true => pure ()
  | false, false => do
    push (l.expression ++ " BETWEEN ")
    parameter d (.forColumn? low l.column)
    push " AND "
    parameter d (.forColumn? high l.column)
  | _, _ => throw (.model (.missingBound l.expression))

/-! ## Selections -/

/-- A text in parentheses, unless it is empty. -/
def enclosedText (t : String) : String := if t = "" then "" else "(" ++ t ++ ")"

/-- A keyword before a text, unless that is empty. -/
def textAfter (keyword t : String) : String := if t = "" then "" else keyword ++ t

/-- The condition of a query and one more, as texts. -/
def whereText (extra : Option String) (condition : String) : String :=
  match extra with
  | some e =>
    if condition = "" then " WHERE " ++ e else " WHERE (" ++ condition ++ ") AND " ++ e
  | none => textAfter " WHERE " condition

/-- Writes the columns of a query: a star for none. -/
def writeSelectList (d : Dialect) (columns : List Column) : Writer Unit :=
  if columns.isEmpty then push "*" else separated ", " (columns.map (Column.writeLabeled d))

/-- Writes what is selected, after the keyword. -/
def writeSelectHead (d : Dialect) (options : SelectOptions) (distinct : Bool)
    (columns : List Column) : Writer Unit := do
  push "SELECT "
  if options.count then push "COUNT(*)"
  else do
    push (if distinct then "DISTINCT " else "")
    writeSelectList d columns
    push (options.extraColumn.elim "" fun e => ", " ++ e)

/-- Writes the columns to group by. -/
def writeGroupClause (d : Dialect) (columns : List Column) : Writer Unit :=
  if columns.isEmpty then pure ()
  else do
    push " GROUP BY "
    separated ", " (columns.map (Column.write d))

/-- Writes the order of the rows, unless it is left out. -/
def writeFinalOrder (d : Dialect) (options : SelectOptions) (terms : List Ordered) :
    Writer Unit :=
  if options.unordered || options.count || terms.isEmpty then pure ()
  else do
    push " "
    writeOrderClause d terms

mutual
/-- Writes a query in the scope of the context. -/
def Query.write (d : Dialect) (options : SelectOptions) : Query → Writer Unit
  | ⟨table, joins, columns, distinct, filter, groupBy, having, orderBy, _, _, _⟩ =>
    match table with
    | none => throw (.model .noTable)
    | some t => do
      writeSelectHead d options distinct (Query.selected columns orderBy)
      push " FROM "
      t.write d
      Join.writeAll d joins
      let condition ← aside (Node.writeAll d true filter)
      push (whereText options.extraCondition condition)
      writeGroupClause d groupBy
      let groupCondition ← aside (Node.writeAll d true having)
      push (textAfter " HAVING " groupCondition)
      writeFinalOrder d options orderBy
  termination_by structural q => q

/-- Writes a table and its alias. -/
def Table.write (d : Dialect) : Table → Writer Unit
  | ⟨aliasName, source⟩ => do
    source.write d
    push (aliasSuffix aliasName)
  termination_by structural t => t

/-- Writes what a table is. -/
def TableSource.write (d : Dialect) : TableSource → Writer Unit
  | .entity schema => push (schemaTableName d schema.table)
  | .named name => separated "." ((nameParts name).map fun part => push (d.identifier part))
  | .subQuery q => do
    push "("
    inside q (q.write d .standard)
    push ")"
  termination_by structural t => t

/-- Writes a join and its condition, if it has one. -/
def Join.write (d : Dialect) : Join → Writer Unit
  | ⟨kind, table, on⟩ => do
    push (" " ++ kind.words ++ " ")
    table.write d
    push (if on.isEmpty then "" else " ON ")
    Node.writeAll d true on
  termination_by structural j => j

/-- Writes the joins one after the other. -/
def Join.writeAll (d : Dialect) : List Join → Writer Unit
  | [] => pure ()
  | j :: js => do
    j.write d
    Join.writeAll d js
  termination_by structural js => js

/-- Writes the nodes of a condition. The first one that comes to something is written bare, the
others after their connectives. -/
def Node.writeAll (d : Dialect) (first : Bool) : List Node → Writer Unit
  | [] => pure ()
  | n :: ns => do
    let item ← aside (n.write d)
    if item = "" then Node.writeAll d first ns
    else do
      push (if first then "" else n.composition.outer.spaced)
      push item
      Node.writeAll d false ns
  termination_by structural ns => ns

/-- Writes a node. -/
def Node.write (d : Dialect) : Node → Writer Unit
  | .predicate _ p => p.write d
  | .nested _ nodes => do
    let inner ← aside (Node.writeAll d true nodes)
    push (enclosedText inner)
  | .group c members => do
    let inner ← aside (separated c.inner.spaced (Predicate.writers d members))
    push (enclosedText inner)
  termination_by structural n => n

/-- Writes a predicate. -/
def Predicate.write (d : Dialect) : Predicate → Writer Unit
  | .compare c comparison operand => do
    let l ← LeftSide.read d c
    writeCompareTest d l comparison operand
  | .like c place negated part => do
    let l ← LeftSide.read d c
    writeLikeTest d l place negated part
  | .among c negated values => do
    let l ← LeftSide.read d c
    writeAmongTest d l negated values
  | .isNull c negated => do
    let l ← LeftSide.read d c
    push (l.expression ++ " IS " ++ negation negated ++ "NULL")
  | .isEmpty c negated => do
    let l ← LeftSide.read d c
    push (d.emptyTest l.expression negated)
  | .between c low high => do
    let l ← LeftSide.read d c
    writeBetweenTest d l low high
  | .hasRows negated q => do
    push (negation negated ++ "EXISTS (")
    inside q (q.write d .standard)
    push ")"
  termination_by structural p => p

/-- What writes predicates, one by one. -/
def Predicate.writers (d : Dialect) : List Predicate → List (Writer Unit)
  | [] => []
  | p :: ps => p.write d :: Predicate.writers d ps
  termination_by structural ps => ps
end

/-! ## Paging -/

namespace Query

/-- Writes a query followed by limit and offset. -/
def writeLimited (d : Dialect) (q : Query) (w : PageWindow) : Writer Unit := do
  q.write d .standard
  push " LIMIT "
  parameter d (.ofValue (countValue w.size))
  push " OFFSET "
  parameter d (.ofValue (countValue w.offset))

/-- Writes a term by which the rows of a derived table are ordered. -/
def writeDerivedTerm (d : Dialect) (columns : List Column) (o : Ordered) : Writer Unit :=
  match columns.find? fun c => c.label != "" && c.sameExpression o.column with
  | some c => do
    push (d.identifier c.label)
    push o.direction.word
  | none => o.write d

/-- Writes the terms by which the rows of a derived table are ordered. -/
def writeDerivedTerms (d : Dialect) (columns : List Column) (first : Bool) :
    List Ordered → Writer Unit
  | [] => pure ()
  | o :: rest => do
    push (if first then "" else ", ")
    writeDerivedTerm d columns o
    writeDerivedTerms d columns false rest

/-- Writes the order in which rows are numbered. -/
def writeNumbering (d : Dialect) (q : Query) : Writer Unit :=
  if q.orderBy.isEmpty then push anyOrder
  else if q.distinct then
    unqualified do
      push "ORDER BY "
      writeDerivedTerms d (selected q.columns q.orderBy) true q.orderBy
  else writeOrderClause d q.orderBy

/-- Writes a query as a derived table of numbered rows, in an order written on the side. -/
def writeNumbered (d : Dialect) (q : Query) : Writer Unit := do
  let sorting ← aside (q.writeNumbering d)
  let number := "ROW_NUMBER() OVER(" ++ sorting ++ ") AS rn_"
  if q.distinct then do
    push ("SELECT d_.*, " ++ number ++ " FROM (")
    q.write d { SelectOptions.standard with unordered := true }
    push ") d_"
  else q.write d { SelectOptions.standard with extraColumn := some number, unordered := true }

/-- Writes the numbered rows of a window. -/
def writeRowNumber (d : Dialect) (q : Query) (w : PageWindow) : Writer Unit := do
  push ("SELECT TOP " ++ toString w.size.toNat ++ " * FROM (")
  q.writeNumbered d
  push (") p_ WHERE rn_ > " ++ toString w.offset.toNat ++ " ORDER BY rn_")

/-- Writes an ordered query, wrapped twice. -/
def writePseudoOrdered (d : Dialect) (q : Query) (w : PageWindow) : Writer Unit := do
  push "SELECT * FROM (SELECT o_.*, ROWNUM AS rn_ FROM ("
  q.write d .standard
  push (") o_) WHERE rn_ > " ++ toString w.offset.toNat ++ " AND rn_ <= " ++
    toString w.last.toNat)

/-- Writes an unordered query with the pseudo column among its own. -/
def writePseudoDirect (d : Dialect) (q : Query) (w : PageWindow) : Writer Unit := do
  push "SELECT * FROM ("
  q.write d
    { SelectOptions.standard with
      extraColumn := some "ROWNUM AS rn_"
      extraCondition := some ("ROWNUM <= " ++ toString w.last.toNat) }
  push (") WHERE rn_ > " ++ toString w.offset.toNat)

/-- Writes an unordered query, bounded from one level up. -/
def writePseudoWrapped (d : Dialect) (q : Query) (w : PageWindow) : Writer Unit := do
  push "SELECT * FROM (SELECT b_.*, ROWNUM AS rn_ FROM ("
  q.write d .standard
  push (") b_ WHERE ROWNUM <= " ++ toString w.last.toNat ++ ") WHERE rn_ > " ++
    toString w.offset.toNat)

/-- Writes a query in the form its page state asks for. -/
def writePaged (d : Dialect) (q : Query) (state : PageState) : Writer Unit :=
  match state.window? with
  | none => q.write d .standard
  | some w =>
    match d.pagination with
    | .limitOffset => q.writeLimited d w
    | .rowNumber => q.writeRowNumber d w
    | .pseudoRowNumber =>
      match state with
      | .ordered _ => q.writePseudoOrdered d w
      | _ => if q.readsPseudoColumn then q.writePseudoDirect d w else q.writePseudoWrapped d w

/-- Writes the count of the rows of a query. -/
def writeCount (d : Dialect) (q : Query) : Writer Unit :=
  if q.countsDerived then do
    push "SELECT COUNT(*) FROM ("
    q.write d { SelectOptions.standard with unordered := true }
    push ") c_"
  else q.write d { SelectOptions.standard with count := true }

end Query

/-! ## Changes of rows -/

namespace EntitySchema

/-- Writes a column and the parameter it is set to or tested against. -/
def writeEquation (d : Dialect) (name : String) (p : Pair) : Writer Unit := do
  push (d.identifier name)
  push " = "
  parameter d p

/-- Writes the test that locates a row by its key. -/
def writeKey (d : Dialect) (schema : EntitySchema) (values : List Value) : Writer Unit := do
  let key ← schema.keyValues values
  separated " AND " (key.map fun (c, v) => writeEquation d c.name (.forColumn v c))

/-- Writes the insertion of values into their columns. -/
def writeInsert (d : Dialect) (schema : EntitySchema) (values : List (ColumnDef × Value)) :
    Writer Unit := do
  push "INSERT INTO "
  push (schemaTableName d schema.table)
  push " ("
  separated ", " (values.map fun (c, _) => push (d.identifier c.name))
  push ") VALUES ("
  separated ", " (values.map fun (c, v) => parameter d (.forColumn v c))
  push ")"

/-- Writes one assignment. -/
def writeAssignment (d : Dialect) (schema : EntitySchema) (name : String) (v : Value) :
    Writer Unit :=
  match schema.resolve? name with
  | some c => writeEquation d c.name (.forColumn v c)
  | none => writeEquation d name (.ofValue v)

/-- Writes an update up to its condition. -/
def writeUpdate (d : Dialect) (schema : EntitySchema) (assignments : List (String × Value)) :
    Writer Unit :=
  if assignments.isEmpty then throw (.model (.nothingToUpdate schema.table.name))
  else do
    push "UPDATE "
    push (schemaTableName d schema.table)
    push " SET "
    separated ", " (assignments.map fun (name, v) => writeAssignment d schema name v)

/-- Writes a deletion up to its condition. -/
def writeDelete (d : Dialect) (schema : EntitySchema) : Writer Unit := do
  push "DELETE FROM "
  push (schemaTableName d schema.table)

end EntitySchema

/-! ## Statements -/

/-- A statement that has been written. -/
structure WrittenStatement where
  sql : String
  parameters : List Pair
  shape : Shape
  columns : List Column

/-- A statement as it is written. -/
def Statement.written (st : Statement) : WrittenStatement :=
  ⟨st.sql, st.parameters, st.shape, st.columns⟩

/-- The statement written from nothing in a scope. -/
def Writer.finish (w : Writer Unit) (s : Scope) (shape : Shape) (columns : List Column) :
    Except Error WrittenStatement := do
  let ((), draft) ← w.run ⟨⟨s, []⟩, ""⟩
  return ⟨draft.text, draft.context.parameters, shape, columns⟩

namespace Query

/-- Writes the selection of a query, or of a window of its rows. -/
def written (d : Dialect) (q : Query) (window : Option PageWindow) :
    Except Error WrittenStatement := do
  let s ← Scope.ofQuery q
  (q.writePaged d (.ofWindow window (!q.orderBy.isEmpty))).finish s q.shape
    (selected q.columns q.orderBy)

/-- Writes the number of rows of a query. -/
def writtenCount (d : Dialect) (q : Query) : Except Error WrittenStatement := do
  let s ← Scope.ofQuery q
  (q.writeCount d).finish s .scalar [Column.countAll]

end Query

namespace EntitySchema

/-- A statement that changes rows of the table of a schema. -/
def change (schema : EntitySchema) (w : Writer Unit) : Except Error WrittenStatement :=
  w.finish (.ofSchema schema) .scalar []

/-- Writes the selection of a row by its key. -/
def writtenFind (d : Dialect) (schema : EntitySchema) (values : List Value) :
    Except Error WrittenStatement := do
  let key ← schema.keyValues values
  let filter : Condition := key.map fun (c, v) =>
    .predicate .and (.compare (.ofName c.name) .equal (.value v))
  { Query.ofSchema 0 schema with filter }.written d none

/-- Writes the insertion of a row. -/
def writtenInsert (d : Dialect) (schema : EntitySchema) (r : Row) :
    Except Error WrittenStatement := do
  let values ← present r schema.columns
  if values.isEmpty then throw (.model (.nothingToInsert schema.table.name))
  schema.change (writeInsert d schema values)

/-- Writes the update of a row located by its key. -/
def writtenUpdateRow (d : Dialect) (schema : EntitySchema) (r : Row) :
    Except Error WrittenStatement := do
  let key ← schema.requireKey
  let values ← required r key
  let others ← present r (schema.columns.filter fun c => !c.isKey)
  schema.change do
    writeUpdate d schema (others.map fun (c, v) => (c.name, v))
    push " WHERE "
    writeKey d schema values

/-- Writes the deletion of a row located by its key. -/
def writtenDeleteKey (d : Dialect) (schema : EntitySchema) (values : List Value) :
    Except Error WrittenStatement :=
  schema.change do
    writeDelete d schema
    push " WHERE "
    writeKey d schema values

/-- Writes the update of the rows that satisfy a condition. -/
def writtenUpdate (d : Dialect) (schema : EntitySchema) (assignments : List (String × Value))
    (filter : Condition) : Except Error WrittenStatement := do
  if filter.isEmpty then throw (.model .updateWithoutCondition)
  schema.change do
    writeUpdate d schema assignments
    push " WHERE "
    Node.writeAll d true filter

/-- Writes the deletion of the rows that satisfy a condition. -/
def writtenDelete (d : Dialect) (schema : EntitySchema) (filter : Condition) :
    Except Error WrittenStatement := do
  if filter.isEmpty then throw (.model .deleteWithoutCondition)
  schema.change do
    writeDelete d schema
    push " WHERE "
    Node.writeAll d true filter

end EntitySchema

end EntitySql
