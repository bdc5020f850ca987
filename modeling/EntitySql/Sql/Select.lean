import EntitySql.Sql.Test

/-!
# Selections and conditions as text

Queries, their tables, joins and conditions are written by mutual recursion, each part where it
stands in the text, so that parameters come in the order of their placeholders.

**Conditions.** Nodes follow one another with the connective of each node before it, except before
the first that writes something; nodes that write nothing leave nothing behind. A nested condition
and a group stand in parentheses.

**Options.** Paging and counting select rows in slightly different ways: the count instead of the
columns, one more expression, one more condition, no order.
-/

namespace EntitySql

set_option autoImplicit false

/-- What is different when a query is written inside another statement. -/
structure SelectOptions where
  /-- The number of rows instead of the columns. -/
  count : Bool
  /-- An expression after the columns. -/
  extraColumn : Option String
  /-- A condition besides the one of the query. -/
  extraCondition : Option String
  unordered : Bool

namespace SelectOptions

/-- The query as it is. -/
def standard : SelectOptions := ⟨false, none, none, false⟩

end SelectOptions

/-- The word of a connective between blanks. -/
def Connective.spaced : Connective → String
  | and => " AND "
  | or => " OR "

/-- The keywords of a join. -/
def JoinKind.words : JoinKind → String
  | inner => "INNER JOIN"
  | left => "LEFT JOIN"
  | right => "RIGHT JOIN"
  | full => "FULL JOIN"

namespace Fragment

/-- A fragment in parentheses, unless it writes nothing. -/
def parenthesized (f : Fragment) : Fragment :=
  if f.writesNothing then [] else .text "(" :: (f ++ [.text ")"])

/-- A keyword before a fragment, unless that writes nothing. -/
def after (keyword : String) (f : Fragment) : Fragment :=
  if f.writesNothing then [] else .text keyword :: f

/-- Rendered nodes after `started` says whether something was written before them: each one that
writes something follows with its connective, the first one bare. -/
def chainedAfter (started : Bool) : List (Connective × Fragment) → Fragment
  | [] => []
  | (c, f) :: rest =>
    if f.writesNothing then chainedAfter started rest
    else (if started then .text c.spaced :: f else f) ++ chainedAfter true rest

/-- The text of a condition, from its nodes. -/
def chained (nodes : List (Connective × Fragment)) : Fragment := chainedAfter false nodes

end Fragment

/-- The parts of a name between points. -/
def nameParts (name : String) : List String :=
  (name.toList.splitOn '.').map String.ofList

/-- The name of a table, each part an identifier. -/
def tableName (d : Dialect) (name : String) : String :=
  String.intercalate "." ((nameParts name).map d.identifier)

/-- The table of a schema. -/
def schemaTableName (d : Dialect) (t : TableRef) : String :=
  if t.schema = "" then d.identifier t.name else d.identifier t.schema ++ "." ++ d.identifier t.name

/-- The alias of a table after a blank. -/
def aliasSuffix (aliasName : String) : String := if aliasName = "" then "" else " " ++ aliasName

/-- The condition of a query and one more. -/
def whereClause (condition : Fragment) (extra : Option String) : Fragment :=
  match extra with
  | some e =>
    if condition.writesNothing then [.text (" WHERE " ++ e)]
    else .text " WHERE (" :: (condition ++ [.text (") AND " ++ e)])
  | none => condition.after " WHERE "

/-- The columns of a query: a star for none. -/
def selectList (d : Dialect) (s : Scope) (columns : List Column) : Except Error Fragment :=
  if columns.isEmpty then .ok [.text "*"]
  else (columns.mapM (Column.renderLabeled d s)).map (separatedTexts ", ")

/-- What is selected, after the keyword. -/
def selectHead (d : Dialect) (s : Scope) (options : SelectOptions) (distinct : Bool)
    (columns : List Column) : Except Error Fragment :=
  if options.count then .ok [.text "SELECT COUNT(*)"]
  else do
    let list ← selectList d s columns
    let keyword := if distinct then "SELECT DISTINCT " else "SELECT "
    return .text keyword :: (list ++
      match options.extraColumn with
      | some e => [.text (", " ++ e)]
      | none => [])

/-- The columns to group by. -/
def groupClause (d : Dialect) (s : Scope) (columns : List Column) : Except Error Fragment :=
  if columns.isEmpty then .ok []
  else (columns.mapM (Column.render d s)).map fun rendered =>
    .text " GROUP BY " :: separatedTexts ", " rendered

/-- The order of the rows, unless it is left out. -/
def finalOrder (d : Dialect) (s : Scope) (options : SelectOptions) (terms : List Ordered) :
    Except Error Fragment :=
  if options.unordered || options.count || terms.isEmpty then .ok []
  else (orderClause d s terms).map fun clause => [.text (" " ++ clause)]

mutual
/-- A query in its scope. -/
def Query.render (d : Dialect) (s : Scope) (options : SelectOptions) :
    Query → Except Error Fragment
  | ⟨table, joins, columns, distinct, filter, groupBy, having, orderBy, _, _, _⟩ =>
    match table with
    | none => .error (.model .noTable)
    | some t => do
      let head ← selectHead d s options distinct (Query.selected columns orderBy)
      let first ← t.render d s
      let others ← Join.renderAll d s joins
      let condition ← (Node.renderAll d s filter).map Fragment.chained
      let groups ← groupClause d s groupBy
      let groupCondition ← (Node.renderAll d s having).map Fragment.chained
      let order ← finalOrder d s options orderBy
      return head ++ .text " FROM " :: (first ++ others ++
        whereClause condition options.extraCondition ++ groups ++
        groupCondition.after " HAVING " ++ order)
  termination_by structural q => q

/-- A table and its alias. -/
def Table.render (d : Dialect) (s : Scope) : Table → Except Error Fragment
  | ⟨aliasName, source⟩ => do
    let f ← source.render d s
    return f ++ [.text (aliasSuffix aliasName)]
  termination_by structural t => t

/-- What a table is: its name, or a query in parentheses. -/
def TableSource.render (d : Dialect) (s : Scope) : TableSource → Except Error Fragment
  | .entity schema => .ok [.text (schemaTableName d schema.table)]
  | .named name => .ok [.text (tableName d name)]
  | .subQuery q => do
    let inner ← s.inside q
    let f ← q.render d inner .standard
    return .text "(" :: (f ++ [.text ")"])
  termination_by structural t => t

/-- A join and its condition, if it has one. -/
def Join.render (d : Dialect) (s : Scope) : Join → Except Error Fragment
  | ⟨kind, table, on⟩ => do
    let t ← table.render d s
    let condition ← (Node.renderAll d s on).map Fragment.chained
    return .text (" " ++ kind.words ++ " ") :: (t ++
      if on.isEmpty then [] else .text " ON " :: condition)
  termination_by structural j => j

/-- The joins one after the other. -/
def Join.renderAll (d : Dialect) (s : Scope) : List Join → Except Error Fragment
  | [] => .ok []
  | j :: js => do
    let first ← j.render d s
    let rest ← Join.renderAll d s js
    return first ++ rest
  termination_by structural js => js

/-- The nodes of a condition one by one, each with the connective before it. -/
def Node.renderAll (d : Dialect) (s : Scope) :
    List Node → Except Error (List (Connective × Fragment))
  | [] => .ok []
  | n :: ns => do
    let first ← n.render d s
    let rest ← Node.renderAll d s ns
    return (n.composition.outer, first) :: rest
  termination_by structural ns => ns

/-- A node. -/
def Node.render (d : Dialect) (s : Scope) : Node → Except Error Fragment
  | .predicate _ p => p.render d s
  | .nested _ nodes => do
    let members ← Node.renderAll d s nodes
    return (Fragment.chained members).parenthesized
  | .group c members => do
    let fs ← Predicate.renderAll d s members
    return (Fragment.separated c.inner.spaced fs).parenthesized
  termination_by structural n => n

/-- A predicate. -/
def Predicate.render (d : Dialect) (s : Scope) : Predicate → Except Error Fragment
  | .compare c comparison operand => do
    let l ← LeftSide.ofColumn d s c
    compareTest d s l comparison operand
  | .like c place negated part => do
    let l ← LeftSide.ofColumn d s c
    likeTest l place negated part
  | .among c negated values => do
    let l ← LeftSide.ofColumn d s c
    return amongTest l negated values
  | .isNull c negated => do
    let l ← LeftSide.ofColumn d s c
    return [.text (l.expression ++ " IS " ++ negation negated ++ "NULL")]
  | .isEmpty c negated => do
    let l ← LeftSide.ofColumn d s c
    return [.text (d.emptyTest l.expression negated)]
  | .between c low high => do
    let l ← LeftSide.ofColumn d s c
    betweenTest l low high
  | .hasRows negated q => do
    let inner ← s.inside q
    let f ← q.render d inner .standard
    return .text (negation negated ++ "EXISTS (") :: (f ++ [.text ")"])
  termination_by structural p => p

/-- Predicates one by one. -/
def Predicate.renderAll (d : Dialect) (s : Scope) : List Predicate → Except Error (List Fragment)
  | [] => .ok []
  | p :: ps => do
    let first ← p.render d s
    let rest ← Predicate.renderAll d s ps
    return first :: rest
  termination_by structural ps => ps
end

/-- A condition. -/
def Condition.render (d : Dialect) (s : Scope) (c : Condition) : Except Error Fragment :=
  (Node.renderAll d s c).map Fragment.chained

end EntitySql
