import EntitySql.Proofs.Sql.Paged
import EntitySql.Sql.Statement

/-!
# Operations

The eight ways to compile a statement, under one roof. What an operation binds is told from its
data alone, in the order of the statement: the values of a query, the values of a row, those of
assignments before those of their condition, those of a key. A paged query ends with its limit and
offset where the dialect has them (`Operation.parameters_compile`).

Every compiled statement is a clause of the wordings of its operation
(`Operation.clause_compile`).
-/

namespace EntitySql

set_option autoImplicit false

open Outcome

/-- A statement to compile. -/
inductive Operation where
  | select (q : Query) (window : Option PageWindow)
  | count (q : Query)
  | insert (schema : EntitySchema) (r : Row)
  | update (schema : EntitySchema) (assignments : List (String × Value)) (filter : Condition)
  | updateRow (schema : EntitySchema) (r : Row)
  | delete (schema : EntitySchema) (filter : Condition)
  | deleteKey (schema : EntitySchema) (key : List Value)
  | find (schema : EntitySchema) (key : List Value)

namespace Operation

/-- The statement of a dialect for the operation. -/
def compile (d : Dialect) : Operation → Except Error Statement
  | select q window => q.compile d window
  | count q => q.compileCount d
  | insert schema r => schema.compileInsert d r
  | update schema assignments filter => schema.compileUpdate d assignments filter
  | updateRow schema r => schema.compileUpdateRow d r
  | delete schema filter => schema.compileDelete d filter
  | deleteKey schema key => schema.compileDeleteKey d key
  | find schema key => schema.compileFind d key

/-- The window of a paged selection. -/
def window? : Operation → Option PageWindow
  | select _ window => window
  | _ => none

end Operation

theorem PageState.window_ofWindow (window : Option PageWindow) (ordered : Bool) :
    (PageState.ofWindow window ordered).window? = window := by
  cases window with
  | none => rfl
  | some w => cases ordered <;> rfl

/-! ## Statements opened -/

namespace EntitySchema

variable {d : Dialect} {schema : EntitySchema} {st : Statement}

/-- The key columns of a schema with their values. -/
theorem keyValues_eq_ok {values : List Value} {key : List (ColumnDef × Value)}
    (h : schema.keyValues values = .ok key) :
    key = schema.key.zip values ∧ schema.key.length = values.length := by
  simp only [keyValues, bind_eq_ok, requireKey] at h
  obtain ⟨columns, found, h⟩ := h
  split at found
  · cases found
  · cases found
    split at h
    · cases h
    · rename_i same
      cases h
      exact ⟨rfl, by simpa using same⟩

/-- The test for a key, written from its columns and values. -/
def keyTest (d : Dialect) (key : List (ColumnDef × Value)) : Fragment :=
  Fragment.separated " AND " (key.map fun (c, v) => equation d c.name (.forColumn v c))

theorem keyCondition_eq_ok {values : List Value} {f : Fragment}
    (h : schema.keyCondition d values = .ok f) :
    schema.key.length = values.length ∧ f = keyTest d (schema.key.zip values) := by
  simp only [keyCondition, bind_eq_ok, pure_eq_ok] at h
  obtain ⟨key, found, rfl⟩ := h
  obtain ⟨rfl, same⟩ := keyValues_eq_ok found
  exact ⟨same, rfl⟩

theorem compileInsert_eq_ok {r : Row} (h : schema.compileInsert d r = .ok st) :
    ∃ values, present r schema.columns = .ok values ∧ st = .change d
      (.text ("INSERT INTO " ++ schemaTableName d schema.table ++ " (") ::
        (Fragment.separated ", " (values.map fun (c, _) => [.text (d.identifier c.name)]) ++
          .text ") VALUES (" ::
            (Fragment.separated ", " (values.map fun (c, v) => [.parameter (.forColumn v c)]) ++
              [.text ")"]))) := by
  simp only [compileInsert, bind_eq_ok] at h
  obtain ⟨values, found, h⟩ := h
  split at h
  · cases h
  · cases h
    exact ⟨values, found, rfl⟩

theorem updateHead_eq_ok {assignments : List (String × Value)} {f : Fragment}
    (h : updateHead d schema assignments = .ok f) :
    f = .text ("UPDATE " ++ schemaTableName d schema.table ++ " SET ") ::
      Fragment.separated ", " (assignments.map fun (name, v) => assignment d schema name v) := by
  unfold updateHead at h
  split at h
  · cases h
  · cases h
    rfl

theorem compileUpdate_eq_ok {assignments : List (String × Value)} {filter : Condition}
    (h : schema.compileUpdate d assignments filter = .ok st) :
    ∃ head condition, updateHead d schema assignments = .ok head ∧
      Condition.render d (.ofSchema schema) filter = .ok condition ∧
      st = .change d (head ++ .text " WHERE " :: condition) := by
  simp only [compileUpdate] at h
  split at h
  · cases h
  · simp only [bind_eq_ok, pure_eq_ok] at h
    obtain ⟨head, hh, condition, hc, rfl⟩ := h
    exact ⟨head, condition, hh, hc, rfl⟩

theorem compileUpdateRow_eq_ok {r : Row} (h : schema.compileUpdateRow d r = .ok st) :
    ∃ values others head, required r schema.key = .ok values ∧
      present r (schema.columns.filter fun c => !c.isKey) = .ok others ∧
      updateHead d schema (others.map fun (c, v) => (c.name, v)) = .ok head ∧
      schema.key.length = values.length ∧
      st = .change d (head ++ .text " WHERE " :: keyTest d (schema.key.zip values)) := by
  simp only [compileUpdateRow, bind_eq_ok, pure_eq_ok, requireKey] at h
  obtain ⟨key, found, values, hv, others, ho, head, hh, condition, hc, rfl⟩ := h
  split at found
  · cases found
  · cases found
    obtain ⟨same, rfl⟩ := keyCondition_eq_ok hc
    exact ⟨values, others, head, hv, ho, hh, same, rfl⟩

theorem compileDelete_eq_ok {filter : Condition} (h : schema.compileDelete d filter = .ok st) :
    ∃ condition, Condition.render d (.ofSchema schema) filter = .ok condition ∧
      st = .change d (deleteHead d schema ++ .text " WHERE " :: condition) := by
  simp only [compileDelete] at h
  split at h
  · cases h
  · simp only [bind_eq_ok, pure_eq_ok] at h
    obtain ⟨condition, hc, rfl⟩ := h
    exact ⟨condition, hc, rfl⟩

theorem compileDeleteKey_eq_ok {values : List Value}
    (h : schema.compileDeleteKey d values = .ok st) :
    schema.key.length = values.length ∧
      st = .change d (deleteHead d schema ++ .text " WHERE " ::
        keyTest d (schema.key.zip values)) := by
  simp only [compileDeleteKey, bind_eq_ok, pure_eq_ok] at h
  obtain ⟨condition, hc, rfl⟩ := h
  obtain ⟨same, rfl⟩ := keyCondition_eq_ok hc
  exact ⟨same, rfl⟩

/-- The query for a row by its key. -/
def findQuery (schema : EntitySchema) (values : List Value) : Query :=
  { Query.ofSchema 0 schema with
    filter := (schema.key.zip values).map fun (c, v) =>
      .predicate .and (.compare (.ofName c.name) .equal (.value v)) }

theorem compileFind_eq_ok {values : List Value} (h : schema.compileFind d values = .ok st) :
    (schema.findQuery values).compile d none = .ok st := by
  simp only [compileFind, bind_eq_ok] at h
  obtain ⟨key, found, written⟩ := h
  obtain ⟨rfl, _⟩ := keyValues_eq_ok found
  exact written

end EntitySchema

namespace Query

variable {d : Dialect} {q : Query} {st : Statement}

theorem compile_eq_ok_iff {window : Option PageWindow} :
    q.compile d window = .ok st ↔ ∃ s body, Scope.ofQuery q = .ok s ∧
      q.renderPaged d s (.ofWindow window (!q.orderBy.isEmpty)) = .ok body ∧
      ⟨d, body, q.shape, selected q.columns q.orderBy⟩ = st := by
  simp only [compile, bind_eq_ok, pure_eq_ok]
  constructor
  · rintro ⟨s, scope, body, written, rfl⟩
    exact ⟨s, body, scope, written, rfl⟩
  · rintro ⟨s, body, scope, written, rfl⟩
    exact ⟨s, scope, body, written, rfl⟩

/-- A query is counted from outside, or its columns are replaced by the count. -/
theorem compileCount_eq_ok (h : q.compileCount d = .ok st) :
    ∃ s body, Scope.ofQuery q = .ok s ∧
      ((q.countsDerived = true ∧
          q.render d s { SelectOptions.standard with unordered := true } = .ok body ∧
          st = ⟨d, .text "SELECT COUNT(*) FROM (" :: (body ++ [.text ") c_"]), .scalar,
            [Column.countAll]⟩) ∨
        (q.countsDerived = false ∧
          q.render d s { SelectOptions.standard with count := true } = .ok body ∧
          st = ⟨d, body, .scalar, [Column.countAll]⟩)) := by
  simp only [compileCount, bind_eq_ok] at h
  obtain ⟨s, scope, h⟩ := h
  split at h
  · rename_i derived
    simp only [bind_eq_ok, pure_eq_ok] at h
    obtain ⟨body, written, _, rfl, rfl⟩ := h
    exact ⟨s, body, scope, .inl ⟨derived, written, rfl⟩⟩
  · rename_i plain
    simp only [bind_eq_ok, pure_eq_ok] at h
    obtain ⟨body, written, rfl⟩ := h
    exact ⟨s, body, scope, .inr ⟨Bool.eq_false_iff.2 plain, written, rfl⟩⟩

end Query

/-! ## Payloads of operations -/

namespace EntitySchema

/-- The value of an assignment, for the column it is assigned to. -/
def assignedPair (schema : EntitySchema) (name : String) (v : Value) : Pair :=
  match schema.resolve? name with
  | some c => .forColumn v c
  | none => .ofValue v

/-- The columns for which a row has a value, with the values; none when the row does not fit. -/
def presentValues (r : Row) (columns : List ColumnDef) : List (ColumnDef × Value) :=
  match present r columns with
  | .ok values => values
  | .error _ => []

/-- The values of the key columns in a row. -/
def keyOf (schema : EntitySchema) (r : Row) : List Value :=
  match required r schema.key with
  | .ok values => values
  | .error _ => []

/-- The values of columns as parameters. -/
def columnPairs (values : List (ColumnDef × Value)) : List Pair :=
  values.map fun (c, v) => .forColumn v c

end EntitySchema

namespace Query

/-- The values of a query that stands alone. -/
def ownPayloads (q : Query) : List Pair :=
  match Scope.ofQuery q with
  | .ok s => q.payloads s
  | .error _ => []

end Query

/-- The values an operation binds, in the order of its statement. -/
def Operation.payloads : Operation → List Pair
  | select q _ => q.ownPayloads
  | count q => q.ownPayloads
  | insert schema r => EntitySchema.columnPairs (EntitySchema.presentValues r schema.columns)
  | update schema assignments filter =>
    assignments.map (fun (name, v) => schema.assignedPair name v) ++
      Node.allPayloads (.ofSchema schema) filter
  | updateRow schema r =>
    (EntitySchema.presentValues r (schema.columns.filter fun c => !c.isKey)).map
        (fun (c, v) => schema.assignedPair c.name v) ++
      EntitySchema.columnPairs (schema.key.zip (schema.keyOf r))
  | delete schema filter => Node.allPayloads (.ofSchema schema) filter
  | deleteKey schema key => EntitySchema.columnPairs (schema.key.zip key)
  | find schema key => (schema.findQuery key).ownPayloads

namespace EntitySchema

variable {d : Dialect} {schema : EntitySchema}

theorem parameters_assignment (name : String) (v : Value) :
    (assignment d schema name v).parameters = [schema.assignedPair name v] := by
  unfold assignment assignedPair
  cases schema.resolve? name <;> rfl

theorem parameters_keyTest (key : List (ColumnDef × Value)) :
    (keyTest d key).parameters = columnPairs key :=
  Fragment.parameters_separated_map " AND " _ (fun _ => rfl) key

theorem parameters_updateHead {assignments : List (String × Value)} {f : Fragment}
    (h : updateHead d schema assignments = .ok f) :
    f.parameters = assignments.map fun (name, v) => schema.assignedPair name v := by
  rw [updateHead_eq_ok h, Fragment.parameters_text]
  exact Fragment.parameters_separated_map ", " _ (fun _ => parameters_assignment _ _) assignments

end EntitySchema

theorem Query.parameters_compile {d : Dialect} {q : Query} {window : Option PageWindow}
    {st : Statement} (h : q.compile d window = .ok st) :
    st.parameters = q.ownPayloads ++ d.pagingPair window := by
  obtain ⟨s, body, scope, written, rfl⟩ := compile_eq_ok_iff.1 h
  have bound := parameters_renderPaged written
  rw [PageState.window_ofWindow] at bound
  simpa [Statement.parameters, ownPayloads, scope] using bound

/-- **The parameters of a statement are the payloads of its operation,** then limit and offset
where the dialect pages by them. -/
theorem Operation.parameters_compile {d : Dialect} : ∀ {op : Operation} {st : Statement},
    op.compile d = .ok st → st.parameters = op.payloads ++ d.pagingPair op.window?
  | select q window, st, h => Query.parameters_compile h
  | count q, st, h => by
    obtain ⟨s, body, scope, ⟨_, written, rfl⟩ | ⟨_, written, rfl⟩⟩ := Query.compileCount_eq_ok h
    · simp [Statement.parameters, payloads, Query.ownPayloads, scope, window?, Dialect.pagingPair,
        q.parameters_render written]
    · simp [Statement.parameters, payloads, Query.ownPayloads, scope, window?, Dialect.pagingPair,
        q.parameters_render written]
  | insert schema r, st, h => by
    obtain ⟨values, found, rfl⟩ := EntitySchema.compileInsert_eq_ok h
    have names : Fragment.parameters (Fragment.separated ", "
        (values.map fun (c, _) => [.text (d.identifier c.name)])) = [] := by
      simp [List.flatMap_map]
    have bound := Fragment.parameters_separated_map ", "
      (fun (c, v) => [.parameter (.forColumn v c)]) (fun _ => rfl) values
    simp [Statement.parameters, Statement.change, payloads, window?, Dialect.pagingPair,
      EntitySchema.presentValues, EntitySchema.columnPairs, found, names, bound]
  | update schema assignments filter, st, h => by
    obtain ⟨head, condition, hh, hc, rfl⟩ := EntitySchema.compileUpdate_eq_ok h
    simp [Statement.parameters, Statement.change, payloads, window?, Dialect.pagingPair,
      EntitySchema.parameters_updateHead hh, Condition.parameters_render hc]
  | updateRow schema r, st, h => by
    obtain ⟨values, others, head, hv, ho, hh, _, rfl⟩ := EntitySchema.compileUpdateRow_eq_ok h
    simp [Statement.parameters, Statement.change, payloads, window?, Dialect.pagingPair,
      EntitySchema.parameters_updateHead hh, EntitySchema.parameters_keyTest,
      EntitySchema.presentValues, EntitySchema.keyOf, hv, ho]
  | delete schema filter, st, h => by
    obtain ⟨condition, hc, rfl⟩ := EntitySchema.compileDelete_eq_ok h
    simp [Statement.parameters, Statement.change, payloads, window?, Dialect.pagingPair,
      EntitySchema.deleteHead, Condition.parameters_render hc]
  | deleteKey schema key, st, h => by
    obtain ⟨_, rfl⟩ := EntitySchema.compileDeleteKey_eq_ok h
    simp [Statement.parameters, Statement.change, payloads, window?, Dialect.pagingPair,
      EntitySchema.deleteHead, EntitySchema.parameters_keyTest]
  | find schema key, st, h => Query.parameters_compile (EntitySchema.compileFind_eq_ok h)

/-! ## Statements are clauses -/

/-- The names of the table of a schema and of its columns. -/
def EntitySchema.wordings (schema : EntitySchema) : List Wording :=
  (TableSource.entity schema).wordings

/-- The wordings of an operation: of its query, or of its schema, assignments and condition. -/
def Operation.wordings : Operation → List Wording
  | select q _ => q.wordings
  | count q => q.wordings
  | insert schema _ => schema.wordings
  | update schema assignments filter =>
    schema.wordings ++ assignments.map (fun a => .identifier a.1) ++ Node.allWordings filter
  | updateRow schema _ => schema.wordings
  | delete schema filter => schema.wordings ++ Node.allWordings filter
  | deleteKey schema _ => schema.wordings
  | find schema _ => schema.wordings

section Clauses

variable {d : Dialect} {admits : Wording → Prop} {st : Statement}

namespace EntitySchema

variable {schema : EntitySchema}

theorem identifier_mem_wordings {c : ColumnDef} (h : c ∈ schema.columns) :
    .identifier c.name ∈ schema.wordings :=
  List.mem_append_right _ (List.mem_map_of_mem h)

/-- Values are found for columns that were asked for. -/
theorem mem_of_present {r : Row} : ∀ {columns : List ColumnDef}
    {values : List (ColumnDef × Value)}, present r columns = .ok values →
      ∀ cv ∈ values, cv.1 ∈ columns
  | [], values, h => by
    cases h
    exact List.forall_mem_nil _
  | c :: rest, values, h => by
    simp only [present, bind_eq_ok, pure_eq_ok] at h
    obtain ⟨v, _, others, found, same⟩ := h
    have later : ∀ cv ∈ others, cv.1 ∈ c :: rest := fun cv member =>
      List.mem_cons_of_mem _ (mem_of_present found cv member)
    cases v with
    | none =>
      subst same
      exact later
    | some v =>
      subst same
      intro cv member
      rcases List.mem_cons.1 member with rfl | member
      · exact List.mem_cons_self
      · exact later cv member

theorem phrase_table (h : ∀ w ∈ schema.wordings, admits w) :
    Phrase d admits (schemaTableName d schema.table) :=
  phrase_schemaTableName (h _ (by simp [wordings, TableSource.wordings]))
    (h _ (by simp [wordings, TableSource.wordings]))

theorem clause_equation {name : String} (h : admits (.identifier name)) (p : Pair) :
    Clause d admits (equation d name p) :=
  .text ((Phrase.identifier h).append (.word rfl rfl)) (.parameter p)

/-- A known name is written as the name of its column, an unknown one as it is. -/
theorem clause_assignment {name : String} {v : Value} (own : ∀ w ∈ schema.wordings, admits w)
    (given : admits (.identifier name)) : Clause d admits (assignment d schema name v) := by
  unfold assignment
  split
  · rename_i c found
    refine clause_equation (own _ (identifier_mem_wordings ?_)) _
    rcases Option.or_eq_some_iff.1 found with field | ⟨_, named⟩
    · exact List.mem_of_find?_eq_some field
    · exact List.mem_of_find?_eq_some named
  · exact clause_equation given _

theorem clause_updateHead {assignments : List (String × Value)} {f : Fragment}
    (h : updateHead d schema assignments = .ok f) (own : ∀ w ∈ schema.wordings, admits w)
    (given : ∀ a ∈ assignments, admits (.identifier a.1)) : Clause d admits f := by
  rw [updateHead_eq_ok h]
  have keyword : Phrase d admits ("UPDATE " ++ schemaTableName d schema.table ++ " SET ") :=
    ((Phrase.word rfl rfl).append (phrase_table own)).append (.word rfl rfl)
  refine .text keyword (.separated (by decide) rfl rfl fun g member => ?_)
  obtain ⟨a, used, rfl⟩ := List.mem_map.1 member
  exact clause_assignment own (given a used)

theorem clause_deleteHead (own : ∀ w ∈ schema.wordings, admits w) :
    Clause d admits (deleteHead d schema) :=
  .single ((Phrase.word rfl rfl).append (phrase_table own))

theorem clause_keyTest {values : List Value} (own : ∀ w ∈ schema.wordings, admits w) :
    Clause d admits (keyTest d (schema.key.zip values)) := by
  refine .separated (by decide) rfl rfl fun g member => ?_
  obtain ⟨cv, used, rfl⟩ := List.mem_map.1 member
  have column : cv.1 ∈ schema.columns := (List.mem_filter.1 (List.of_mem_zip used).1).1
  exact clause_equation (own _ (identifier_mem_wordings column)) _

/-- The scope of a schema adds the empty alias and the names of its columns. -/
theorem admits_of_ofSchema (blank : admits (.verbatim "")) (own : ∀ w ∈ schema.wordings, admits w) :
    ∀ w ∈ (Scope.ofSchema schema).wordings, admits w := by
  intro w member
  rcases List.mem_append.1 member with named | column
  · rw [List.mem_singleton.1 named]
    exact blank
  · refine own w (List.mem_append_right _ ?_)
    simpa [Scope.ofSchema, Scope.columnWordings] using column

theorem clause_condition {filter : Condition} {f : Fragment} (blank : admits (.verbatim ""))
    (h : Condition.render d (.ofSchema schema) filter = .ok f)
    (own : ∀ w ∈ schema.wordings, admits w) (given : ∀ w ∈ Node.allWordings filter, admits w) :
    Clause d admits f := by
  obtain ⟨nodes, written, rfl⟩ := Condition.render_eq_ok_iff.1 h
  exact .chained (Node.clause_renderAll filter written given (admits_of_ofSchema blank own))

/-- The tests of a query by key name key columns only. -/
theorem admits_of_keyTests {values : List (ColumnDef × Value)} (blank : admits (.verbatim ""))
    (unlabeled : admits (.identifier "")) (h : ∀ cv ∈ values, admits (.identifier cv.1.name)) :
    ∀ w ∈ Node.allWordings (values.map fun (c, v) =>
      Node.predicate .and (.compare (.ofName c.name) .equal (.value v))), admits w := by
  induction values with
  | nil => exact List.forall_mem_nil _
  | cons cv rest ih =>
    intro w member
    rcases List.mem_append.1 member with first | later
    · have one : w = .verbatim "" ∨ w = .identifier cv.1.name ∨ w = .identifier "" := by
        simpa [Node.wordings, Predicate.wordings, Operand.wordings, Column.ofName, Column.empty,
          Column.wordings, Column.ownWordings] using first
      rcases one with rfl | rfl | rfl
      · exact blank
      · exact h cv List.mem_cons_self
      · exact unlabeled
    · exact ih (fun cv used => h cv (List.mem_cons_of_mem _ used)) w later

theorem admits_of_findQuery {values : List Value} (blank : admits (.verbatim ""))
    (unlabeled : admits (.identifier "")) (own : ∀ w ∈ schema.wordings, admits w) :
    ∀ w ∈ (schema.findQuery values).wordings, admits w := by
  intro w member
  simp only [findQuery, Query.ofSchema, Query.empty, Query.wordings, Table.optionWordings,
    Table.ofSchema, Table.wordings, Join.allWordings, Node.allWordings, List.flatMap_nil,
    List.append_nil, List.mem_append, List.mem_cons] at member
  rcases member with (rfl | table) | test
  · exact blank
  · exact own w table
  · refine admits_of_keyTests blank unlabeled (fun cv used => ?_) w test
    exact own _ (identifier_mem_wordings (List.mem_filter.1 (List.of_mem_zip used).1).1)

theorem clause_compileInsert {r : Row} (h : schema.compileInsert d r = .ok st)
    (own : ∀ w ∈ schema.wordings, admits w) : Clause d admits st.body ∧ st.dialect = d := by
  obtain ⟨values, found, rfl⟩ := compileInsert_eq_ok h
  have names : Clause d admits (Fragment.separated ", "
      (values.map fun (c, _) => [.text (d.identifier c.name)])) := by
    refine .separated (by decide) rfl rfl fun g member => ?_
    obtain ⟨cv, used, rfl⟩ := List.mem_map.1 member
    exact .single (.identifier (own _ (identifier_mem_wordings (mem_of_present found cv used))))
  have marks : Clause d admits (Fragment.separated ", "
      (values.map fun (c, v) => [.parameter (.forColumn v c)])) := by
    refine .separated (by decide) rfl rfl fun g member => ?_
    obtain ⟨cv, used, rfl⟩ := List.mem_map.1 member
    exact .parameter _
  have head : Phrase d admits ("INSERT INTO " ++ schemaTableName d schema.table ++ " ") :=
    ((Phrase.word rfl rfl).append (phrase_table own)).append (.word rfl rfl)
  have keyword : Phrase d admits " VALUES " := .word rfl rfl
  refine ⟨.alike (.text head (names.parens.append (.text keyword marks.parens) rfl))
    ⟨fun n => ?_, by simp [Statement.change]⟩, rfl⟩
  simp [Statement.change, Fragment.sqlFrom_append]

end EntitySchema

theorem Query.clause_compile {q : Query} {window : Option PageWindow}
    (h : q.compile d window = .ok st) (own : ∀ w ∈ q.wordings, admits w) :
    Clause d admits st.body ∧ st.dialect = d := by
  obtain ⟨s, body, scope, written, rfl⟩ := compile_eq_ok_iff.1 h
  have inScope := Scope.admits_of_enter scope own (List.forall_mem_nil _)
  exact ⟨clause_renderPaged written own inScope, rfl⟩

theorem Query.clause_compileCount {q : Query} (h : q.compileCount d = .ok st)
    (own : ∀ w ∈ q.wordings, admits w) : Clause d admits st.body ∧ st.dialect = d := by
  obtain ⟨s, body, scope, ⟨_, written, rfl⟩ | ⟨_, written, rfl⟩⟩ := compileCount_eq_ok h
  · have clause := q.clause_render written own
      (Scope.admits_of_enter scope own (List.forall_mem_nil _)) ⟨nofun, nofun⟩
    have count : Phrase d admits ("SELECT COUNT" ++ "(" ++ "*" ++ ")" ++ " FROM ") :=
      (Phrase.call (.word rfl rfl) (.word rfl rfl)).append (.word rfl rfl)
    exact ⟨clause.enclosed _ " c_" count (.word rfl rfl) rfl (by simp) (by simp), rfl⟩
  · exact ⟨q.clause_render written own
      (Scope.admits_of_enter scope own (List.forall_mem_nil _)) ⟨nofun, nofun⟩, rfl⟩

/-- **A compiled statement is a clause** of the wordings of its operation. -/
theorem Operation.clause_compile (blank : admits (.verbatim ""))
    (unlabeled : admits (.identifier "")) : ∀ {op : Operation}, op.compile d = .ok st →
      (∀ w ∈ op.wordings, admits w) → Clause d admits st.body ∧ st.dialect = d
  | select q window, h, own => Query.clause_compile h own
  | count q, h, own => Query.clause_compileCount h own
  | insert schema r, h, own => EntitySchema.clause_compileInsert h own
  | update schema assignments filter, h, own => by
    obtain ⟨head, condition, hh, hc, rfl⟩ := EntitySchema.compileUpdate_eq_ok h
    simp only [wordings, List.mem_append] at own
    have table : ∀ w ∈ schema.wordings, admits w := fun w member => own w (.inl (.inl member))
    have headClause := EntitySchema.clause_updateHead hh table fun a used =>
      own _ (.inl (.inr (List.mem_map.2 ⟨a, used, rfl⟩)))
    have conditionClause := EntitySchema.clause_condition blank hc table fun w member =>
      own w (.inr member)
    exact ⟨headClause.append (.text (.word rfl rfl) conditionClause) rfl, rfl⟩
  | updateRow schema r, h, own => by
    obtain ⟨values, others, head, hv, ho, hh, _, rfl⟩ := EntitySchema.compileUpdateRow_eq_ok h
    have headClause := EntitySchema.clause_updateHead hh own fun a used => by
      obtain ⟨cv, given, rfl⟩ := List.mem_map.1 used
      have column := (List.mem_filter.1 (EntitySchema.mem_of_present ho cv given)).1
      exact own _ (EntitySchema.identifier_mem_wordings column)
    exact ⟨headClause.append (.text (.word rfl rfl) (EntitySchema.clause_keyTest own)) rfl, rfl⟩
  | delete schema filter, h, own => by
    obtain ⟨condition, hc, rfl⟩ := EntitySchema.compileDelete_eq_ok h
    simp only [wordings, List.mem_append] at own
    have table : ∀ w ∈ schema.wordings, admits w := fun w member => own w (.inl member)
    have conditionClause := EntitySchema.clause_condition blank hc table fun w member =>
      own w (.inr member)
    have headClause := EntitySchema.clause_deleteHead (d := d) table
    exact ⟨headClause.append (.text (.word rfl rfl) conditionClause) rfl, rfl⟩
  | deleteKey schema key, h, own => by
    obtain ⟨_, rfl⟩ := EntitySchema.compileDeleteKey_eq_ok h
    exact ⟨(EntitySchema.clause_deleteHead own).append
      (.text (.word rfl rfl) (EntitySchema.clause_keyTest own)) rfl, rfl⟩
  | find schema key, h, own =>
    Query.clause_compile (EntitySchema.compileFind_eq_ok h)
      (EntitySchema.admits_of_findQuery blank unlabeled own)

end Clauses

end EntitySql
