import EntitySql.Proofs.Sql.Changes
import EntitySql.Proofs.Text.Identifiers

/-!
# Rows located by their keys

A row is found, updated and deleted by its key. Update and deletion write one test,
`EntitySchema.keyTest`, from the key columns themselves. Finding goes through a condition: each key
column is named there, and its name is looked up again, as a field first. So the test may look at
another column, at none if the name is empty or a star, and a null value becomes a null test
(`EntitySchema.foundTest`). The tests are one text with one list of parameters exactly when no
value is null and every key column is found by its name (`EntitySchema.compileFind_locates`).
-/

namespace EntitySql

set_option autoImplicit false

open Outcome

namespace EntitySchema

variable {d : Dialect} {schema : EntitySchema} {c : ColumnDef} {v : Value}

/-! ## The test of a search -/

/-- The left side of a test for what a name means. -/
def foundLeft (d : Dialect) (schema : EntitySchema) (name : String) : LeftSide :=
  if name = "" then ⟨none, ""⟩
  else if name = "*" then ⟨none, "*"⟩
  else
    match schema.resolve? name with
    | some b => ⟨some b, d.identifier b.name⟩
    | none => ⟨none, d.identifier name⟩

/-- The test for a value in a column that is looked up by its name. -/
def foundTest (d : Dialect) (schema : EntitySchema) (c : ColumnDef) (v : Value) : Fragment :=
  if v.isNull then [.text ((schema.foundLeft d c.name).expression ++ " IS NULL")]
  else
    [.text ((schema.foundLeft d c.name).expression ++ " = "),
      (schema.foundLeft d c.name).parameter v]

/-- The condition of a search by key. -/
def keyFilter (key : List (ColumnDef × Value)) : Condition :=
  key.map fun (c, v) => .predicate .and (.compare (.ofName c.name) .equal (.value v))

/-- The test that finds a row by its key. -/
def foundKeyTest (d : Dialect) (schema : EntitySchema) (key : List (ColumnDef × Value)) :
    Fragment :=
  Fragment.separated " AND " (key.map fun p => schema.foundTest d p.1 p.2)

/-- The column can be named, and its name means the column. -/
def foundByName (schema : EntitySchema) (c : ColumnDef) : Prop :=
  c.name ≠ "" ∧ c.name ≠ "*" ∧ schema.crosses c.name = false

theorem writesNothing_foundTest : (schema.foundTest d c v).writesNothing = false := by
  unfold foundTest
  split <;> exact Fragment.writesNothing_of_word (by decide)

/-- A name is looked up in the table of the schema. -/
theorem ofColumn_ofName (name : String) :
    LeftSide.ofColumn d (.ofSelection schema) (.ofName name) = .ok (schema.foundLeft d name) := by
  rw [LeftSide.ofColumn_eq_ok_iff, foundLeft]
  by_cases nameless : name = ""
  · subst nameless
    exact ⟨rfl, rfl⟩
  by_cases star : name = "*"
  · subst star
    exact ⟨rfl, rfl⟩
  have wildcard : (Column.ofName name).isWildcard = false := by
    simpa [Column.isWildcard, Column.ofName, Column.empty] using star
  have reference : (Column.ofName name).isReference = true := by
    simpa [Column.isReference, Column.ofName, Column.empty] using nameless
  have column : (Scope.ofSelection schema).columnDefOf (.ofName name) =
      .ok (schema.resolve? name) := by
    rw [Scope.columnDefOf, wildcard, reference]
    rfl
  have written : (Column.ofName name).render d (.ofSelection schema) =
      .ok ((Column.ofName name).reference d (.ofSelection schema) "") := by
    rw [Column.ofName, Column.empty, Column.render, Column.base, if_neg Bool.false_ne_true]
    simp only [if_neg nameless]
    rfl
  have referred : (Column.ofName name).reference d (.ofSelection schema) "" =
      match schema.resolve? name with
      | some b => d.identifier b.name
      | none => d.identifier name := by
    have looked : (Scope.ofSelection schema).columnDef? "" (Column.ofName name).name =
        schema.resolve? name := rfl
    rw [Column.reference, wildcard, looked]
    cases schema.resolve? name <;> exact String.empty_append
  rw [if_neg nameless, if_neg star, column, written, referred]
  cases schema.resolve? name <;> exact ⟨rfl, rfl⟩

theorem render_foundTest (c : ColumnDef) (v : Value) :
    Predicate.render d (.ofSelection schema) (.compare (.ofName c.name) .equal (.value v)) =
      .ok (schema.foundTest d c v) := by
  have equals : ∀ left : String, left ++ " " ++ "=" ++ " " = left ++ " = " := by
    intro left
    rw [String.append_assoc, String.append_assoc]
    rfl
  rw [Predicate.render_compare_eq_ok_iff]
  refine ⟨_, ofColumn_ofName c.name, ?_⟩
  rw [compareTest, foundTest]
  split
  · rfl
  · rw [Comparison.symbol, equals]
    rfl

theorem renderAll_keyFilter (key : List (ColumnDef × Value)) :
    Node.renderAll d (.ofSelection schema) (keyFilter key) =
      .ok ((key.map fun p => schema.foundTest d p.1 p.2).map fun f => (.and, f)) := by
  induction key with
  | nil => rfl
  | cons p key ih =>
    exact Node.renderAll_cons_eq_ok_iff.2 ⟨_, _, render_foundTest p.1 p.2, ih, rfl⟩

/-- **The condition of a search** is the test that finds a row by its key. -/
theorem render_keyFilter (key : List (ColumnDef × Value)) :
    Condition.render d (.ofSelection schema) (keyFilter key) =
      .ok (schema.foundKeyTest d key) := by
  rw [Condition.render, renderAll_keyFilter, foundKeyTest]
  refine congrArg Except.ok (Fragment.separated_eq_chained (c := .and) ?_).symm
  intro f member
  obtain ⟨p, _, rfl⟩ := List.mem_map.1 member
  exact writesNothing_foundTest

/-! ## The texts compared -/

theorem foundLeft_of_foundByName (column : c ∈ schema.columns) (named : schema.foundByName c) :
    schema.foundLeft d c.name = ⟨some c, d.identifier c.name⟩ := by
  obtain ⟨nameless, star, straight⟩ := named
  rw [foundLeft, if_neg nameless, if_neg star, (resolve?_name_eq_some_iff column).2 straight]

/-- A column that is found by its name is tested like the column itself. -/
theorem foundTest_eq_equation (column : c ∈ schema.columns) (named : schema.foundByName c)
    (present : v.isNull = false) :
    schema.foundTest d c v = equation d c.name (.forColumn v c) := by
  rw [foundTest, present, foundLeft_of_foundByName column named]
  rfl

/-- A test that is written like that of a column looks at the column. -/
theorem foundByName_of_text {x y : String} (column : c ∈ schema.columns)
    (h : (schema.foundLeft d c.name).expression ++ (" = " ++ x) =
      d.identifier c.name ++ (" = " ++ y)) : schema.foundByName c ∧ x = y := by
  have start : ∀ {e : Char}, e = ' ' ∨ e = '*' →
      (d.identifier c.name ++ (" = " ++ y)).toList.head? ≠ some e := fun h =>
    d.identifier_ne c.name h _
  rw [foundLeft] at h
  split at h
  · have blank : ("" ++ (" = " ++ x)).toList.head? = some ' ' := by
      rw [String.toList_append, String.toList_append]
      rfl
    rw [← h] at start
    exact absurd blank (start (.inl rfl))
  · rename_i nameless
    split at h
    · have star : ("*" ++ (" = " ++ x)).toList.head? = some '*' := by
        rw [String.toList_append]
        rfl
      rw [← h] at start
      exact absurd star (start (.inr rfl))
    · rename_i star
      obtain ⟨b, meant⟩ := exists_resolve? (byName?_eq_some_iff.2 ⟨column, rfl⟩)
      rw [meant] at h
      obtain ⟨same, rest⟩ := Dialect.identifier_inj h
      refine ⟨⟨nameless, star, ?_⟩, rest⟩
      exact (sameName_of_resolve?_iff meant).1 (congrArg Text.lowerAscii same)

/-- An equation among others, as text. -/
theorem sqlFrom_equation (separator left : String) (p : Pair) (wrote : Bool)
    (rest : List Fragment) (n : Nat) :
    (Fragment.separatedAfter separator wrote
        ([.text (left ++ " = "), .parameter p] :: rest)).sqlFrom d n =
      (if wrote then separator else "") ++ (left ++ (" = " ++ (d.placeholder (n + 1) ++
        (Fragment.separatedAfter separator true rest).sqlFrom d (n + 1)))) := by
  have something : Fragment.writesNothing [.text (left ++ " = "), .parameter p] = false :=
    Fragment.writesNothing_of_word (by decide)
  rw [Fragment.separatedAfter, something, Bool.not_false, Fragment.sqlFrom_append]
  cases wrote with
  | true => simp [String.append_assoc]
  | false => simp [String.append_assoc]

/-- Tests that are written alike look at the key columns. -/
theorem foundByName_of_texts {key : List (ColumnDef × Value)}
    (columns : ∀ p ∈ key, p.1 ∈ schema.columns) (present : ∀ p ∈ key, p.2.isNull = false)
    {wrote : Bool} {n : Nat}
    (h : (Fragment.separatedAfter " AND " wrote
          (key.map fun p => schema.foundTest d p.1 p.2)).sqlFrom d n =
        (Fragment.separatedAfter " AND " wrote
          (key.map fun p => equation d p.1.name (.forColumn p.2 p.1))).sqlFrom d n) :
    ∀ p ∈ key, schema.foundByName p.1 := by
  induction key generalizing wrote n with
  | nil => exact List.forall_mem_nil _
  | cons p key ih =>
    have test : schema.foundTest d p.1 p.2 =
        [.text ((schema.foundLeft d p.1.name).expression ++ " = "),
          (schema.foundLeft d p.1.name).parameter p.2] := by
      rw [foundTest, present p List.mem_cons_self]
      rfl
    rw [List.map_cons, List.map_cons, test, equation, LeftSide.parameter, sqlFrom_equation,
      sqlFrom_equation, String.append_right_inj] at h
    obtain ⟨first, rest⟩ := foundByName_of_text (columns p List.mem_cons_self) h
    rw [String.append_right_inj] at rest
    refine List.forall_mem_cons.2 ⟨first, ih ?_ ?_ rest⟩
    · exact fun p member => columns p (List.mem_cons_of_mem _ member)
    · exact fun p member => present p (List.mem_cons_of_mem _ member)

/-- Only values that are not null become parameters of a search. -/
theorem length_parameters_foundKeyTest (key : List (ColumnDef × Value)) :
    (schema.foundKeyTest d key).parameters.length = key.countP fun p => !p.2.isNull := by
  rw [foundKeyTest, Fragment.parameters_separated]
  induction key with
  | nil => rfl
  | cons p key ih =>
    rw [List.map_cons, List.flatMap_cons, List.length_append, ih, List.countP_cons, foundTest]
    cases p.2.isNull with
    | true => exact Nat.zero_add _
    | false => exact Nat.add_comm 1 _

/-- **The tests of a key agree** exactly when no value is null and every key column is found by its
name. -/
theorem foundKeyTest_agrees_iff {key : List (ColumnDef × Value)}
    (columns : ∀ p ∈ key, p.1 ∈ schema.columns) :
    (schema.foundKeyTest d key).sql d = (keyTest d key).sql d ∧
        (schema.foundKeyTest d key).parameters = (keyTest d key).parameters ↔
      ∀ p ∈ key, p.2.isNull = false ∧ schema.foundByName p.1 := by
  constructor
  · rintro ⟨texts, parameters⟩
    have count := congrArg List.length parameters
    rw [length_parameters_foundKeyTest, parameters_keyTest, columnPairs, List.length_map,
      List.countP_eq_length] at count
    have present : ∀ p ∈ key, p.2.isNull = false := fun p member => by
      simpa using count p member
    exact fun p member => ⟨present p member, foundByName_of_texts columns present texts p member⟩
  · intro each
    have same : schema.foundKeyTest d key = keyTest d key := by
      refine congrArg (Fragment.separated " AND ") (List.map_congr_left ?_)
      rintro ⟨c, v⟩ member
      obtain ⟨present, named⟩ := each (c, v) member
      exact foundTest_eq_equation (columns (c, v) member) named present
    rw [same]
    exact ⟨rfl, rfl⟩

/-! ## The statements -/

theorem keyCondition_eq (values : List Value) :
    schema.keyCondition d values = (schema.keyValues values).map (keyTest d) := by
  unfold keyCondition
  cases schema.keyValues values <;> rfl

/-- A deletion by key is written when the key fits. -/
theorem compileDeleteKey_eq (values : List Value) :
    schema.compileDeleteKey d values = (schema.keyValues values).map fun key =>
      .change d (deleteHead d schema ++ .text " WHERE " :: keyTest d key) := by
  rw [compileDeleteKey, keyCondition_eq]
  cases schema.keyValues values <;> rfl

/-- **A search by key is written when the key fits,** from the test that finds a row by it. -/
theorem compileFind_eq (values : List Value) :
    schema.compileFind d values = (schema.keyValues values).map fun key =>
      schema.selected d (schema.foundKeyTest d key) := by
  unfold compileFind
  cases schema.keyValues values with
  | error e => rfl
  | ok key =>
    have written : (schema.selection 0 (keyFilter key)).compile d none =
        .ok (schema.selected d (schema.foundKeyTest d key)) := by
      rw [compile_selection, render_keyFilter]
      rfl
    exact written

/-- The values of a key fit when there is a key and they are as many as its columns. -/
theorem keyValues_eq_ok_iff {values : List Value} {key : List (ColumnDef × Value)} :
    schema.keyValues values = .ok key ↔
      schema.key ≠ [] ∧ schema.key.length = values.length ∧ key = schema.key.zip values := by
  constructor
  · intro fits
    obtain ⟨rfl, same⟩ := keyValues_eq_ok fits
    refine ⟨fun none => ?_, same, rfl⟩
    rw [keyValues, requireKey, none] at fits
    cases fits
  · rintro ⟨some, same, rfl⟩
    have columns : schema.requireKey = .ok schema.key := by
      rw [requireKey, List.isEmpty_eq_false_iff.2 some]
      rfl
    rw [keyValues, bind_eq_ok]
    refine ⟨schema.key, columns, ?_⟩
    rw [if_neg (not_not_intro same)]
    rfl

/-- A key that fits has a column with its value. -/
theorem keyValues_ne_nil {values : List Value} {key : List (ColumnDef × Value)}
    (fits : schema.keyValues values = .ok key) : key ≠ [] := by
  obtain ⟨some, same, rfl⟩ := keyValues_eq_ok_iff.1 fits
  intro none
  rcases List.zip_eq_nil_iff.1 none with columns | given
  · exact some columns
  · rw [given] at same
    exact some (List.length_eq_zero_iff.1 same)

theorem writesNothing_foundKeyTest {key : List (ColumnDef × Value)} (some : key ≠ []) :
    (schema.foundKeyTest d key).writesNothing = false := by
  obtain ⟨p, rest, rfl⟩ := List.exists_cons_of_ne_nil some
  rw [foundKeyTest, List.map_cons, Fragment.separated, Fragment.separatedAfter,
    Fragment.writesNothing_append, if_neg Bool.false_ne_true, writesNothing_foundTest,
    Bool.false_and]

/-- **Rows are located by their keys** through one test when they are updated or deleted, and
through the test of a search when they are found. A search is written when the schema has a key and
the values are as many as its columns; otherwise it fails just as a deletion does. The two tests are
one text with the same parameters exactly when no key value is null and every key column is found by
its name: that is neither empty nor a star, and no field of another column. -/
theorem compileFind_locates (schema : EntitySchema) (values : List Value) :
    ((∃ found, schema.compileFind d values = .ok found) ↔
        schema.key ≠ [] ∧ schema.key.length = values.length) ∧
      (∀ e, schema.compileFind d values = .error e ↔
        schema.compileDeleteKey d values = .error e) ∧
      ∀ found deleted, schema.compileFind d values = .ok found →
        schema.compileDeleteKey d values = .ok deleted →
        ∃ mine own : Fragment,
          mine = schema.foundKeyTest d (schema.key.zip values) ∧
          own = keyTest d (schema.key.zip values) ∧
          found.sql = "SELECT * FROM " ++ schemaTableName d schema.table ++ " WHERE " ++
            mine.sql d ∧
          found.parameters = mine.parameters ∧
          deleted.sql = "DELETE FROM " ++ schemaTableName d schema.table ++ " WHERE " ++
            own.sql d ∧
          deleted.parameters = own.parameters ∧
          (∀ r updated, required r schema.key = .ok values →
            schema.compileUpdateRow d r = .ok updated →
            ∃ others head, present r (schema.columns.filter fun c => !c.isKey) = .ok others ∧
              updateHead d schema (others.map fun (c, v) => (c.name, v)) = .ok head ∧
              updated.sql = head.sql d ++ " WHERE " ++ own.sqlFrom d head.parameters.length ∧
              updated.parameters = head.parameters ++ own.parameters) ∧
          (mine.sql d = own.sql d ∧ mine.parameters = own.parameters ↔
            ∀ p ∈ schema.key.zip values, p.2.isNull = false ∧ schema.foundByName p.1) := by
  refine ⟨?_, fun e => ?_, fun found deleted searched dropped => ?_⟩
  · simp only [compileFind_eq, map_eq_ok, keyValues_eq_ok_iff]
    constructor
    · rintro ⟨_, _, ⟨some, same, _⟩, _⟩
      exact ⟨some, same⟩
    · rintro ⟨some, same⟩
      exact ⟨_, _, ⟨some, same, rfl⟩, rfl⟩
  · rw [compileFind_eq, compileDeleteKey_eq]
    cases schema.keyValues values with
    | error fault => exact Iff.rfl
    | ok key => constructor <;> intro fails <;> cases fails
  rw [compileFind_eq, map_eq_ok] at searched
  rw [compileDeleteKey_eq, map_eq_ok] at dropped
  obtain ⟨key, fits, rfl⟩ := searched
  obtain ⟨again, fits', rfl⟩ := dropped
  rw [fits] at fits'
  cases fits'
  have some := keyValues_ne_nil fits
  obtain ⟨rfl, _⟩ := keyValues_eq_ok fits
  refine ⟨_, _, rfl, rfl, ?_, parameters_selected _, ?_, Change.parameters_change _ _, ?_,
    foundKeyTest_agrees_iff ?_⟩
  · rw [sql_selected, writesNothing_foundKeyTest some, if_neg Bool.false_ne_true,
      ← String.append_assoc]
  · rw [Change.sql_change, deleteHead, Fragment.sql, Fragment.sqlFrom_text, Fragment.sqlFrom_nil,
      String.append_empty]
    rfl
  · intro r updated holds changed
    obtain ⟨_, others, head, holds', present, begun, _, rfl⟩ := compileUpdateRow_eq_ok changed
    rw [holds] at holds'
    cases holds'
    exact ⟨others, head, present, begun, Change.sql_change _ _, Change.parameters_change _ _⟩
  · intro p member
    exact (List.mem_filter.1 (List.of_mem_zip member).1).1

theorem compileFind_locates_personSample :
    ∃ found deleted, personSample.compileFind .postgres [.int .int64 (some (.clamp .int64 7))] =
        .ok found ∧
      personSample.compileDeleteKey .postgres [.int .int64 (some (.clamp .int64 7))] =
        .ok deleted ∧
      found.sql = "SELECT * FROM PERSON WHERE ID = $1" ∧
      deleted.sql = "DELETE FROM PERSON WHERE ID = $1" ∧
      found.parameters = deleted.parameters := by
  obtain ⟨mine, own, rfl, rfl, _, bound, _, bound', _, agree⟩ :=
    (compileFind_locates (d := .postgres) personSample
      [.int .int64 (some (.clamp .int64 7))]).2.2 _ _ (Eq.refl _) (Eq.refl _)
  have named : ∀ p ∈ personSample.key.zip [Value.int .int64 (some (.clamp .int64 7))],
      p.2.isNull = false ∧ personSample.foundByName p.1 := by
    unfold foundByName
    decide
  refine ⟨_, _, rfl, rfl, by decide +kernel, by decide +kernel, ?_⟩
  rw [bound, bound']
  exact (agree.2 named).2

/-- A search looks at the column whose field is the name of the key column. It finds rows without a
key value, while a deletion compares with null. -/
theorem compileFind_locates_elsewhere :
    (∃ found deleted,
        crossedSample.compileFind .generic [.int .int64 (some (.clamp .int64 1))] = .ok found ∧
        crossedSample.compileDeleteKey .generic [.int .int64 (some (.clamp .int64 1))] =
          .ok deleted ∧
        found.sql = "SELECT * FROM CROSSED WHERE CODE = ?" ∧
        deleted.sql = "DELETE FROM CROSSED WHERE ID = ?") ∧
      ∃ found deleted, personSample.compileFind .generic [.int .int64 none] = .ok found ∧
        personSample.compileDeleteKey .generic [.int .int64 none] = .ok deleted ∧
        found.sql = "SELECT * FROM PERSON WHERE ID IS NULL" ∧
        deleted.sql = "DELETE FROM PERSON WHERE ID = ?" := by
  refine ⟨⟨_, _, rfl, rfl, ?_, ?_⟩, _, _, rfl, rfl, ?_, ?_⟩ <;> decide +kernel

end EntitySchema

end EntitySql
