import EntitySql.Proofs.Sql.Keys
import EntitySql.Proofs.Sql.SelectLists

/-!
# Selections of whole tables

Without a list of columns, a selection from the table of a schema names all of its columns in order,
and each name is looked up again, as a field first. So the list has one item for each column, in the
order of the schema, whatever the condition, the order and the window; but an item is the column
itself only if the column is found by its name. A name that is the field of another column selects
that one, a name that is a star selects everything, and an empty name nothing
(`EntitySchema.compilePaged_columns`).
-/

namespace EntitySql

set_option autoImplicit false

open Outcome

variable {d : Dialect}

/-! ## When a selection is written -/

namespace Query

variable {q : Query} {s : Scope}

/-- The order of a query is written exactly when its terms are. -/
theorem exists_orderPart_iff {terms : List Ordered} :
    (∃ order, orderPart d s terms = .ok order) ↔
      ∃ texts, terms.mapM (Ordered.render d s) = .ok texts := by
  cases terms with
  | nil => exact iff_of_true ⟨none, rfl⟩ ⟨[], rfl⟩
  | cons o rest =>
    have clause : orderPart d s (o :: rest) =
        ((o :: rest).mapM (Ordered.render d s)).map fun texts =>
          some ("ORDER BY " ++ String.intercalate ", " texts) := by
      rw [orderPart, if_neg (by simp), orderClause]
      cases (o :: rest).mapM (Ordered.render d s) <;> rfl
    simp only [clause, map_eq_ok, exists_comm (α := Option String), exists_and_left, exists_eq',
      and_true]

/-- The numbers of a query that is not distinct have the order of the query. -/
theorem exists_orderPart_of_numberingOrder (plain : q.distinct = false) {order : String}
    (h : q.numberingOrder d s = .ok order) : ∃ clause, orderPart d s q.orderBy = .ok clause := by
  rw [numberingOrder, plain, if_neg Bool.false_ne_true] at h
  rw [orderPart]
  split at h
  · rename_i none
    rw [if_pos none]
    exact ⟨_, rfl⟩
  · rename_i some
    rw [if_neg some]
    exact ⟨_, map_eq_ok.2 ⟨order, h, rfl⟩⟩

/-- **A query that is not distinct compiles when it has parts,** in a window or not. -/
theorem exists_compile_iff_parts (plain : q.distinct = false)
    (scope : Scope.ofQuery q = .ok (.along [q])) {window : Option PageWindow} :
    (∃ st, q.compile d window = .ok st) ↔ ∃ p, q.parts d (.along [q]) = .ok p := by
  constructor
  · rintro ⟨st, compiled⟩
    obtain ⟨sorting, body, numbers, written, _⟩ := compile_framed compiled
    refine exists_parts_of_render (count_frame sorting window) written fun unordered => ?_
    obtain ⟨paging, paged⟩ := numbered_of_unordered unordered
    exact exists_orderPart_of_numberingOrder plain (numbers paging paged)
  · rintro ⟨p, parts⟩
    cases window with
    | none => exact ⟨_, compile_eq_ok_iff.2 ⟨_, _, scope, render_eq_write parts rfl, rfl⟩⟩
    | some w =>
      obtain ⟨order, numbers, _⟩ := exists_numberingOrder parts
      exact ⟨_, compile_eq_ok_iff.2 ⟨_, _, scope, renderPaged_eq_write parts numbers w, rfl⟩⟩

end Query

namespace EntitySchema

variable {schema : EntitySchema} {c : ColumnDef}

/-! ## Names as items -/

/-- A name is selected as what it means. -/
theorem renderLabeled_ofName (name : String) :
    (Column.ofName name).renderLabeled d (.ofSelection schema) =
      .ok (schema.foundLeft d name).expression := by
  have found : LeftSide.ofColumn d (.ofSelection schema) (.ofName name) =
      .ok (schema.foundLeft d name) := ofColumn_ofName name
  obtain ⟨_, written⟩ := LeftSide.ofColumn_eq_ok_iff.1 found
  rw [Column.renderLabeled, if_neg (fun given => given.1 rfl), written]
  rfl

/-- **A column is selected by its name** exactly when it is found by it. -/
theorem expression_foundLeft_iff (column : c ∈ schema.columns) :
    (schema.foundLeft d c.name).expression = d.identifier c.name ↔ schema.foundByName c := by
  constructor
  · intro same
    refine (foundByName_of_text (d := d) (x := "") (y := "") column ?_).1
    rw [same]
  · intro named
    rw [foundLeft_of_foundByName column named]

/-- The items of a selection of the whole table. -/
def wholeItems (d : Dialect) (schema : EntitySchema) : List String :=
  schema.columns.map fun c => (schema.foundLeft d c.name).expression

theorem wholeItems_eq_iff :
    schema.wholeItems d = schema.columns.map (fun c => d.identifier c.name) ↔
      ∀ c ∈ schema.columns, schema.foundByName c := by
  rw [wholeItems, List.map_inj_left]
  exact forall₂_congr fun c column => expression_foundLeft_iff column

/-- The selection of all columns of a schema, by their names. -/
def wholeQuery (schema : EntitySchema) (filter : Condition) (terms : List Ordered) : Query :=
  { Query.ofSchema 0 schema with
    columns := (schema.columns.map fun c => c.name).map Column.ofName
    filter
    orderBy := terms }

section Whole

variable {filter : Condition} {terms : List Ordered}

theorem columns_wholeQuery_ne_nil : (schema.wholeQuery filter terms).columns ≠ [] := by
  simpa [wholeQuery] using schema.columns_ne_nil

theorem ofQuery_wholeQuery :
    Scope.ofQuery (schema.wholeQuery filter terms) = .ok (.ofSelection schema) := rfl

theorem along_wholeQuery : Scope.along [schema.wholeQuery filter terms] = .ofSelection schema := rfl

theorem mapM_renderLabeled_columns :
    (schema.wholeQuery filter terms).columns.mapM (Column.renderLabeled d (.ofSelection schema)) =
      .ok (schema.wholeItems d) := by
  rw [wholeQuery, mapM_eq_ok, wholeItems, List.forall₂_map_left_iff, List.forall₂_map_left_iff,
    List.forall₂_map_right_iff, List.forall₂_same]
  exact fun c _ => renderLabeled_ofName c.name

/-- A selection of the whole table has parts when its condition and its order are written and the
columns injected for the order may be selected. -/
theorem exists_parts_wholeQuery_iff :
    (∃ p, (schema.wholeQuery filter terms).parts d (.ofSelection schema) = .ok p) ↔
      (∃ f, Condition.render d (.ofSelection schema) filter = .ok f) ∧
      (∃ texts, terms.mapM (Ordered.render d (.ofSelection schema)) = .ok texts) ∧
      ∃ more, (schema.wholeQuery filter terms).injected.mapM
        (Column.renderLabeled d (.ofSelection schema)) = .ok more := by
  have some : (schema.wholeQuery filter terms).columns ≠ [] := columns_wholeQuery_ne_nil
  have selects := Query.selected_eq_append some
  rw [← Query.exists_orderPart_iff]
  constructor
  · rintro ⟨p, parts⟩
    obtain ⟨t, list, first, others, condition, grouping, having, order, _, listed, _, _, filtered,
      _, _, ordered, _⟩ := Query.parts_eq_ok_iff.1 parts
    rw [selects] at listed
    obtain ⟨_, more, _, added, _⟩ := Query.selectList_append some listed
    exact ⟨⟨condition, filtered⟩, ⟨order, ordered⟩, more, added⟩
  · rintro ⟨⟨condition, filtered⟩, ⟨order, ordered⟩, more, added⟩
    have own : (schema.wholeQuery filter terms).columns.mapM
        (Column.renderLabeled d (.ofSelection schema)) = .ok (schema.wholeItems d) :=
      mapM_renderLabeled_columns
    have rendered := mapM_append_eq_ok.2 ⟨_, more, own, added, rfl⟩
    have listed := Query.selectList_of_mapM (List.append_ne_nil_of_left_ne_nil some _) rendered
    rw [← selects] at listed
    exact ⟨_, Query.parts_eq_ok_iff.2 ⟨.ofSchema schema, _, _, [], condition, [], [], order, rfl,
      listed, rfl, rfl, filtered, rfl, rfl, ordered, rfl⟩⟩

end Whole

/-- A selection without a list of columns is that of the whole table. -/
theorem compilePaged_whole (filter : Option Condition) (orderBy : Option (List Ordered))
    (offset limit : Option UInt64) :
    schema.compilePaged d none filter orderBy offset limit =
      if offset.isSome && limit.isNone then .error (.model .offsetWithoutLimit)
      else (schema.wholeQuery (filter.getD []) (orderBy.getD [])).compile d
        (limit.map fun size => ⟨offset.getD 0, size⟩) := rfl

/-- The window of an offset and a limit. -/
def wholeWindow (offset limit : Option UInt64) : Option PageWindow :=
  limit.map fun size => ⟨offset.getD 0, size⟩

/-- The frame of the selection in its statement. -/
def wholeFrame (d : Dialect) (schema : EntitySchema) (filter : Option Condition)
    (orderBy : Option (List Ordered)) (sorting : String) (offset limit : Option UInt64) : Frame :=
  (schema.wholeQuery (filter.getD []) (orderBy.getD [])).frame d sorting (wholeWindow offset limit)

/-- The text of the selection: an item for each column, the injected columns, and the expression of
the numbers where the query numbers its own rows. -/
def wholeText (d : Dialect) (schema : EntitySchema) (filter : Option Condition)
    (orderBy : Option (List Ordered)) (sorting : String) (offset limit : Option UInt64)
    (more : List String) (tail : Fragment) : Fragment :=
  (schema.wholeQuery (filter.getD []) (orderBy.getD [])).selecting (schema.wholeItems d ++ more)
    ((schema.wholeQuery (filter.getD []) (orderBy.getD [])).shownNumber d sorting
      (wholeWindow offset limit)) tail

/-- **A selection without a list of columns** is written exactly when an offset has a limit, the
condition and the order can be written, and the columns injected for the order may be selected. Its
select list has one item for each column of the schema, in order, and the injected columns behind
them, whatever the condition and the window. Each item is what the name of the column means; it is
the column itself exactly when the column is found by its name. -/
theorem compilePaged_columns (schema : EntitySchema) (filter : Option Condition)
    (orderBy : Option (List Ordered)) (offset limit : Option UInt64) :
    ((∃ st, schema.compilePaged d none filter orderBy offset limit = .ok st) ↔
        (offset.isSome = true → limit.isSome = true) ∧
        (∃ f, Condition.render d (.ofSelection schema) (filter.getD []) = .ok f) ∧
        (∃ texts, (orderBy.getD []).mapM (Ordered.render d (.ofSelection schema)) = .ok texts) ∧
        ∃ more, (schema.wholeQuery (filter.getD []) (orderBy.getD [])).injected.mapM
          (Column.renderLabeled d (.ofSelection schema)) = .ok more) ∧
      (∀ st, schema.compilePaged d none filter orderBy offset limit = .ok st →
        ∃ sorting tail injected more,
          (d.pagination = .rowNumber → limit.isSome = true →
            (schema.wholeQuery (filter.getD []) (orderBy.getD [])).numberingOrder d
              (.ofSelection schema) = .ok sorting) ∧
          injected.Sublist ((orderBy.getD []).map fun o => o.column) ∧
          injected.mapM (Column.renderLabeled d (.ofSelection schema)) = .ok more ∧
          st.columns = (schema.columns.map fun c => Column.ofName c.name) ++ injected ∧
          (schema.wholeQuery (filter.getD []) (orderBy.getD [])).render d (.ofSelection schema)
            (schema.wholeFrame d filter orderBy sorting offset limit).options =
              .ok (schema.wholeText d filter orderBy sorting offset limit more tail) ∧
          st.body = (schema.wholeFrame d filter orderBy sorting offset limit).around
            (schema.wholeText d filter orderBy sorting offset limit more tail) ∧
          ((∀ c ∈ schema.columns, schema.foundByName c) → (∀ t ∈ more, t ≠ "") → ∀ n,
            (separatedTexts ", " (schema.wholeItems d ++ more)).sqlFrom d n =
              ", ".intercalate ((schema.columns.map fun c => d.identifier c.name) ++ more))) ∧
      (∀ c ∈ schema.columns,
        (schema.foundLeft d c.name).expression = d.identifier c.name ↔ schema.foundByName c) ∧
      (schema.wholeItems d = schema.columns.map (fun c => d.identifier c.name) ↔
        ∀ c ∈ schema.columns, schema.foundByName c) := by
  refine ⟨?_, fun st compiled => ?_, fun c column => expression_foundLeft_iff column,
    wholeItems_eq_iff⟩
  · rw [compilePaged_whole, ← exists_parts_wholeQuery_iff]
    by_cases refused : (offset.isSome && limit.isNone) = true
    · rw [if_pos refused]
      rw [Bool.and_eq_true, Option.isNone_iff_eq_none] at refused
      refine iff_of_false nofun fun both => ?_
      have given := both.1 refused.1
      rw [refused.2] at given
      cases given
    · rw [if_neg refused, Query.exists_compile_iff_parts rfl ofQuery_wholeQuery]
      refine (and_iff_right fun given => ?_).symm
      simpa [given, Option.isSome_iff_ne_none] using refused
  · rw [compilePaged_whole] at compiled
    split at compiled
    · cases compiled
    · obtain ⟨sorting, tail, requested, more, numbers, own, added, columns, written, framed⟩ :=
        Query.exists_selectList columns_wholeQuery_ne_nil compiled
      rw [along_wholeQuery] at numbers own added written
      rw [mapM_renderLabeled_columns] at own
      cases own
      refine ⟨sorting, tail, _, more, fun paging paged => numbers paging (by simpa using paged),
        Query.injected_sublist _, added, ?_, written, framed, fun found written n => ?_⟩
      · rw [columns, wholeQuery, List.map_map]
        rfl
      · rw [wholeItems_eq_iff.2 found]
        refine Fragment.sqlFrom_separatedTexts d ", " (fun t member => ?_) n
        rcases List.mem_append.1 member with column | other
        · obtain ⟨c, _, rfl⟩ := List.mem_map.1 column
          exact d.identifier_ne_empty c.name
        · exact written t other

theorem compilePaged_columns_personSample :
    ∃ st, personSample.compilePaged .sqlServer none none
        (some [⟨.ofName "AGE", .descending⟩]) (some 10) (some 5) = .ok st ∧
      st.sql = "SELECT TOP 5 * FROM (SELECT ID, NAME, AGE, ROW_NUMBER() OVER(ORDER BY AGE DESC) " ++
        "AS rn_ FROM PERSON) p_ WHERE rn_ > 10 ORDER BY rn_" ∧
      ∃ tail, st.body = (PagedForm.numbered 5 10 "ORDER BY AGE DESC").frame.around
        ((personSample.wholeQuery [] [⟨.ofName "AGE", .descending⟩]).selecting ["ID", "NAME", "AGE"]
          (some (Query.numberColumn "ORDER BY AGE DESC")) tail) := by
  obtain ⟨written, list, _, _⟩ := compilePaged_columns (d := .sqlServer) personSample none
    (some [⟨.ofName "AGE", .descending⟩]) (some 10) (some 5)
  obtain ⟨st, compiled⟩ := written.2 ⟨fun _ => rfl, ⟨_, rfl⟩, ⟨_, rfl⟩, ⟨_, rfl⟩⟩
  obtain ⟨sorting, tail, injected, more, numbers, _, added, columns, _, framed, _⟩ :=
    list st compiled
  have age : injected = [.ofName "AGE"] := by
    cases compiled
    exact (List.append_cancel_left columns).symm
  have order : sorting = "ORDER BY AGE DESC" := (Except.ok.inj (numbers rfl rfl)).symm
  subst age order
  cases added
  exact ⟨st, compiled, by cases compiled; decide +kernel, tail, framed⟩

/-- Two columns of numbers, where the name of the first is the field of the second. -/
def shadowedSample : EntitySchema where
  typeName := "Shadowed"
  table := ⟨"SHADOWED", ""⟩
  columns := [.plain "X" "A" .whole (.int .int64 none), .plain "A" "B" .outside (.int .int64 none)]
  columns_ne_nil := List.cons_ne_nil _ _
  fields_nodup := by decide
  names_nodup := by decide

/-- The first column is not selected, the second one is selected twice. -/
theorem compilePaged_columns_shadowedSample :
    ∃ st, shadowedSample.compilePaged .generic none none none none none = .ok st ∧
      shadowedSample.columns.map (fun c => Dialect.generic.identifier c.name) = ["A", "B"] ∧
      st.sql = "SELECT B, B FROM SHADOWED" := by
  refine ⟨_, rfl, ?_, ?_⟩ <;> decide +kernel

end EntitySchema

end EntitySql
