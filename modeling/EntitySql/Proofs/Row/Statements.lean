import EntitySql.Proofs.Sql.Keys

/-!
# Statements from labeled rows

An insertion and an update by key are written from a row whose labels name columns without regard
to case. Both first choose columns of the schema, in its order, and take the value of each one's
first label (`EntitySchema.labeled`). Names and parameters are written from the same list, so they
stay aligned (`Inserts`, `Updates`).

An insertion and the key of an update write the chosen columns themselves. What an update sets is
looked up by the name of the column once more, as a field first. So the update sets the columns it
chose exactly when none of their names is the field of another column; otherwise the value of a
column goes to the column of that field (`EntitySchema.compileRow_columns`).
-/

namespace EntitySql

set_option autoImplicit false

open Outcome

/-! ## Values under labels -/

namespace Row

variable {r : Row}

/-- A label of the row is the name, without regard to ASCII case. -/
def hasLabel (r : Row) (name : String) : Bool := r.labels.any fun l => Text.eqIgnoringCase l name

/-- The value under the first label that is the name. -/
def value? (r : Row) (name : String) : Option Value :=
  (r.pairs.find? fun p => Text.eqIgnoringCase p.1 name).map Prod.snd

/-- Where every label has a value, the value of a column is the one under its first label. -/
theorem column?_eq (full : r.labels.length = r.values.length) (name : String) :
    r.column? name = .ok (r.value? name) := by
  obtain ⟨labels, values⟩ := r
  unfold column? value? pairs
  simp only at full ⊢
  induction labels generalizing values with
  | nil => rfl
  | cons l labels ih =>
    cases values with
    | nil => cases full
    | cons v values =>
      rw [List.findIdx?_cons, List.zip_cons_cons, List.find?_cons]
      cases same : Text.eqIgnoringCase l name with
      | true => rfl
      | false =>
        rw [if_neg Bool.false_ne_true]
        refine Eq.trans ?_ (ih values (Nat.succ.inj full))
        cases labels.findIdx? fun l => Text.eqIgnoringCase l name <;> rfl

/-- Where every label has a value, a name has a value when it has a label. -/
theorem isSome_value? (full : r.labels.length = r.values.length) (name : String) :
    (r.value? name).isSome = r.hasLabel name := by
  have labels : r.pairs.map Prod.fst = r.labels := List.map_fst_zip (Nat.le_of_eq full)
  rw [value?, Option.isSome_map, hasLabel, ← labels, List.any_map, Bool.eq_iff_iff,
    List.find?_isSome, List.any_eq_true]
  rfl

/-- The values are those of the row for the columns that have a label, in the order of the
columns. -/
structure Gives (r : Row) (columns : List ColumnDef) (values : List (ColumnDef × Value)) :
    Prop where
  columns_eq : values.map Prod.fst = columns.filter fun c => r.hasLabel c.name
  value_eq : ∀ p ∈ values, r.value? p.1.name = some p.2

end Row

namespace EntitySchema

variable {d : Dialect} {schema : EntitySchema} {r : Row}

/-! ## Columns chosen by a row -/

/-- The columns that have a value in the row, with their values. -/
def labeled (r : Row) (columns : List ColumnDef) : List (ColumnDef × Value) :=
  columns.filterMap fun c => (r.value? c.name).map fun v => (c, v)

theorem labeled_cons (r : Row) (c : ColumnDef) (rest : List ColumnDef) :
    labeled r (c :: rest) =
      match r.value? c.name with
      | some v => (c, v) :: labeled r rest
      | none => labeled r rest := by
  rw [labeled, List.filterMap_cons]
  cases r.value? c.name <;> rfl

theorem gives_labeled (full : r.labels.length = r.values.length) (columns : List ColumnDef) :
    r.Gives columns (labeled r columns) := by
  induction columns with
  | nil => exact ⟨rfl, List.forall_mem_nil _⟩
  | cons c rest ih =>
    have label := Row.isSome_value? full c.name
    rw [labeled_cons]
    cases found : r.value? c.name with
    | none =>
      have unlabeled : r.hasLabel c.name = false := by rw [← label, found]; rfl
      refine ⟨?_, ih.value_eq⟩
      rw [List.filter_cons, unlabeled, if_neg Bool.false_ne_true, ← ih.columns_eq]
    | some v =>
      have named : r.hasLabel c.name = true := by rw [← label, found]; rfl
      refine ⟨?_, List.forall_mem_cons.2 ⟨found, ih.value_eq⟩⟩
      rw [List.filter_cons, named, if_pos rfl, ← ih.columns_eq]
      rfl

/-- The columns present in a row are those with a label. -/
theorem present_eq (full : r.labels.length = r.values.length) (columns : List ColumnDef) :
    present r columns = .ok (labeled r columns) := by
  induction columns with
  | nil => rfl
  | cons c rest ih =>
    rw [present, Row.column?_eq full, ih, labeled_cons]
    cases r.value? c.name <;> rfl

/-- The first required column without a label is missing; otherwise the values are those of the
columns. -/
theorem required_eq (full : r.labels.length = r.values.length) (columns : List ColumnDef) :
    required r columns =
      match columns.find? fun c => !r.hasLabel c.name with
      | some c => .error (.model (.missingKeyValue c.name))
      | none => .ok ((labeled r columns).map Prod.snd) := by
  induction columns with
  | nil => rfl
  | cons c rest ih =>
    rw [required, Row.column?_eq full, List.find?_cons, ← Row.isSome_value? full, labeled_cons, ih]
    cases r.value? c.name with
    | none => rfl
    | some v =>
      simp only [Option.isSome_some, Bool.not_true]
      cases rest.find? fun c => !r.hasLabel c.name <;> rfl

/-- Columns that all have a label are all chosen. -/
theorem map_fst_labeled (full : r.labels.length = r.values.length) {columns : List ColumnDef}
    (each : columns.find? (fun c => !r.hasLabel c.name) = none) :
    (labeled r columns).map Prod.fst = columns := by
  rw [(gives_labeled full columns).columns_eq, List.filter_eq_self]
  intro c member
  simpa using List.find?_eq_none.1 each c member

/-- Nothing is chosen exactly when no column has a label. -/
theorem labeled_eq_nil_iff (full : r.labels.length = r.values.length) (columns : List ColumnDef) :
    labeled r columns = [] ↔ ∀ c ∈ columns, r.hasLabel c.name = false := by
  rw [← List.map_eq_nil_iff, (gives_labeled full columns).columns_eq, List.filter_eq_nil_iff]
  simp only [Bool.not_eq_true]

/-! ## The statements -/

/-- The identifiers of columns. -/
def columnNames (d : Dialect) (values : List (ColumnDef × Value)) : List String :=
  values.map fun p => d.identifier p.1.name

/-- The placeholders of as many parameters, with `n` parameters before them. -/
def placeholders (d : Dialect) (n count : Nat) : List String :=
  (List.range' (n + 1) count).map d.placeholder

/-- The columns, each one equal to the next placeholder, with `n` parameters before them. -/
def equationTexts (d : Dialect) (n : Nat) (values : List (ColumnDef × Value)) : List String :=
  List.zipWith (fun name mark => name ++ " = " ++ mark) (columnNames d values)
    (placeholders d n values.length)

/-- The statement inserts the values, each one into its own column. -/
structure Inserts (d : Dialect) (schema : EntitySchema) (values : List (ColumnDef × Value))
    (st : Statement) : Prop where
  text : st.sql = "INSERT INTO " ++ schemaTableName d schema.table ++ " (" ++
    ", ".intercalate (columnNames d values) ++ ") VALUES (" ++
    ", ".intercalate (placeholders d 0 values.length) ++ ")"
  parameters : st.parameters = columnPairs values

/-- The statement sets the first values in the rows that have the second ones, each value for its
own column. -/
structure Updates (d : Dialect) (schema : EntitySchema) (set key : List (ColumnDef × Value))
    (st : Statement) : Prop where
  text : st.sql = "UPDATE " ++ schemaTableName d schema.table ++ " SET " ++
    ", ".intercalate (equationTexts d 0 set) ++ " WHERE " ++
    " AND ".intercalate (equationTexts d set.length key)
  parameters : st.parameters = columnPairs set ++ columnPairs key

theorem texts_columnNames (d : Dialect) (values : List (ColumnDef × Value)) (n : Nat) :
    Fragment.texts d n (values.map fun (c, _) => [.text (d.identifier c.name)]) =
      columnNames d values := by
  induction values generalizing n with
  | nil => rfl
  | cons p rest ih =>
    rw [List.map_cons, Fragment.texts, ih, Fragment.sqlFrom_text, Fragment.sqlFrom_nil,
      String.append_empty]
    rfl

theorem texts_placeholders (d : Dialect) (values : List (ColumnDef × Value)) (n : Nat) :
    Fragment.texts d n (values.map fun (c, v) => [.parameter (.forColumn v c)]) =
      placeholders d n values.length := by
  induction values generalizing n with
  | nil => rfl
  | cons p rest ih =>
    rw [List.map_cons, Fragment.texts, ih, Fragment.sqlFrom_parameter, Fragment.sqlFrom_nil,
      String.append_empty]
    rfl

theorem texts_equations (d : Dialect) (values : List (ColumnDef × Value)) (n : Nat) :
    Fragment.texts d n (values.map fun (c, v) => equation d c.name (.forColumn v c)) =
      equationTexts d n values := by
  induction values generalizing n with
  | nil => rfl
  | cons p rest ih =>
    have first : (equation d p.1.name (.forColumn p.2 p.1)).sqlFrom d n =
        d.identifier p.1.name ++ " = " ++ d.placeholder (n + 1) := by
      rw [equation, Fragment.sqlFrom_text, Fragment.sqlFrom_parameter, Fragment.sqlFrom_nil,
        String.append_empty]
    rw [List.map_cons, Fragment.texts, ih, first]
    rfl

/-- Equations of columns with parameters are their texts with separators between them. -/
theorem sqlFrom_equations (d : Dialect) (separator : String) (values : List (ColumnDef × Value))
    (n : Nat) :
    (Fragment.separated separator
        (values.map fun (c, v) => equation d c.name (.forColumn v c))).sqlFrom d n =
      separator.intercalate (equationTexts d n values) := by
  rw [Fragment.sqlFrom_separated, texts_equations]
  intro f member
  obtain ⟨p, _, rfl⟩ := List.mem_map.1 member
  exact Fragment.writesNothing_of_word (by decide)

/-- **A row is inserted under its labels** when at least one of them names a column. -/
theorem exists_inserts (full : r.labels.length = r.values.length)
    (some : labeled r schema.columns ≠ []) :
    ∃ st, schema.compileInsert d r = .ok st ∧ Inserts d schema (labeled r schema.columns) st := by
  have compiled : schema.compileInsert d r = .ok (.change d
      (.text ("INSERT INTO " ++ schemaTableName d schema.table ++ " (") ::
        (Fragment.separated ", "
            ((labeled r schema.columns).map fun (c, _) => [.text (d.identifier c.name)]) ++
          .text ") VALUES (" ::
            (Fragment.separated ", "
                ((labeled r schema.columns).map fun (c, v) => [.parameter (.forColumn v c)]) ++
              [.text ")"])))) := by
    rw [compileInsert, present_eq full, bind_eq_ok]
    refine ⟨_, rfl, ?_⟩
    rw [List.isEmpty_eq_false_iff.2 some]
    rfl
  have names : ∀ f ∈ (labeled r schema.columns).map fun (c, _) =>
      [.text (d.identifier c.name)], Fragment.writesNothing f = false := by
    intro f member
    obtain ⟨p, _, rfl⟩ := List.mem_map.1 member
    simpa [Fragment.writesNothing, Piece.isEmpty] using d.identifier_ne_empty p.1.name
  have marks : ∀ f ∈ (labeled r schema.columns).map fun (c, v) =>
      [.parameter (.forColumn v c)], Fragment.writesNothing f = false := by
    intro f member
    obtain ⟨p, _, rfl⟩ := List.mem_map.1 member
    rfl
  have unbound : (Fragment.separated ", " ((labeled r schema.columns).map fun (c, _) =>
      [.text (d.identifier c.name)])).parameters = [] := by
    simp [List.flatMap_map]
  have bound := Fragment.parameters_separated_map ", "
    (fun (c, v) => [.parameter (.forColumn v c)]) (fun _ => rfl) (labeled r schema.columns)
  refine ⟨_, compiled, ?_, ?_⟩
  · rw [Statement.sql, Statement.change, Fragment.sql, Fragment.sqlFrom_text,
      Fragment.sqlFrom_append, Fragment.sqlFrom_text, Fragment.sqlFrom_append,
      Fragment.sqlFrom_separated d ", " names, Fragment.sqlFrom_separated d ", " marks,
      texts_columnNames, texts_placeholders, unbound]
    simp [String.append_assoc]
  · simp [Statement.parameters, Statement.change, unbound, bound, columnPairs]

/-! ## What an update sets -/

/-- The column an update sets for a column: the one its name means. -/
def assigned (schema : EntitySchema) (c : ColumnDef) : ColumnDef :=
  (schema.resolve? c.name).getD c

/-- An update sets a column itself exactly when the name does not cross. -/
theorem assigned_eq_self_iff {c : ColumnDef} (column : c ∈ schema.columns) :
    schema.assigned c = c ↔ schema.crosses c.name = false := by
  obtain ⟨b, meant⟩ := exists_resolve? (byName?_eq_some_iff.2 ⟨column, rfl⟩)
  rw [assigned, ← resolve?_name_eq_some_iff column, meant]
  exact Option.some_inj.symm

/-- An update that sets a column writes the name the column has exactly when the name does not
cross. -/
theorem assigned_name_eq_iff {c : ColumnDef} (column : c ∈ schema.columns) :
    (schema.assigned c).name = c.name ↔ schema.crosses c.name = false := by
  constructor
  · intro same
    obtain ⟨b, meant⟩ := exists_resolve? (byName?_eq_some_iff.2 ⟨column, rfl⟩)
    rw [assigned, meant] at same
    exact (sameName_of_resolve?_iff meant).1 (congrArg Text.lowerAscii same)
  · intro straight
    rw [(assigned_eq_self_iff column).2 straight]

theorem assignment_eq {c : ColumnDef} (column : c ∈ schema.columns) (v : Value) :
    assignment d schema c.name v =
      equation d (schema.assigned c).name (.forColumn v (schema.assigned c)) := by
  obtain ⟨b, meant⟩ := exists_resolve? (byName?_eq_some_iff.2 ⟨column, rfl⟩)
  rw [assignment, assigned, meant]
  rfl

/-- The values under the columns an update sets for theirs. -/
def assignedValues (schema : EntitySchema) (values : List (ColumnDef × Value)) :
    List (ColumnDef × Value) :=
  values.map fun p => (schema.assigned p.1, p.2)

/-- The columns outside the key. -/
def others (schema : EntitySchema) : List ColumnDef := schema.columns.filter fun c => !c.isKey

theorem mem_columns_of_labeled {columns : List ColumnDef} (own : ∀ c ∈ columns, c ∈ schema.columns)
    (full : r.labels.length = r.values.length) :
    ∀ p ∈ labeled r columns, p.1 ∈ schema.columns := by
  intro p member
  have chosen := List.mem_map_of_mem (f := Prod.fst) member
  rw [(gives_labeled full columns).columns_eq] at chosen
  exact own _ (List.mem_filter.1 chosen).1

/-- The assignments of a row set the columns that the names of its labeled columns mean. -/
theorem exists_updateHead_labeled (full : r.labels.length = r.values.length)
    (some : labeled r schema.others ≠ []) :
    ∃ head, updateHead d schema ((labeled r schema.others).map fun (c, v) => (c.name, v)) =
        .ok head ∧
      head = .text ("UPDATE " ++ schemaTableName d schema.table ++ " SET ") ::
        Fragment.separated ", " ((schema.assignedValues (labeled r schema.others)).map
          fun (c, v) => equation d c.name (.forColumn v c)) := by
  have columns : ∀ p ∈ labeled r schema.others, p.1 ∈ schema.columns :=
    mem_columns_of_labeled (fun c member => (List.mem_filter.1 member).1) full
  obtain ⟨head, begun⟩ : ∃ head, updateHead d schema
      ((labeled r schema.others).map fun (c, v) => (c.name, v)) = .ok head := by
    rw [updateHead, List.isEmpty_eq_false_iff.2 (by simpa using some)]
    exact ⟨_, rfl⟩
  refine ⟨head, begun, ?_⟩
  rw [updateHead_eq_ok begun, assignedValues, List.map_map, List.map_map]
  refine congrArg (fun members => _ :: Fragment.separated ", " members) ?_
  exact List.map_congr_left fun p member => assignment_eq (columns p member) p.2

/-- The values of a row under its key columns are tested by these. -/
theorem keyCondition_labeled (full : r.labels.length = r.values.length) (keyed : schema.key ≠ [])
    (located : schema.key.find? (fun c => !r.hasLabel c.name) = none) :
    schema.keyCondition d ((labeled r schema.key).map Prod.snd) =
      .ok (keyTest d (labeled r schema.key)) := by
  rw [keyCondition_eq, map_eq_ok]
  have zipped := List.zip_of_prod (map_fst_labeled full located) rfl
  refine ⟨_, keyValues_eq_ok_iff.2 ⟨keyed, ?_, zipped⟩, rfl⟩
  have columns := congrArg List.length (map_fst_labeled full located)
  rw [List.length_map] at columns ⊢
  exact columns.symm

/-- **A row is updated by its labels** when the schema has a key, every key column has a label, and
so does another column. -/
theorem exists_updates (full : r.labels.length = r.values.length) (keyed : schema.key ≠ [])
    (located : schema.key.find? (fun c => !r.hasLabel c.name) = none)
    (some : labeled r schema.others ≠ []) :
    ∃ st, schema.compileUpdateRow d r = .ok st ∧
      Updates d schema (schema.assignedValues (labeled r schema.others)) (labeled r schema.key)
        st := by
  obtain ⟨head, begun, equations⟩ := exists_updateHead_labeled (d := d) full some
  have bound := Fragment.parameters_separated_map ", "
    (fun (c, v) => equation d c.name (.forColumn v c)) (fun _ => rfl)
    (schema.assignedValues (labeled r schema.others))
  have head_parameters : head.parameters =
      columnPairs (schema.assignedValues (labeled r schema.others)) := by
    rw [equations, Fragment.parameters_text, bound]
    rfl
  have compiled : schema.compileUpdateRow d r =
      .ok (.change d (head ++ .text " WHERE " :: keyTest d (labeled r schema.key))) := by
    have key : schema.requireKey = .ok schema.key := by
      rw [requireKey, List.isEmpty_eq_false_iff.2 keyed]
      rfl
    have values : required r schema.key = .ok ((labeled r schema.key).map Prod.snd) := by
      rw [required_eq full, located]
    rw [compileUpdateRow, key]
    simp only [bind_eq_ok]
    exact ⟨_, rfl, _, values, _, present_eq full _, head, begun, _,
      keyCondition_labeled full keyed located, rfl⟩
  refine ⟨_, compiled, ?_, ?_⟩
  · rw [Change.sql_change, head_parameters, equations, Fragment.sql, Fragment.sqlFrom_text,
      sqlFrom_equations, keyTest, sqlFrom_equations, columnPairs, List.length_map]
  · rw [Change.parameters_change, head_parameters, parameters_keyTest]

/-- Equations that are written alike have the same left sides. -/
theorem names_eq_of_equations {α : Type} {separator : String} {name other : α → String}
    {pair pair' : α → Pair} {wrote : Bool} {n : Nat} {as : List α}
    (h : (Fragment.separatedAfter separator wrote
          (as.map fun a => equation d (name a) (pair a))).sqlFrom d n =
        (Fragment.separatedAfter separator wrote
          (as.map fun a => equation d (other a) (pair' a))).sqlFrom d n) :
    ∀ a ∈ as, name a = other a := by
  induction as generalizing wrote n with
  | nil => exact List.forall_mem_nil _
  | cons a as ih =>
    rw [List.map_cons, List.map_cons, equation, equation, sqlFrom_equation, sqlFrom_equation,
      String.append_right_inj] at h
    obtain ⟨first, rest⟩ := Dialect.identifier_inj h
    rw [String.append_right_inj] at rest
    exact List.forall_mem_cons.2 ⟨first, ih rest⟩

/-- **An update sets the columns themselves exactly when none of their names crosses.** -/
theorem updates_own_iff {set key : List (ColumnDef × Value)} {st : Statement}
    (columns : ∀ p ∈ set, p.1 ∈ schema.columns)
    (h : Updates d schema (schema.assignedValues set) key st) :
    Updates d schema set key st ↔ ∀ p ∈ set, schema.crosses p.1.name = false := by
  constructor
  · intro own p member
    have written := h.text
    rw [own.text, assignedValues, List.length_map] at written
    have same := (String.append_right_inj _).1
      ((String.append_left_inj _).1 ((String.append_left_inj _).1 written))
    rw [← sqlFrom_equations, ← sqlFrom_equations, List.map_map] at same
    exact (assigned_name_eq_iff (columns p member)).1 (names_eq_of_equations same p member).symm
  · intro straight
    have itself : schema.assignedValues set = set := by
      refine (List.map_congr_left fun p member => ?_).trans (List.map_id set)
      rw [(assigned_eq_self_iff (columns p member)).2 (straight p member)]
      rfl
    rwa [itself] at h

/-- **Statements from a labeled row.** An insertion needs a column with a label; it lists the
columns with a label in the order of the schema and binds the value of each one to it. An update
needs a key, a label for each key column and a label for another column, checked in this order; it
sets the other columns with a label, then tests the key columns, both in the order of the schema,
and binds the value of each one where it is written. What it sets is the column that the name of
each chosen column means; these are the chosen columns exactly when none of their names crosses. -/
theorem compileRow_columns (schema : EntitySchema) (r : Row)
    (full : r.labels.length = r.values.length) :
    ((∀ c ∈ schema.columns, r.hasLabel c.name = false) →
        schema.compileInsert d r = .error (.model (.nothingToInsert schema.table.name))) ∧
      ((∃ c ∈ schema.columns, r.hasLabel c.name = true) →
        ∃ values st, r.Gives schema.columns values ∧ schema.compileInsert d r = .ok st ∧
          Inserts d schema values st) ∧
      (schema.key = [] →
        schema.compileUpdateRow d r = .error (.schema (.noPrimaryKey schema.typeName))) ∧
      (∀ c, schema.key.find? (fun c => !r.hasLabel c.name) = some c →
        schema.compileUpdateRow d r = .error (.model (.missingKeyValue c.name))) ∧
      (schema.key ≠ [] → (∀ c ∈ schema.key, r.hasLabel c.name = true) →
        ((∀ c ∈ schema.others, r.hasLabel c.name = false) →
          schema.compileUpdateRow d r = .error (.model (.nothingToUpdate schema.table.name))) ∧
        ((∃ c ∈ schema.others, r.hasLabel c.name = true) →
          ∃ set key st, r.Gives schema.others set ∧ r.Gives schema.key key ∧
            key.map Prod.fst = schema.key ∧ schema.compileUpdateRow d r = .ok st ∧
            Updates d schema (schema.assignedValues set) key st ∧
            (Updates d schema set key st ↔ ∀ p ∈ set, schema.crosses p.1.name = false))) := by
  have chosen : ∀ {columns : List ColumnDef}, (∃ c ∈ columns, r.hasLabel c.name = true) →
      labeled r columns ≠ [] := by
    rintro columns ⟨c, member, label⟩ none
    rw [(labeled_eq_nil_iff full columns).1 none c member] at label
    cases label
  have keyColumns : schema.key ≠ [] → schema.requireKey = .ok schema.key := by
    intro keyed
    rw [requireKey, List.isEmpty_eq_false_iff.2 keyed]
    rfl
  refine ⟨fun unlabeled => ?_, fun some => ?_, fun keyless => ?_, fun c missing => ?_,
    fun keyed located => ⟨fun unlabeled => ?_, fun some => ?_⟩⟩
  · rw [compileInsert, present_eq full, (labeled_eq_nil_iff full _).2 unlabeled]
    rfl
  · obtain ⟨st, compiled, inserts⟩ := exists_inserts (d := d) full (chosen some)
    exact ⟨_, st, gives_labeled full _, compiled, inserts⟩
  · rw [compileUpdateRow, requireKey, keyless]
    rfl
  · have keyed : schema.key ≠ [] := by
      intro keyless
      rw [keyless] at missing
      cases missing
    rw [compileUpdateRow, keyColumns keyed, bind_eq_error]
    refine .inr ⟨_, rfl, bind_eq_error.2 (.inl ?_)⟩
    rw [required_eq full, missing]
  · have values : required r schema.key = .ok ((labeled r schema.key).map Prod.snd) := by
      rw [required_eq full, List.find?_eq_none.2 (by simpa using located)]
    rw [compileUpdateRow, keyColumns keyed, bind_eq_error]
    refine .inr ⟨_, rfl, bind_eq_error.2 (.inr ⟨_, values, bind_eq_error.2 (.inr ⟨_,
      present_eq full schema.others, bind_eq_error.2 (.inl ?_)⟩)⟩)⟩
    rw [(labeled_eq_nil_iff full _).2 unlabeled]
    rfl
  · have allLabeled : schema.key.find? (fun c => !r.hasLabel c.name) = none :=
      List.find?_eq_none.2 (by simpa using located)
    obtain ⟨st, compiled, updates⟩ := exists_updates (d := d) full keyed allLabeled (chosen some)
    refine ⟨_, _, st, gives_labeled full _, gives_labeled full _, map_fst_labeled full allLabeled,
      compiled, updates, updates_own_iff ?_ updates⟩
    exact mem_columns_of_labeled (fun c member => (List.mem_filter.1 member).1) full

/-- A person labeled in another order and in another case, with one label twice and one besides. -/
def relabeledSample : Row where
  labels := ["name", "EXTRA", "id", "NAME"]
  values := [.varchar (some "Ann"), .boolean (some true), .int .int64 (some (.clamp .int64 7)),
    .varchar (some "Bob")]

theorem compileRow_columns_personSample :
    ∃ inserted updated,
      personSample.compileInsert .postgres relabeledSample = .ok inserted ∧
      inserted.sql = "INSERT INTO PERSON (ID, NAME) VALUES ($1, $2)" ∧
      inserted.parameters.map (fun p => p.value) =
        [.int .int64 (some (.clamp .int64 7)), .varchar (some "Ann")] ∧
      personSample.compileUpdateRow .postgres relabeledSample = .ok updated ∧
      updated.sql = "UPDATE PERSON SET NAME = $1 WHERE ID = $2" ∧
      ∃ set key, relabeledSample.Gives personSample.others set ∧
        Updates .postgres personSample set key updated := by
  obtain ⟨_, _, _, _, both⟩ :=
    compileRow_columns (d := .postgres) personSample relabeledSample (by decide)
  obtain ⟨set, key, st, given, _, _, compiled, _, own⟩ :=
    (both (by decide) (by decide)).2 (by decide)
  have straight : ∀ p ∈ set, personSample.crosses p.1.name = false := by
    intro p member
    have chosen := List.mem_map_of_mem (f := Prod.fst) member
    rw [given.columns_eq] at chosen
    have clear : ∀ c ∈ personSample.columns, personSample.crosses c.name = false := by decide
    exact clear _ (List.mem_filter.1 (List.mem_filter.1 chosen).1).1
  exact ⟨_, st, rfl, by decide +kernel, rfl, compiled, by cases compiled; decide +kernel,
    set, key, given, own.2 straight⟩

/-- An update by key sets the key column, whose field is the name of the column it should set. -/
theorem compileRow_columns_crossedSample :
    ∃ updated,
      crossedSample.compileUpdateRow .generic
          ⟨["ID", "CODE"], [.int .int64 (some (.clamp .int64 1)),
            .int .int64 (some (.clamp .int64 2))]⟩ = .ok updated ∧
      crossedSample.others.map (fun c => c.name) = ["CODE"] ∧
      crossedSample.key.map (fun c => c.name) = ["ID"] ∧
      updated.sql = "UPDATE CROSSED SET ID = ? WHERE ID = ?" ∧
      updated.parameters.map (fun p => p.value) =
        [.int .int64 (some (.clamp .int64 2)), .int .int64 (some (.clamp .int64 1))] := by
  refine ⟨_, rfl, rfl, rfl, by decide +kernel, rfl⟩

end EntitySchema

end EntitySql
