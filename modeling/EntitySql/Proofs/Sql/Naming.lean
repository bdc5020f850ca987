import EntitySql.Proofs.Sql.Mentions
import EntitySql.Proofs.Sql.Operation

/-!
# Names in statements

What each operation mentions, told from its data alone: a query its names, aliases and verbatim
texts, with those of the order in which its rows are numbered; a change its table, the columns that
are set, inserted or tested, and what its condition mentions.

Every compiled statement is spelled with the mentions of its operation. So each name stands in it as
one identifier and reads back as the name, whatever its characters are and whichever word it is.
Aliases of tables are written as they are; an alias reads back exactly when it needs no quotes
(`Operation.compile_readsBack`).
-/

namespace EntitySql

set_option autoImplicit false

open Outcome

variable {d : Dialect} {s : Scope} {f : Fragment} {ms : List Mention}

/-! ## Mentions of paged queries -/

namespace Query

variable {q : Query} {w : PageWindow}

/-- The mentions of a term that orders the rows of a derived table. -/
def derivedMentions (d : Dialect) (s : Scope) (columns : List Column) (o : Ordered) :
    List Mention :=
  match columns.find? fun c => c.label != "" && c.sameExpression o.column with
  | some c => [.name c.label]
  | none => o.column.mentions d { s with qualify := false }

/-- The mentions of the order in which rows are numbered. -/
def numberingMentions (d : Dialect) (s : Scope) (q : Query) : List Mention :=
  if q.distinct then q.orderBy.flatMap (derivedMentions d s (selected q.columns q.orderBy))
  else q.orderBy.flatMap fun o => o.column.mentions d s

/-- The mentions of a query of numbered rows: its order is that of the numbers, before the query if
it is distinct, else the last of its columns. -/
def numberedMentions (d : Dialect) (s : Scope) (q : Query) : List Mention :=
  if q.distinct then
    q.numberingMentions d s ++ q.mentions d s { SelectOptions.standard with unordered := true } []
  else
    q.mentions d s { SelectOptions.standard with unordered := true } (q.numberingMentions d s)

/-- The mentions of a query or of a window of its rows. -/
def pagedMentions (d : Dialect) (s : Scope) (q : Query) (window : Option PageWindow) :
    List Mention :=
  match window, d.pagination with
  | some _, .rowNumber => q.numberedMentions d s
  | _, _ => q.mentions d s .standard []

theorem mentions_numberOptions (order : String) (extra : List Mention) :
    q.mentions d s (numberOptions order) extra =
      q.mentions d s { SelectOptions.standard with unordered := true } extra := by
  cases q
  rfl

theorem mentions_directOptions :
    q.mentions d s (directOptions w) [] = q.mentions d s .standard [] := by
  cases q
  rfl

theorem spells_derivedTerm {columns : List Column} {o : Ordered} {t : String}
    (h : derivedTerm d s columns o = .ok t) : Spells d (derivedMentions d s columns o) t := by
  unfold derivedTerm at h
  unfold derivedMentions
  cases found : columns.find? fun c => c.label != "" && c.sameExpression o.column with
  | some c =>
    rw [found] at h
    cases h
    refine (Spells.name c.label).trailed ?_
    cases o.direction <;> exact .word rfl rfl
  | none =>
    rw [found] at h
    exact Ordered.spells_render h

theorem spells_numberingOrder {order : String} (h : q.numberingOrder d s = .ok order) :
    Spells d (q.numberingMentions d s) order := by
  unfold numberingOrder at h
  unfold numberingMentions
  split at h
  · rename_i none
    cases h
    simp only [List.isEmpty_iff.1 none, List.flatMap_nil, ite_self]
    exact .text (neutral_word rfl rfl)
  · split at h
    · rename_i distinct
      obtain ⟨texts, rendered, rfl⟩ := map_eq_ok.1 h
      rw [if_pos distinct, List.flatMap_def]
      exact (Spells.intercalate (.word rfl rfl) (.word rfl rfl)
        (forall₂_of_mapM rendered fun _ _ => spells_derivedTerm)).led (.word rfl rfl)
    · rename_i plain
      rw [if_neg plain]
      exact spells_orderClause h

theorem spells_numberColumn {order : String} (h : Spells d ms order) :
    Spells d ms (numberColumn order) :=
  (h.led (.word rfl rfl)).trailed (.word rfl rfl)

theorem spelled_renderNumbered (h : q.renderNumbered d s = .ok f) :
    Fragment.Spelled d (q.numberedMentions d s) f := by
  obtain ⟨order, found, form⟩ := renderNumbered_eq_ok_iff.1 h
  have numbers := spells_numberColumn (spells_numberingOrder found)
  unfold numberedMentions
  rcases form with ⟨distinct, body, written, rfl⟩ | ⟨plain, written⟩
  · rw [if_pos distinct]
    have inside := q.spelled_render written (SelectOptions.spelled_of_plain rfl rfl)
    have list := numbers.led (w := "SELECT d_.*, ") (.word rfl rfl)
    exact .linked list (.word rfl rfl) (.word rfl rfl) (inside.trailed (.word rfl rfl))
  · rw [if_neg (by simp [plain])]
    have added : (numberOptions order).Spelled d (q.numberingMentions d s) := by
      refine ⟨?_, nofun, nofun⟩
      rintro _ ⟨⟩
      exact numbers
    have body := q.spelled_render written added
    rwa [mentions_numberOptions] at body

theorem spelled_renderLimited (h : q.renderLimited d s w = .ok f) :
    Fragment.Spelled d (q.mentions d s .standard []) f := by
  obtain ⟨body, written, rfl⟩ := renderLimited_eq_ok_iff.1 h
  have offset : Fragment.Spelled d []
      [.text " OFFSET ", .parameter (.ofValue (countValue w.offset))] :=
    .led (.word rfl rfl) (.parameter _)
  have limit := ((Fragment.Spelled.parameter (d := d) (.ofValue (countValue w.size))).append offset
    (Fragment.opens_text (.word rfl rfl) _)).led (w := " LIMIT ") (.word rfl rfl)
  have whole := (q.spelled_render written (SelectOptions.spelled_of_plain rfl rfl)).append limit
    (Fragment.opens_text (.word rfl rfl) _)
  rwa [List.append_nil, List.append_nil] at whole

theorem spelled_renderRowNumber (h : q.renderRowNumber d s w = .ok f) :
    Fragment.Spelled d (q.numberedMentions d s) f := by
  obtain ⟨body, written, rfl⟩ := renderRowNumber_eq_ok_iff.1 h
  have top : Neutral d ("SELECT TOP " ++ toString w.size.toNat).toList := by
    rw [String.toList_append]
    exact (neutral_word rfl rfl).append (neutral_count _)
  exact Fragment.Spelled.enclosed (.behind top (.word rfl rfl))
    (((Trails.word rfl rfl).append_count _).append (neutral_word rfl rfl))
    (spelled_renderNumbered written)

theorem spelled_renderPseudoOrdered (h : q.renderPseudoOrdered d s w = .ok f) :
    Fragment.Spelled d (q.mentions d s .standard []) f := by
  obtain ⟨body, written, rfl⟩ := renderPseudoOrdered_eq_ok_iff.1 h
  exact Fragment.Spelled.enclosed (.word rfl rfl)
    ((((Trails.word rfl rfl).append_count _).append (neutral_word rfl rfl)).append_count _)
    (q.spelled_render written (SelectOptions.spelled_of_plain rfl rfl))

theorem spelled_renderPseudoDirect (h : q.renderPseudoDirect d s w = .ok f) :
    Fragment.Spelled d (q.mentions d s .standard []) f := by
  obtain ⟨body, written, rfl⟩ := renderPseudoDirect_eq_ok_iff.1 h
  have added : (directOptions w).Spelled d [] := by
    refine ⟨?_, nofun, ?_⟩
    · rintro _ ⟨⟩
      exact .text (neutral_word rfl rfl)
    · rintro _ ⟨⟩
      refine .text ?_
      rw [String.toList_append]
      exact (neutral_word rfl rfl).append (neutral_count _)
  have inside := q.spelled_render written added
  rw [mentions_directOptions] at inside
  exact Fragment.Spelled.enclosed (.word rfl rfl) ((Trails.word rfl rfl).append_count _) inside

theorem spelled_renderPseudoWrapped (h : q.renderPseudoWrapped d s w = .ok f) :
    Fragment.Spelled d (q.mentions d s .standard []) f := by
  obtain ⟨body, written, rfl⟩ := renderPseudoWrapped_eq_ok_iff.1 h
  exact Fragment.Spelled.enclosed (.word rfl rfl)
    ((((Trails.word rfl rfl).append_count _).append (neutral_word rfl rfl)).append_count _)
    (q.spelled_render written (SelectOptions.spelled_of_plain rfl rfl))

/-- **A paged query is spelled with its mentions.** -/
theorem spelled_renderPaged {state : PageState} (h : q.renderPaged d s state = .ok f) :
    Fragment.Spelled d (q.pagedMentions d s state.window?) f := by
  unfold renderPaged at h
  unfold pagedMentions
  split at h
  · rename_i unpaged
    rw [unpaged]
    exact q.spelled_render h (SelectOptions.spelled_of_plain rfl rfl)
  · rename_i paged
    rw [paged]
    split at h
    · rename_i limited
      rw [limited]
      exact spelled_renderLimited h
    · rename_i numbered
      rw [numbered]
      exact spelled_renderRowNumber h
    · rename_i pseudo
      rw [pseudo]
      split at h
      · exact spelled_renderPseudoOrdered h
      · split at h
        · exact spelled_renderPseudoDirect h
        · exact spelled_renderPseudoWrapped h

end Query

/-! ## Mentions of operations -/

namespace EntitySchema

/-- The name that an assignment is written with. -/
def assignedName (schema : EntitySchema) (name : String) : String :=
  match schema.resolve? name with
  | some c => c.name
  | none => name

/-- The names of columns. -/
def columnMentions (values : List (ColumnDef × Value)) : List Mention :=
  values.map fun (c, _) => .name c.name

/-- The mentions of an update up to its condition. -/
def updateMentions (schema : EntitySchema) (names : List String) : List Mention :=
  schema.table.mentions ++ names.map fun name => .name (schema.assignedName name)

end EntitySchema

/-- The mentions of a query that stands alone, or of a window of its rows. -/
def Query.ownMentions (d : Dialect) (q : Query) (window : Option PageWindow) : List Mention :=
  match Scope.ofQuery q with
  | .ok s => q.pagedMentions d s window
  | .error _ => []

/-- The mentions of a query whose rows are counted. -/
def Query.countMentions (d : Dialect) (q : Query) : List Mention :=
  match Scope.ofQuery q with
  | .ok s =>
    q.mentions d s
      (if q.countsDerived then { SelectOptions.standard with unordered := true }
        else { SelectOptions.standard with count := true }) []
  | .error _ => []

/-- What an operation mentions, in the order of its statement. -/
def Operation.mentions (d : Dialect) : Operation → List Mention
  | select q window => q.ownMentions d window
  | count q => q.countMentions d
  | insert schema r =>
    schema.table.mentions ++
      EntitySchema.columnMentions (EntitySchema.presentValues r schema.columns)
  | update schema assignments filter =>
    schema.updateMentions (assignments.map Prod.fst) ++
      (Node.allMentions d (.ofSchema schema) filter).flatten
  | updateRow schema r =>
    schema.updateMentions
        ((EntitySchema.presentValues r (schema.columns.filter fun c => !c.isKey)).map
          fun (c, _) => c.name) ++
      EntitySchema.columnMentions (schema.key.zip (schema.keyOf r))
  | delete schema filter =>
    schema.table.mentions ++ (Node.allMentions d (.ofSchema schema) filter).flatten
  | deleteKey schema key =>
    schema.table.mentions ++ EntitySchema.columnMentions (schema.key.zip key)
  | find schema key => (schema.findQuery key).ownMentions d none

/-! ## Statements are spelled with their mentions -/

namespace EntitySchema

variable {schema : EntitySchema}

theorem spelled_equation (name : String) (p : Pair) :
    Fragment.Spelled d [.name name] (equation d name p) :=
  spelled_parameter (.name name) (.word rfl rfl) (.word rfl rfl) p

/-- Fragments made from the members of a list, each with one mention. -/
theorem spelled_members {α : Type} {word : String} (trails : Trails d word) (leads : Leads d word)
    {mention : α → Mention} {write : α → Fragment} (members : List α)
    (each : ∀ a, Fragment.Spelled d [mention a] (write a)) :
    Fragment.Spelled d (members.map mention) (Fragment.separated word (members.map write)) := by
  have pairs : List.Forall₂ (Fragment.Spelled d) (members.map fun a => [mention a])
      (members.map write) := by
    rw [List.forall₂_map_left_iff, List.forall₂_map_right_iff, List.forall₂_same]
    exact fun a _ => each a
  have whole := Fragment.Spelled.separated trails leads pairs
  rwa [← List.flatMap_def, ← List.map_eq_flatMap] at whole

theorem spelled_assignment (name : String) (v : Value) :
    Fragment.Spelled d [.name (schema.assignedName name)] (assignment d schema name v) := by
  unfold assignedName assignment
  cases schema.resolve? name with
  | some c => exact spelled_equation c.name _
  | none => exact spelled_equation name _

theorem spelled_updateHead {assignments : List (String × Value)}
    (h : updateHead d schema assignments = .ok f) :
    Fragment.Spelled d (schema.updateMentions (assignments.map Prod.fst)) f := by
  rw [updateHead_eq_ok h, updateMentions, List.map_map]
  have head : Spells d schema.table.mentions ("UPDATE " ++ schemaTableName d schema.table) :=
    (spells_schemaTableName schema.table).led (.word rfl rfl)
  exact .linked head (.word rfl rfl) (.word rfl rfl) (spelled_members (.word rfl rfl)
    (.word rfl rfl) assignments fun a => spelled_assignment a.1 a.2)

theorem spelled_deleteHead :
    Fragment.Spelled d schema.table.mentions (deleteHead d schema) :=
  .single ((spells_schemaTableName schema.table).led (.word rfl rfl))

theorem spelled_keyTest (key : List (ColumnDef × Value)) :
    Fragment.Spelled d (columnMentions key) (keyTest d key) :=
  spelled_members (.word rfl rfl) (.word rfl rfl) key fun _ => spelled_equation _ _

theorem spelled_condition {filter : Condition} (h : Condition.render d s filter = .ok f) :
    Fragment.Spelled d (Node.allMentions d s filter).flatten f := by
  obtain ⟨nodes, written, rfl⟩ := Condition.render_eq_ok_iff.1 h
  exact .chained (Node.spelled_renderAll filter written)

/-- A head and a test after the keyword between them. -/
theorem spelled_where {head test : Fragment} {ns : List Mention}
    (first : Fragment.Spelled d ms head) (second : Fragment.Spelled d ns test) :
    Fragment.Spelled d (ms ++ ns) (head ++ .text " WHERE " :: test) :=
  first.append (second.led (.word rfl rfl)) (Fragment.opens_text (.word rfl rfl) _)

end EntitySchema

theorem Query.spelled_compile {q : Query} {window : Option PageWindow} {st : Statement}
    (h : q.compile d window = .ok st) :
    Fragment.Spelled d (q.ownMentions d window) st.body ∧ st.dialect = d := by
  obtain ⟨s, body, scope, written, rfl⟩ := compile_eq_ok_iff.1 h
  have spelled := spelled_renderPaged written
  rw [PageState.window_ofWindow] at spelled
  rw [ownMentions, scope]
  exact ⟨spelled, rfl⟩

theorem Query.spelled_compileCount {q : Query} {st : Statement} (h : q.compileCount d = .ok st) :
    Fragment.Spelled d (q.countMentions d) st.body ∧ st.dialect = d := by
  obtain ⟨s, body, scope, ⟨derived, written, rfl⟩ | ⟨plain, written, rfl⟩⟩ := compileCount_eq_ok h
  · have inside := q.spelled_render written (SelectOptions.spelled_of_plain rfl rfl)
    rw [countMentions, scope, derived]
    exact ⟨inside.enclosed (.word rfl rfl) (.word rfl rfl), rfl⟩
  · rw [countMentions, scope, plain]
    exact ⟨q.spelled_render written (SelectOptions.spelled_of_plain rfl rfl), rfl⟩

/-- **A compiled statement is spelled with the mentions of its operation.** -/
theorem Operation.spelled_compile {st : Statement} : ∀ {op : Operation}, op.compile d = .ok st →
    Fragment.Spelled d (op.mentions d) st.body ∧ st.dialect = d
  | select q window, h => Query.spelled_compile h
  | count q, h => Query.spelled_compileCount h
  | insert schema r, h => by
    obtain ⟨values, found, rfl⟩ := EntitySchema.compileInsert_eq_ok h
    have head : Spells d schema.table.mentions ("INSERT INTO " ++ schemaTableName d schema.table) :=
      (spells_schemaTableName schema.table).led (.word rfl rfl)
    have names : Fragment.Spelled d (EntitySchema.columnMentions values)
        (Fragment.separated ", " (values.map fun (c, _) => [.text (d.identifier c.name)])) :=
      EntitySchema.spelled_members (.word rfl rfl) (.word rfl rfl) values
        fun cv => .single (.name cv.1.name)
    have marks := spelled_parameters (d := d) (values.map fun (c, v) => Pair.forColumn v c)
    rw [List.map_map] at marks
    have rest := names.append ((marks.trailed (w := ")") (.word rfl rfl)).led (w := ") VALUES (")
      (.word rfl rfl)) (Fragment.opens_text (.word rfl rfl) _)
    rw [List.append_nil] at rest
    rw [mentions, EntitySchema.presentValues, found]
    exact ⟨.linked head (.word rfl rfl) (.word rfl rfl) rest, rfl⟩
  | update schema assignments filter, h => by
    obtain ⟨head, condition, hh, hc, rfl⟩ := EntitySchema.compileUpdate_eq_ok h
    exact ⟨EntitySchema.spelled_where (EntitySchema.spelled_updateHead hh)
      (EntitySchema.spelled_condition hc), rfl⟩
  | updateRow schema r, h => by
    obtain ⟨values, others, head, hv, ho, hh, _, rfl⟩ := EntitySchema.compileUpdateRow_eq_ok h
    have start := EntitySchema.spelled_updateHead hh
    rw [List.map_map] at start
    rw [mentions, EntitySchema.presentValues, EntitySchema.keyOf, hv, ho]
    exact ⟨EntitySchema.spelled_where start (EntitySchema.spelled_keyTest _), rfl⟩
  | delete schema filter, h => by
    obtain ⟨condition, hc, rfl⟩ := EntitySchema.compileDelete_eq_ok h
    exact ⟨EntitySchema.spelled_where EntitySchema.spelled_deleteHead
      (EntitySchema.spelled_condition hc), rfl⟩
  | deleteKey schema key, h => by
    obtain ⟨_, rfl⟩ := EntitySchema.compileDeleteKey_eq_ok h
    exact ⟨EntitySchema.spelled_where EntitySchema.spelled_deleteHead
      (EntitySchema.spelled_keyTest _), rfl⟩
  | find schema key, h => Query.spelled_compile (EntitySchema.compileFind_eq_ok h)

/-! ## Names read back -/

namespace Operation

/-- **Each name that an operation mentions stands in its statement as one identifier and reads back
as the name,** between separators and outside of the quotes of other names. An alias of a table
reads back exactly when it needs no quotes. Only aliases and verbatim texts before a mention can
leave a quote open. -/
theorem compile_readsBack {op : Operation} {st : Statement} (h : op.compile d = .ok st) :
    ∃ parts, Part.write d parts = st.sql.toList ∧ Part.mentions parts = op.mentions d ∧
      ∀ before m after, parts = before ++ .mention m :: after →
        (∀ s, m = .name s → m.ReadsAs d (Part.write d before) (Part.write d after) s) ∧
        (∀ s, m = .tableAlias s →
          (m.ReadsAs d (Part.write d before) (Part.write d after) s ↔ needsQuoting s = false)) ∧
        ((∀ k ∈ Part.mentions before, k.Closing d) → Neutral d (Part.write d before)) := by
  obtain ⟨spelled, dialect⟩ := spelled_compile h
  obtain ⟨parts, mentioned, written, spaced, neutral⟩ := spelled 0
  refine ⟨parts, by rw [written, Statement.sql, dialect, Fragment.sql], mentioned, ?_⟩
  intro before m after split
  refine ⟨?_, ?_, fun closing => Part.neutral_write (fun cs member => neutral cs ?_) closing⟩
  · rintro s rfl
    exact spaced.readsAs_name split
  · rintro s rfl
    exact spaced.readsAs_tableAlias_iff split
  · rw [split]
    exact List.mem_append_left _ member

/-- Titles of books, with names that are reserved or not plain. -/
def titlesSample : Operation :=
  .select
    { (Query.empty 0).selectFrom ⟨"b0", .named "app.ORDER"⟩ with
      columns := [{ Column.ofName "first \"title\"" with label := "select" }]
      filter := [.predicate .and (.isNull (.ofName "PRICE") true)] } none

theorem compile_readsBack_titlesSample :
    titlesSample.mentions .generic = [.tableAlias "b0", .name "first \"title\"", .name "select",
      .name "app", .name "ORDER", .tableAlias "b0", .tableAlias "b0", .name "PRICE"] ∧
    ∃ parts, Part.write .generic parts =
        ("SELECT b0.\"first \"\"title\"\"\" AS \"select\" FROM app.\"ORDER\" b0 " ++
          "WHERE b0.PRICE IS NOT NULL").toList ∧
      Part.mentions parts = titlesSample.mentions .generic ∧
      ∀ before m after, parts = before ++ .mention m :: after →
        (∀ s, m = .name s →
          m.ReadsAs .generic (Part.write .generic before) (Part.write .generic after) s) ∧
        (∀ s, m = .tableAlias s →
          (m.ReadsAs .generic (Part.write .generic before) (Part.write .generic after) s ↔
            needsQuoting s = false)) ∧
        ((∀ k ∈ Part.mentions before, k.Closing .generic) →
          Neutral .generic (Part.write .generic before)) := by
  refine ⟨by decide +kernel, ?_⟩
  obtain ⟨st, compiled⟩ : ∃ st, titlesSample.compile .generic = .ok st := ⟨_, rfl⟩
  obtain ⟨parts, written, rest⟩ := compile_readsBack compiled
  have text : (titlesSample.compile .generic).map Statement.sql =
      .ok ("SELECT b0.\"first \"\"title\"\"\" AS \"select\" FROM app.\"ORDER\" b0 " ++
        "WHERE b0.PRICE IS NOT NULL") := by rfl
  rw [compiled] at text
  exact ⟨parts, written.trans (congrArg String.toList (Except.ok.inj text)), rest⟩

/-- A table whose alias is a reserved word. -/
def orderSample : Operation :=
  .select { (Query.empty 0).selectFrom ⟨"order", .named "USERS"⟩ with
    columns := [.ofName "NAME"] } none

/-- The alias is written as it is, where it is declared and where it qualifies a column, and is
read as an identifier in neither place. -/
theorem compile_readsBack_orderSample :
    ∃ st, orderSample.compile .generic = .ok st ∧
      st.sql = "SELECT order.NAME FROM USERS order" ∧
      orderSample.mentions .generic =
        [.tableAlias "order", .name "NAME", .name "USERS", .tableAlias "order"] ∧
      Dialect.generic.readIdentifier? "order.NAME FROM USERS order".toList = none ∧
      Dialect.generic.readIdentifier? "order".toList = none ∧
      Dialect.generic.identifier "order" = "\"order\"" := by
  refine ⟨_, rfl, ?_, ?_, ?_, ?_, ?_⟩ <;> decide +kernel

end Operation

end EntitySql
