import EntitySql.Proofs.Paging.Forms
import EntitySql.Proofs.Schema.Names
import EntitySql.Proofs.Sql.Course

/-!
# Names in the order of numbered rows

Where rows are numbered, the order of the query is written into a window function. The names in it
are looked up in the selection that carries the function: in the query itself among the columns of
its tables, and never among its own labels; around a distinct query, which is then a derived table,
among the names of its results.

**Names.** An expression is written with the names of its references, each one behind the alias of
its table or bare (`Column.writtenNames`), and no others (`Column.IsWritten`); literals and raw
texts count as none. What columns a table has is known to the database alone, so it is a parameter.

**In the query itself** the names of a term are found exactly when the term is an expression over
the tables. A term that is only the label of a selected column is written as that label, which is
not found.

**Around a distinct query** a term is written as the label of the selected column with the same
expression, or without aliases. A label is always found. The other names are found when they are
those of results; that is so for every reference and every label, where the wildcards that are
selected stand alone and no field is called otherwise than its column. A computed term without label
has no name.
-/

namespace EntitySql

set_option autoImplicit false

open Outcome

variable {d : Dialect} {s : Scope}

/-! ## Names as they are written -/

/-- A name behind the alias of its table, which is empty for a bare name. -/
structure WrittenName where
  qualifier : String
  name : String
deriving DecidableEq, Repr

namespace WrittenName

/-- The text of the name. -/
def text (d : Dialect) (n : WrittenName) : String :=
  (if n.qualifier != "" then n.qualifier ++ "." else "") ++ d.identifier n.name

end WrittenName

/-- The name of the column that a name means, which is that name itself for an unknown one. -/
def Scope.nameOf (s : Scope) (aliasName name : String) : String :=
  match s.columnDef? aliasName name with
  | some column => column.name
  | none => name

namespace Column

/-- The name that the base of a column is written with, if it is a named reference. -/
def writtenName? (s : Scope) (c : Column) : Option WrittenName :=
  if c.isNamed then
    match s.qualifierOf c with
    | .ok aliasName => some ⟨if s.qualify then aliasName else "", s.nameOf aliasName c.name⟩
    | .error _ => none
  else none

/-- The names in the expression of a column. -/
def writtenNames (s : Scope) (c : Column) : List WrittenName :=
  c.operands.flatMap fun o => (o.writtenName? s).toList

theorem target_eq {c : Column} (named : c.isNamed = true) (qualifier : String) :
    c.target d s qualifier = d.identifier (s.nameOf qualifier c.name) := by
  rw [target, Scope.nameOf, isWildcard_of_isNamed named, if_neg Bool.false_ne_true]
  cases s.columnDef? qualifier c.name <;> rfl

/-- An operand of an expression is written as its name, if it is a named reference. -/
def WrittenAs (d : Dialect) (s : Scope) (c : Column) (t : String) : Prop :=
  match c.writtenName? s with
  | some n => t = n.text d
  | none => c.isNamed = false ∧ c.base d s = .ok t

/-- The expression of a column from the texts of its operands. -/
def assemble (d : Dialect) : Column → List String → String
  | ⟨function, _, _, _, _, _, none⟩, texts => applied function (texts.headD "")
  | ⟨function, _, _, _, _, _, some (op, other)⟩, texts =>
    applied function
      (if op.isUnary then d.complement (texts.headD "")
        else d.binary op (texts.headD "") (assemble d other texts.tail))
  termination_by structural c => c

/-- The text is the expression of a column with its names in it, and no others: what it has besides
are operators, functions and operands without names. -/
def IsWritten (d : Dialect) (s : Scope) (c : Column) (t : String) : Prop :=
  ∃ texts, List.Forall₂ (WrittenAs d s) c.operands texts ∧ c.assemble d texts = t

theorem writtenAs_of_base {c : Column} {t : String} (h : c.base d s = .ok t) :
    c.WrittenAs d s t := by
  unfold WrittenAs writtenName?
  cases named : c.isNamed with
  | false => exact ⟨rfl, h⟩
  | true =>
    rw [base_of_isReference (isReference_of_isNamed named)] at h
    obtain ⟨qualifier, found, rfl⟩ := map_eq_ok.1 h
    rw [if_pos rfl, found, reference_eq, target_eq named]
    show _ = WrittenName.text d _
    rw [WrittenName.text]
    cases s.qualify <;> rfl

/-- **An expression is written with its names.** -/
theorem isWritten_of_render : ∀ (c : Column) {t : String}, c.render d s = .ok t → c.IsWritten d s t
  | ⟨function, qualifier, name, label, value, raw, none⟩, t, h => by
    rw [render] at h
    obtain ⟨a, first, rest⟩ := bind_eq_ok.1 h
    cases pure_eq_ok.1 rest
    refine ⟨[a], ?_, rfl⟩
    rw [operands]
    exact .cons (writtenAs_of_base first) .nil
  | ⟨function, qualifier, name, label, value, raw, some (op, other)⟩, t, h => by
    rw [render_operation] at h
    obtain ⟨a, first, rest⟩ := bind_eq_ok.1 h
    cases unary : op.isUnary with
    | true =>
      rw [unary, if_pos rfl] at rest
      cases rest
      refine ⟨[a], ?_, ?_⟩
      · rw [operands, unary, if_pos rfl]
        exact .cons (writtenAs_of_base first) .nil
      · rw [assemble, unary, if_pos rfl]
        rfl
    | false =>
      rw [unary, if_neg Bool.false_ne_true] at rest
      obtain ⟨b, second, rfl⟩ := map_eq_ok.1 rest
      obtain ⟨texts, others, rfl⟩ := isWritten_of_render other second
      refine ⟨a :: texts, ?_, ?_⟩
      · rw [operands, unary, if_neg Bool.false_ne_true]
        exact .cons (writtenAs_of_base first) others
      · rw [assemble, unary, if_neg Bool.false_ne_true]
        rfl

end Column

/-! ## The text of the order -/

namespace Query

variable {q : Query} {w : PageWindow} {st : Statement}

/-- The selected column that has a label and is the same expression as the term. -/
def labeledTerm? (q : Query) (o : Ordered) : Option Column :=
  (selected q.columns q.orderBy).find? fun c => c.label != "" && c.sameExpression o.column

/-- The names that a term is written with in the order of the numbers. -/
def numberingNames (q : Query) (o : Ordered) : List WrittenName :=
  if q.distinct then
    match q.labeledTerm? o with
    | some c => [⟨"", c.label⟩]
    | none => o.column.writtenNames { Scope.along [q] with qualify := false }
  else o.column.writtenNames (Scope.along [q])

/-- The text of a term in the order of the numbers. -/
def numberingTerm (d : Dialect) (q : Query) (o : Ordered) : Except Error String :=
  if q.distinct then derivedTerm d (Scope.along [q]) (selected q.columns q.orderBy) o
  else o.render d (Scope.along [q])

/-- The text is the term with its names in it, before its direction. -/
def WritesTerm (d : Dialect) (q : Query) (o : Ordered) (t : String) : Prop :=
  ∃ e, e ++ o.direction.word = t ∧
    if q.distinct then
      match q.labeledTerm? o with
      | some c => d.identifier c.label = e
      | none => o.column.IsWritten d { Scope.along [q] with qualify := false } e
    else o.column.IsWritten d (Scope.along [q]) e

theorem writesTerm_of_numberingTerm {o : Ordered} {t : String} (h : q.numberingTerm d o = .ok t) :
    q.WritesTerm d o t := by
  unfold numberingTerm at h
  unfold WritesTerm
  cases distinct : q.distinct with
  | false =>
    rw [distinct, if_neg Bool.false_ne_true] at h
    obtain ⟨e, rendered, same⟩ := map_eq_ok.1 h
    exact ⟨e, same, o.column.isWritten_of_render rendered⟩
  | true =>
    rw [distinct, if_pos rfl, derivedTerm, ← labeledTerm?] at h
    simp only [if_true]
    cases found : q.labeledTerm? o with
    | none =>
      rw [found] at h
      obtain ⟨e, rendered, same⟩ := map_eq_ok.1 h
      exact ⟨e, same, o.column.isWritten_of_render rendered⟩
    | some c =>
      rw [found] at h
      cases h
      exact ⟨_, rfl, rfl⟩

/-- The order by the terms. -/
def orderText (terms : List String) : String := "ORDER BY " ++ String.intercalate ", " terms

/-- The order of the numbers is that of the terms of the query. -/
theorem numberingOrder_eq (ordered : q.orderBy ≠ []) :
    q.numberingOrder d (Scope.along [q]) =
      (q.orderBy.mapM (q.numberingTerm d)).map orderText := by
  rw [numberingOrder, List.isEmpty_eq_false_iff.2 ordered, if_neg Bool.false_ne_true]
  cases distinct : q.distinct with
  | true =>
    have term : q.numberingTerm d =
        derivedTerm d (Scope.along [q]) (selected q.columns q.orderBy) := by
      funext o
      rw [numberingTerm, distinct, if_pos rfl]
    rw [if_pos rfl, term]
    rfl
  | false =>
    have term : q.numberingTerm d = fun o => o.render d (Scope.along [q]) := by
      funext o
      rw [numberingTerm, distinct, if_neg Bool.false_ne_true]
    rw [if_neg Bool.false_ne_true, term]
    rfl

/-- **The order of numbered rows has a term for each one of the query.** It stands in the query
itself, or in a selection from a distinct query. -/
theorem exists_numberingTerms (numbers : d.pagination = .rowNumber) (ordered : q.orderBy ≠ [])
    (h : q.compile d (some w) = .ok st) :
    ∃ terms inner, List.Forall₂ (fun o t => q.numberingTerm d o = .ok t) q.orderBy terms ∧
      st.body = PagedForm.topText w.size.toNat w.offset.toNat inner ∧
      (q.distinct = false →
        q.render d (Scope.along [q]) (numberOptions (orderText terms)) = .ok inner) ∧
      (q.distinct = true → ∃ derived,
        q.render d (Scope.along [q]) { SelectOptions.standard with unordered := true } =
          .ok derived ∧
        inner = .text ("SELECT d_.*, " ++ numberColumn (orderText terms) ++ " FROM (") ::
          (derived ++ [.text ") d_"])) := by
  obtain ⟨s, body, scope, written, rfl⟩ := compile_eq_ok_iff.1 h
  obtain ⟨_, rfl⟩ :=
    Scope.inside_along (show (Scope.along []).inside q = .ok s from Scope.ofQuery_eq q ▸ scope)
  have numbered : q.renderRowNumber d (Scope.along [q]) w = .ok body := by
    rw [renderPaged, List.isEmpty_eq_false_iff.2 ordered] at written
    simpa [PageState.ofWindow, PageState.window?, numbers] using written
  obtain ⟨inner, inside, rfl⟩ := renderRowNumber_eq_ok_iff.1 numbered
  obtain ⟨order, ordering, form⟩ := renderNumbered_eq_ok_iff.1 inside
  rw [numberingOrder_eq ordered] at ordering
  obtain ⟨terms, rendered, rfl⟩ := map_eq_ok.1 ordering
  refine ⟨terms, inner, mapM_eq_ok.1 rendered, rfl, ?_, ?_⟩
  · intro plain
    rcases form with ⟨distinct, _⟩ | ⟨_, selection⟩
    · rw [plain] at distinct
      cases distinct
    · exact selection
  · intro distinct
    rcases form with ⟨_, derived, selection, same⟩ | ⟨plain, _⟩
    · exact ⟨derived, selection, same.symm⟩
    · rw [distinct] at plain
      cases plain

end Query

/-! ## Where names are found -/

/-- The name is among the names, whatever the case of its letters. -/
def hasName (names : List String) (name : String) : Bool :=
  names.any fun n => Text.eqIgnoringCase n name

section Resolution

variable (columnsOf : Table → List String) {q : Query}

namespace Query

/-- The name is that of a column of a table of the query. -/
def sees (q : Query) (n : WrittenName) : Bool :=
  q.tables.any fun t =>
    (n.qualifier == "" || t.aliasName == n.qualifier) && hasName (columnsOf t) n.name

end Query

namespace Column

/-- Every reference in the expression means a column of a table of the query. -/
def isOver (q : Query) (c : Column) : Bool :=
  c.operands.all fun o => !o.isNamed ||
    match (Scope.along [q]).qualifierOf o with
    | .ok aliasName => q.tables.any fun t =>
      t.aliasName == aliasName &&
        hasName (columnsOf t) ((Scope.along [q]).nameOf aliasName o.name)
    | .error _ => false

/-- The column is its base, without function and operation. -/
def isPlain (c : Column) : Bool := c.function.isNone && c.operation.isNone

/-- The names of the results of a selected column: its label, or the name of the column that it
refers to, or all those that it stands for. A computed column without label has none. -/
def resultNames (q : Query) (c : Column) : List String :=
  if c.label ≠ "" then [c.label]
  else if c.isPlain then
    if c.isWildcard then
      (q.tables.filter fun t => c.qualifier == "" || t.aliasName == c.qualifier).flatMap columnsOf
    else (c.writtenName? (Scope.along [q])).toList.map WrittenName.name
  else []

end Column

namespace Query

/-- The names of the results of a query. -/
def resultNames (q : Query) : List String :=
  if (selected q.columns q.orderBy).isEmpty then q.tables.flatMap columnsOf
  else (selected q.columns q.orderBy).flatMap (Column.resultNames columnsOf q)

/-- The name is that of a result, as it is seen around the query as a derived table. -/
def gives (q : Query) (n : WrittenName) : Bool :=
  n.qualifier == "" && hasName (q.resultNames columnsOf) n.name

/-- The names of a term are found in the selection that carries the order of the numbers. -/
def finds (q : Query) (o : Ordered) : Bool :=
  (q.numberingNames o).all fun n => if q.distinct then q.gives columnsOf n else q.sees columnsOf n

end Query

/-! ## In the query itself -/

/-- The only table of a query is the one selected from. -/
theorem Query.tables_of_isSingleTable (single : q.isSingleTable = true) :
    ∃ t, q.tables = [t] := by
  rw [isSingleTable, Bool.and_eq_true, List.isEmpty_iff] at single
  obtain ⟨t, table⟩ := Option.isSome_iff_exists.1 single.1
  exact ⟨t, by rw [tables, table, single.2]; rfl⟩

/-- A named reference has its own qualifier, or the default one. -/
theorem Scope.qualifierOf_eq_ok_iff {s : Scope} {c : Column} (named : c.isNamed = true)
    {name : String} :
    s.qualifierOf c = .ok name ↔
      (c.qualifier ≠ "" ∧ c.qualifier = name) ∨
        (c.qualifier = "" ∧ s.defaultAlias? = some name) := by
  unfold qualifierOf
  by_cases given : c.qualifier ≠ ""
  · simp [given]
  · rw [if_neg given]
    cases s.defaultAlias? with
    | none =>
      simp [not_not.1 given, Column.isReference_of_isNamed named,
        Column.isWildcard_of_isNamed named]
    | some other => simp [not_not.1 given]

/-- A name is bare in a query of one table without alias. -/
theorem Scope.aliasName_of_qualifierOf {c : Column} (named : c.isNamed = true)
    (h : (along [q]).qualifierOf c = .ok "") : ∀ t ∈ q.tables, t.aliasName = "" := by
  rcases (qualifierOf_eq_ok_iff named).1 h with ⟨given, bare⟩ | ⟨_, default⟩
  · exact absurd bare given
  · unfold defaultAlias? at default
    split at default
    · rename_i single
      obtain ⟨t, only⟩ := Query.tables_of_isSingleTable single
      rw [along, only] at default
      rw [only]
      exact List.forall_mem_singleton.2 (Option.some.inj default)
    · cases default

/-- The references of a column that is written have a qualifier, which may be empty. -/
theorem Column.exists_qualifier {path : List Query} {c : Column} {t : String}
    (h : c.render d (Scope.along path) = .ok t) :
    ∀ o ∈ c.operands, o.isReference = true →
      ∃ name, (Scope.along path).qualifierOf o = .ok name := by
  intro o operand reference
  have run := (c.follows_render (d := d) path true).outcome
  rw [h] at run
  have written := Step.run_eq_ok_iff.1 run.symm _ (List.mem_map_of_mem operand)
  obtain ⟨text, base, _⟩ := map_eq_ok.1 written
  rw [base_of_isReference reference] at base
  obtain ⟨name, found, _⟩ := map_eq_ok.1 base
  exact ⟨name, found⟩

/-- **In the query itself** the names of an expression are found when it is one over the tables. -/
theorem Column.all_sees {c : Column} {t : String} (h : c.render d (Scope.along [q]) = .ok t) :
    (c.writtenNames (Scope.along [q])).all (q.sees columnsOf) = c.isOver columnsOf q := by
  rw [writtenNames, List.all_flatMap, isOver, Bool.eq_iff_iff, List.all_eq_true, List.all_eq_true]
  refine forall₂_congr fun o operand => ?_
  cases named : o.isNamed with
  | false => simp [writtenName?, named]
  | true =>
    obtain ⟨name, found⟩ := exists_qualifier h o operand (isReference_of_isNamed named)
    have written : o.writtenName? (Scope.along [q]) =
        some ⟨name, (Scope.along [q]).nameOf name o.name⟩ := by
      rw [writtenName?, if_pos named, found]
      rfl
    rw [written, Option.toList_some, List.all_cons, List.all_nil, Bool.and_true, found,
      Bool.not_true, Bool.false_or, Query.sees, List.any_eq_true, List.any_eq_true]
    refine exists_congr fun t => and_congr_right fun member => ?_
    by_cases bare : name = ""
    · subst bare
      rw [Scope.aliasName_of_qualifierOf named found t member]
      simp
    · simp [bare]

/-! ## Around a distinct query -/

theorem hasName_of_subset {names others : List String} (subset : ∀ n ∈ names, n ∈ others)
    {name : String} (h : hasName names name = true) : hasName others name = true := by
  obtain ⟨n, member, same⟩ := List.any_eq_true.1 h
  exact List.any_eq_true.2 ⟨n, subset n member, same⟩

theorem hasName_of_mem {names : List String} {n name : String} (member : n ∈ names)
    (same : Text.eqIgnoringCase n name = true) : hasName names name = true :=
  List.any_eq_true.2 ⟨n, member, same⟩

theorem Column.writtenNames_bare (s : Scope) (c : Column) :
    c.writtenNames { s with qualify := false } =
      (c.writtenNames s).map fun n => ⟨"", n.name⟩ := by
  have one : ∀ o : Column, (o.writtenName? { s with qualify := false }).toList =
      (o.writtenName? s).toList.map fun n => ⟨"", n.name⟩ := by
    intro o
    have same : ({ s with qualify := false } : Scope).qualifierOf o = s.qualifierOf o := rfl
    unfold writtenName?
    rw [same]
    split
    · cases s.qualifierOf o <;> rfl
    · rfl
  rw [writtenNames, writtenNames, List.map_flatMap]
  simp only [one]

namespace Query

theorem resultNames_of_selected {c : Column} (member : c ∈ selected q.columns q.orderBy) :
    ∀ n ∈ c.resultNames columnsOf q, n ∈ q.resultNames columnsOf := by
  intro n named
  rw [resultNames, List.isEmpty_eq_false_iff.2 (List.ne_nil_of_mem member),
    if_neg Bool.false_ne_true]
  exact List.mem_flatMap.2 ⟨c, member, named⟩

/-- **Around a distinct query** a label is found, and any other term when all its names are those of
results. -/
theorem finds_of_distinct (distinct : q.distinct = true) (o : Ordered) :
    q.finds columnsOf o =
      ((q.labeledTerm? o).isSome || (o.column.writtenNames (Scope.along [q])).all fun n =>
        hasName (q.resultNames columnsOf) n.name) := by
  rw [finds, numberingNames, distinct, if_pos rfl]
  cases found : q.labeledTerm? o with
  | none =>
    simp only [if_true, Column.writtenNames_bare, List.all_map, Option.isSome_none, Bool.false_or]
    rfl
  | some c =>
    have label : (c.label != "") = true := by
      have same := List.find?_some found
      rw [Bool.and_eq_true] at same
      exact same.1
    have given : c.label ∈ q.resultNames columnsOf := by
      refine resultNames_of_selected columnsOf (List.mem_of_find?_eq_some found) _ ?_
      rw [Column.resultNames, if_pos (bne_iff_ne.1 label)]
      exact List.mem_singleton.2 rfl
    simp [gives, hasName_of_mem given (Text.eqIgnoringCase_refl _)]

/-! ## References and labels around a distinct query -/

theorem mem_withTerms_of_mem {c : Column} : ∀ {columns : List Column} {orderBy : List Ordered},
    c ∈ columns → c ∈ withTerms columns orderBy
  | _, [], h => h
  | columns, term :: rest, h => by
    rw [withTerms]
    split
    · exact mem_withTerms_of_mem h
    · exact mem_withTerms_of_mem (List.mem_append_left _ h)

/-- The requested columns are selected. -/
theorem mem_selected_of_mem {c : Column} {columns : List Column} {orderBy : List Ordered}
    (h : c ∈ columns) : c ∈ selected columns orderBy := by
  rw [selected]
  split
  · exact h
  · exact mem_withTerms_of_mem h

/-- A term is selected, or a selected column stands for it. -/
theorem exists_withTerms {o : Ordered} : ∀ (columns : List Column) {orderBy : List Ordered},
    o ∈ orderBy → ∃ c ∈ withTerms columns orderBy, covers c o.column = true ∨ c = o.column
  | columns, term :: rest, h => by
    rw [withTerms]
    split
    · rename_i covered
      rcases List.mem_cons.1 h with rfl | later
      · obtain ⟨c, member, covers⟩ := List.any_eq_true.1 covered
        exact ⟨c, mem_withTerms_of_mem member, .inl covers⟩
      · exact exists_withTerms columns later
    · rcases List.mem_cons.1 h with rfl | later
      · exact ⟨o.column, mem_withTerms_of_mem (List.mem_append_right _ (List.mem_singleton.2 rfl)),
          .inr rfl⟩
      · exact exists_withTerms _ later

/-- Nothing in particular is selected, or everything is, or a term to order by is selected or has a
column that stands for it. -/
theorem exists_selected {o : Ordered} {columns : List Column} {orderBy : List Ordered}
    (h : o ∈ orderBy) :
    selected columns orderBy = [] ∨ ∃ c ∈ selected columns orderBy,
      (c.isWildcard = true ∧ c.qualifier = "") ∨ covers c o.column = true ∨ c = o.column := by
  rw [selected]
  split
  · rename_i all
    rcases Bool.or_eq_true_iff.1 all with empty | all
    · exact .inl (List.isEmpty_iff.1 empty)
    · obtain ⟨c, member, wildcard⟩ := List.any_eq_true.1 all
      rw [Bool.and_eq_true, beq_iff_eq] at wildcard
      exact .inr ⟨c, member, .inl wildcard⟩
  · obtain ⟨c, member, stands⟩ := exists_withTerms columns h
    exact .inr ⟨c, member, .inr stands⟩

/-- The term is the label of a selected column. -/
def isLabel (q : Query) (c : Column) : Bool :=
  c.isNamed && c.isPlain && c.qualifier == "" &&
    q.columns.any fun b => b.label != "" && Text.eqIgnoringCase b.label c.name

/-- Wildcards are selected alone, and no field of a table is called otherwise than its column. -/
structure Straight (q : Query) : Prop where
  wildcards : ∀ c ∈ selected q.columns q.orderBy, c.isWildcard = true →
    c.isPlain = true ∧ c.label = ""
  fields : ∀ t ∈ q.tables, ∀ schema, t.schema? = some schema →
    ∀ name, schema.crosses name = false

/-- Where no field is called otherwise, a name is that of its column. -/
theorem Straight.nameOf (straight : q.Straight) (aliasName name : String) :
    Text.eqIgnoringCase ((Scope.along [q]).nameOf aliasName name) name = true := by
  unfold Scope.nameOf
  split
  · rename_i column found
    obtain ⟨schema, known, resolved⟩ := Option.bind_eq_some_iff.1 found
    obtain ⟨visible, first, same⟩ := Option.bind_eq_some_iff.1 known
    have member := List.mem_of_find?_eq_some first
    simp only [Scope.along, List.flatMap_nil, List.append_nil, List.mem_map] at member
    obtain ⟨t, used, rfl⟩ := member
    rw [eqIgnoringCase_iff]
    exact (EntitySchema.sameName_of_resolve?_iff resolved).2
      (straight.fields t used schema same name)
  · exact Text.eqIgnoringCase_refl name

/-- A plain wildcard gives the columns of the tables that it stands for. -/
theorem Straight.gives_wildcard (straight : q.Straight) {c : Column}
    (member : c ∈ selected q.columns q.orderBy) (wildcard : c.isWildcard = true) {t : Table}
    (used : t ∈ q.tables) (covered : c.qualifier = "" ∨ t.aliasName = c.qualifier) {name : String}
    (known : hasName (columnsOf t) name = true) :
    hasName (q.resultNames columnsOf) name = true := by
  obtain ⟨plain, bare⟩ := straight.wildcards c member wildcard
  refine hasName_of_subset (fun n given => ?_) known
  refine resultNames_of_selected columnsOf member n ?_
  rw [Column.resultNames, if_neg (not_not.2 bare), plain, if_pos rfl, wildcard, if_pos rfl]
  refine List.mem_flatMap.2 ⟨t, List.mem_filter.2 ⟨used, ?_⟩, given⟩
  simpa using covered

/-- A plain reference without label gives the name of its column. -/
theorem gives_plain {c : Column} (member : c ∈ selected q.columns q.orderBy)
    (named : c.isNamed = true) (plain : c.isPlain = true) (bare : c.label = "")
    {aliasName : String} (found : (Scope.along [q]).qualifierOf c = .ok aliasName) :
    (Scope.along [q]).nameOf aliasName c.name ∈ q.resultNames columnsOf := by
  refine resultNames_of_selected columnsOf member _ ?_
  rw [Column.resultNames, if_neg (not_not.2 bare), plain, if_pos rfl,
    Column.isWildcard_of_isNamed named, if_neg Bool.false_ne_true, Column.writtenName?,
    if_pos named, found]
  exact List.mem_singleton.2 rfl

theorem gives_label {c : Column} (member : c ∈ selected q.columns q.orderBy)
    (label : c.label ≠ "") : c.label ∈ q.resultNames columnsOf := by
  refine resultNames_of_selected columnsOf member _ ?_
  rw [Column.resultNames, if_pos label]
  exact List.mem_singleton.2 rfl

end Query

/-- What is one expression with a plain reference is one, to a column called alike. -/
theorem Column.sameExpression_plain {b c : Column} (h : b.sameExpression c = true)
    (named : c.isNamed = true) (plain : c.isPlain = true) :
    b.isReference = true ∧ b.isPlain = true ∧ b.qualifier = c.qualifier ∧
      Text.eqIgnoringCase b.name c.name = true := by
  obtain ⟨function, qualifier, name, label, literal, raw, operation⟩ := b
  obtain ⟨function', qualifier', name', label', literal', raw', operation'⟩ := c
  simp only [isNamed, isReference, isWildcard, isPlain, Bool.and_eq_true, Option.isNone_iff_eq_none,
    Bool.not_eq_true', bne_iff_ne] at named plain
  obtain ⟨⟨⟨rfl, rfl⟩, given⟩, single⟩ := named
  obtain ⟨rfl, rfl⟩ := plain
  simp only [sameExpression, Bool.and_eq_true, beq_iff_eq] at h
  obtain ⟨⟨⟨⟨⟨rfl, rfl⟩, called⟩, value⟩, rfl⟩, operand⟩ := h
  have absent : literal = none := by
    cases literal with
    | none => rfl
    | some v => cases value
  have alone : operation = none := by
    cases operation with
    | none => rfl
    | some pair => cases operand
  subst absent alone
  refine ⟨?_, rfl, rfl, called⟩
  have nonempty : name ≠ "" := by
    rintro rfl
    simp [Text.eqIgnoringCase, given] at called
  simp [isReference, nonempty]

/-- Plain references under one qualifier are one expression when their names are alike. -/
theorem Column.sameExpression_of_plain {a b : Column} (first : a.isNamed = true ∧ a.isPlain = true)
    (second : b.isNamed = true ∧ b.isPlain = true) (qualifier : a.qualifier = b.qualifier) :
    a.sameExpression b = Text.eqIgnoringCase a.name b.name := by
  obtain ⟨function, _, name, _, literal, raw, operation⟩ := a
  obtain ⟨function', _, name', _, literal', raw', operation'⟩ := b
  simp only [isNamed, isReference, isPlain, Bool.and_eq_true, Bool.not_eq_true',
    Option.isNone_iff_eq_none] at first second
  obtain ⟨⟨⟨⟨rfl, rfl⟩, _⟩, _⟩, rfl, rfl⟩ := first
  obtain ⟨⟨⟨⟨rfl, rfl⟩, _⟩, _⟩, rfl, rfl⟩ := second
  simp only [sameExpression, sameOperation, Value.agree, BEq.rfl, Bool.true_and, Bool.and_true,
    Bool.and_eq_right_iff_imp, beq_iff_eq]
  exact fun _ => qualifier

theorem Column.sameExpression_self {c : Column} (named : c.isNamed = true)
    (plain : c.isPlain = true) : c.sameExpression c = true := by
  rw [sameExpression_of_plain ⟨named, plain⟩ ⟨named, plain⟩ rfl]
  exact Text.eqIgnoringCase_refl c.name

namespace Query

/-- **A reference over the tables is a result of a straight query:** it is selected, or a selected
column stands for it. -/
theorem Straight.gives_reference (straight : q.Straight) {o : Ordered} {aliasName : String}
    (unlabeled : q.labeledTerm? o = none) (member : o ∈ q.orderBy)
    (named : o.column.isNamed = true) (plain : o.column.isPlain = true)
    (found : (Scope.along [q]).qualifierOf o.column = .ok aliasName) {t : Table}
    (used : t ∈ q.tables) (called : t.aliasName = aliasName)
    (known : hasName (columnsOf t) ((Scope.along [q]).nameOf aliasName o.column.name) = true) :
    hasName (q.resultNames columnsOf)
      ((Scope.along [q]).nameOf aliasName o.column.name) = true := by
  have meant : Text.eqIgnoringCase o.column.name
      ((Scope.along [q]).nameOf aliasName o.column.name) = true := by
    rw [Text.eqIgnoringCase_comm]
    exact straight.nameOf aliasName o.column.name
  have bare : ∀ c ∈ selected q.columns q.orderBy, c.sameExpression o.column = true →
      c.label = "" := by
    intro c used same
    have unequal := List.find?_eq_none.1 unlabeled c used
    simpa [same] using unequal
  have wildcard : ∀ c ∈ selected q.columns q.orderBy, c.isWildcard = true →
      c.qualifier = o.column.qualifier →
        hasName (q.resultNames columnsOf)
          ((Scope.along [q]).nameOf aliasName o.column.name) = true := by
    intro c selected stands same
    refine straight.gives_wildcard columnsOf selected stands used ?_ known
    rcases (Scope.qualifierOf_eq_ok_iff named).1 found with ⟨_, given⟩ | ⟨bare, _⟩
    · exact .inr (called.trans (given.symm.trans same.symm))
    · exact .inl (same.trans bare)
  have reference : ∀ c ∈ selected q.columns q.orderBy, c.sameExpression o.column = true →
      hasName (q.resultNames columnsOf)
        ((Scope.along [q]).nameOf aliasName o.column.name) = true := by
    intro c selected same
    obtain ⟨reference, alone, qualifier, alike⟩ := Column.sameExpression_plain same named plain
    cases stands : c.isWildcard with
    | true => exact wildcard c selected stands qualifier
    | false =>
      have cNamed : c.isNamed = true := by rw [Column.isNamed, reference, stands]; rfl
      have cFound : (Scope.along [q]).qualifierOf c = .ok aliasName := by
        rw [Scope.qualifierOf_eq_ok_iff cNamed, qualifier]
        exact (Scope.qualifierOf_eq_ok_iff named).1 found
      refine hasName_of_mem
        (gives_plain columnsOf selected cNamed alone (bare c selected same) cFound) ?_
      exact Text.eqIgnoringCase_trans (straight.nameOf aliasName c.name)
        (Text.eqIgnoringCase_trans alike meant)
  -- Without columns everything is selected; else a wildcard, the same expression or a label stands
  -- for the term, or the term has been added to the columns.
  rcases exists_selected member with empty | ⟨c, selected, ⟨stands, whole⟩ | covered | rfl⟩
  · rw [resultNames, empty, List.isEmpty_nil, if_pos rfl]
    exact hasName_of_subset (fun n given => List.mem_flatMap.2 ⟨t, used, given⟩) known
  · exact straight.gives_wildcard columnsOf selected stands used (.inl whole) known
  · rw [covers, Bool.or_eq_true, Bool.or_eq_true] at covered
    rcases covered with (same | stands) | label
    · exact reference c selected same
    · rw [Bool.and_eq_true, beq_iff_eq] at stands
      exact wildcard c selected stands.1 stands.2
    · rw [Bool.and_eq_true, Bool.and_eq_true, bne_iff_ne] at label
      exact hasName_of_mem (gives_label columnsOf selected label.1.1)
        (Text.eqIgnoringCase_trans label.2 meant)
  · exact reference o.column selected (Column.sameExpression_self named plain)

/-- **Around a distinct query every reference and every label is found,** where the query is
straight. -/
theorem finds_of_straight (straight : q.Straight) (distinct : q.distinct = true) {o : Ordered}
    (member : o ∈ q.orderBy) (named : o.column.isNamed = true) (plain : o.column.isPlain = true)
    (means : o.column.isOver columnsOf q = true ∨ q.isLabel o.column = true) :
    q.finds columnsOf o = true := by
  rw [finds_of_distinct columnsOf distinct o]
  cases unlabeled : q.labeledTerm? o with
  | some c => rfl
  | none =>
    have alone : o.column.operands = [o.column] := by
      obtain ⟨⟨function, qualifier, name, label, literal, raw, operation⟩, direction⟩ := o
      rw [Column.isPlain, Bool.and_eq_true, Option.isNone_iff_eq_none,
        Option.isNone_iff_eq_none] at plain
      obtain ⟨rfl, rfl⟩ := plain
      rfl
    rw [Option.isSome_none, Bool.false_or, Column.writtenNames, alone, List.flatMap_singleton,
      Column.writtenName?, if_pos named]
    cases found : (Scope.along [q]).qualifierOf o.column with
    | error e => rfl
    | ok aliasName =>
      rw [Option.toList_some, List.all_cons, List.all_nil, Bool.and_true]
      rcases means with expression | label
      · rw [Column.isOver, alone, List.all_cons, List.all_nil, Bool.and_true, named, found,
          Bool.not_true, Bool.false_or, List.any_eq_true] at expression
        obtain ⟨t, used, known⟩ := expression
        rw [Bool.and_eq_true, beq_iff_eq] at known
        exact straight.gives_reference columnsOf unlabeled member named plain found used known.1
          known.2
      · rw [isLabel, Bool.and_eq_true, List.any_eq_true] at label
        obtain ⟨_, c, requested, called⟩ := label
        rw [Bool.and_eq_true, bne_iff_ne] at called
        refine hasName_of_mem (gives_label columnsOf (mem_selected_of_mem requested) called.1)
          (Text.eqIgnoringCase_trans called.2 ?_)
        rw [Text.eqIgnoringCase_comm]
        exact straight.nameOf aliasName o.column.name

end Query

end Resolution

/-! ## The order of the numbers -/

namespace Query

variable {q : Query} {w : PageWindow} {st : Statement}

/-- **Names in the order of numbered rows.** The order has a term for each one of the query, which
is written with its names and no others.

Without `DISTINCT` the numbers are a column of the query itself. The names of a term are found there
exactly when it is an expression over the tables; a term that is but a label is none.

With `DISTINCT` the numbers stand around the query. The names are found when the expression has a
label, or when they are all names of results; in a straight query every reference and every label
has one. -/
theorem compile_numbering (columnsOf : Table → List String) (numbers : d.pagination = .rowNumber)
    (ordered : q.orderBy ≠ []) (h : q.compile d (some w) = .ok st) :
    ∃ terms inner,
      List.Forall₂ (q.WritesTerm d) q.orderBy terms ∧
      st.body = PagedForm.topText w.size.toNat w.offset.toNat inner ∧
      (q.distinct = false →
        q.render d (Scope.along [q]) (numberOptions (orderText terms)) = .ok inner ∧
        ∀ o ∈ q.orderBy, q.finds columnsOf o = o.column.isOver columnsOf q) ∧
      (q.distinct = true →
        (∃ derived,
          q.render d (Scope.along [q]) { SelectOptions.standard with unordered := true } =
            .ok derived ∧
          inner = .text ("SELECT d_.*, " ++ numberColumn (orderText terms) ++ " FROM (") ::
            (derived ++ [.text ") d_"])) ∧
        ∀ o ∈ q.orderBy,
          q.finds columnsOf o = ((q.labeledTerm? o).isSome ||
            (o.column.writtenNames (Scope.along [q])).all fun n =>
              hasName (q.resultNames columnsOf) n.name) ∧
          (q.Straight → o.column.isNamed = true → o.column.isPlain = true →
            o.column.isOver columnsOf q = true ∨ q.isLabel o.column = true →
              q.finds columnsOf o = true)) := by
  obtain ⟨terms, inner, rendered, body, itself, around⟩ := exists_numberingTerms numbers ordered h
  refine ⟨terms, inner, rendered.imp fun o t => writesTerm_of_numberingTerm, body, ?_, ?_⟩
  · intro plain
    refine ⟨itself plain, fun o member => ?_⟩
    obtain ⟨t, term⟩ := forall_right (p := fun o => ∃ t, q.numberingTerm d o = .ok t) rendered.flip
      (fun t _ _ term => ⟨t, term⟩) o member
    rw [numberingTerm, plain, if_neg Bool.false_ne_true] at term
    obtain ⟨text, written, _⟩ := map_eq_ok.1 term
    rw [finds, numberingNames, plain, if_neg Bool.false_ne_true]
    exact Column.all_sees columnsOf written
  · intro distinct
    refine ⟨around distinct, fun o member => ⟨finds_of_distinct columnsOf distinct o, ?_⟩⟩
    intro straight named plain means
    exact finds_of_straight columnsOf straight distinct member named plain means

/-- The users, selected by one of their columns and ordered by it. -/
def usersSample (distinct : Bool) (name : String) (direction : Direction) : Query :=
  { (empty 0).selectFrom ⟨"", .named "USERS"⟩ with
    columns := [.ofName name]
    orderBy := [⟨.ofName name, direction⟩]
    distinct }

theorem compile_numbering_usersSample :
    (∃ st, (usersSample false "NAME" .ascending).compile .sqlServer (some ⟨20, 10⟩) = .ok st ∧
      st.sql = "SELECT TOP 10 * FROM (SELECT NAME, ROW_NUMBER() OVER(ORDER BY NAME ASC) AS rn_ " ++
        "FROM USERS) p_ WHERE rn_ > 20 ORDER BY rn_" ∧
      (usersSample false "NAME" .ascending).finds (fun _ => ["NAME", "CITY"])
        ⟨.ofName "NAME", .ascending⟩ = true) ∧
    ∃ st, (usersSample true "CITY" .descending).compile .sqlServer (some ⟨10, 10⟩) = .ok st ∧
      st.sql = "SELECT TOP 10 * FROM (SELECT d_.*, ROW_NUMBER() OVER(ORDER BY CITY DESC) AS rn_ " ++
        "FROM (SELECT DISTINCT CITY FROM USERS) d_) p_ WHERE rn_ > 10 ORDER BY rn_" ∧
      (usersSample true "CITY" .descending).finds (fun _ => ["NAME", "CITY"])
        ⟨.ofName "CITY", .descending⟩ = true := by
  constructor
  · obtain ⟨_, _, _, _, itself, _⟩ := compile_numbering (fun _ => ["NAME", "CITY"]) rfl
      (List.cons_ne_nil _ _)
      (show (usersSample false "NAME" .ascending).compile .sqlServer (some ⟨20, 10⟩) = .ok _
        from rfl)
    refine ⟨_, rfl, by decide +kernel, ?_⟩
    rw [(itself rfl).2 _ (.head _)]
    decide +kernel
  · obtain ⟨_, _, _, _, _, around⟩ := compile_numbering (fun _ => ["NAME", "CITY"]) rfl
      (List.cons_ne_nil _ _)
      (show (usersSample true "CITY" .descending).compile .sqlServer (some ⟨10, 10⟩) = .ok _
        from rfl)
    refine ⟨_, rfl, by decide +kernel, ?_⟩
    rw [((around rfl).2 _ (.head _)).1]
    decide +kernel

/-- The amounts of orders under a label, ordered by the label. -/
def totalsSample : Query :=
  { (empty 0).selectFrom ⟨"", .named "ORDERS"⟩ with
    columns := [{ Column.ofName "AMOUNT" with label := "total" }]
    orderBy := [⟨.ofName "total", .ascending⟩] }

/-- The cities of users, in the order of a computed column that has no name. -/
def citiesSample : Query :=
  { (empty 0).selectFrom ⟨"", .named "USERS"⟩ with
    columns := [.ofName "CITY"]
    orderBy := [⟨{ Column.ofName "NAME" with function := some "UPPER" }, .ascending⟩]
    distinct := true }

/-- A label is written in the query that it belongs to, where it is no name. Around a distinct
query, the names of a computed term without label are those of no result. -/
theorem compile_numbering_unseenNames :
    (∃ st, totalsSample.compile .sqlServer (some ⟨20, 10⟩) = .ok st ∧
      st.sql = "SELECT TOP 10 * FROM (SELECT AMOUNT AS total, " ++
        "ROW_NUMBER() OVER(ORDER BY total ASC) AS rn_ FROM ORDERS) p_ " ++
        "WHERE rn_ > 20 ORDER BY rn_" ∧
      totalsSample.isLabel (.ofName "total") = true ∧
      totalsSample.finds (fun _ => ["ID", "AMOUNT"]) ⟨.ofName "total", .ascending⟩ = false) ∧
    ∃ st, citiesSample.compile .sqlServer (some ⟨0, 10⟩) = .ok st ∧
      st.sql = "SELECT TOP 10 * FROM (SELECT d_.*, " ++
        "ROW_NUMBER() OVER(ORDER BY UPPER(NAME) ASC) AS rn_ FROM " ++
        "(SELECT DISTINCT CITY, UPPER(NAME) FROM USERS) d_) p_ WHERE rn_ > 0 ORDER BY rn_" ∧
      ∀ o ∈ citiesSample.orderBy,
        o.column.isOver (fun _ => ["NAME", "CITY"]) citiesSample = true ∧
          citiesSample.finds (fun _ => ["NAME", "CITY"]) o = false := by
  refine ⟨⟨_, rfl, by decide +kernel, by decide +kernel, by decide +kernel⟩, _, rfl,
    by decide +kernel, ?_⟩
  rintro o (_ | ⟨_, ⟨⟩⟩)
  exact ⟨by decide +kernel, by decide +kernel⟩

end Query

end EntitySql
