import EntitySql.Proofs.Query.Tree
import EntitySql.Sql.Statement

/-!
# The steps of a selection

A query tree is written in steps (`Step`): a query is entered, a column is written, a label is
checked, a test is written. Each step knows the path of the query that it is a step of, and its
outcome is told from that path alone (`Step.outcome`). The steps stand in the order in which they
are done (`Query.steps`).

**Columns.** A column is written with its second operands, each one a step of its own
(`Column.operands`). A test for no values and a range without bounds are written without their
column, although it is looked up; its step is then not shown.

**Queries.** Every query of the tree is entered at its path and then written
(`Query.entries_steps`), with the columns of its clauses (`Query.rendered`).
-/

namespace EntitySql

set_option autoImplicit false

/-! ## Scopes of paths -/

namespace Scope

/-- The scope of the first query of a path, inside the others. -/
def along : List Query → Scope
  | [] => ⟨[], [], false, true, false⟩
  | q :: outer =>
    { tables := q.tables.map Table.visible
      outer := outer.flatMap fun p => p.tables.map Table.visible
      single := q.isSingleTable
      qualify := true
      endOfDay := q.endOfDay }

theorem ofQuery_eq (q : Query) : ofQuery q = (along []).inside q := rfl

/-- The tables in scope are those of the path. -/
theorem tables_along (path : List Query) :
    (along path).tables ++ (along path).outer =
      path.flatMap fun p => p.tables.map Table.visible := by
  cases path with
  | nil => rfl
  | cons q outer => rfl

/-- **A query entered from a path** is in the scope of the longer path. -/
theorem inside_along {path : List Query} {q : Query} {inner : Scope}
    (h : (along path).inside q = .ok inner) :
    q.table.isSome = true ∧ inner = along (q :: path) := by
  constructor
  · unfold inside enter at h
    split at h
    · cases h
    · rename_i some
      simpa [Option.isSome_iff_ne_none] using some
  · rw [enter_eq_ok h, tables_along]
    cases path <;> rfl

end Scope

/-! ## Columns -/

namespace Column

/-- The column and the second operands that are written with it. -/
def operands : Column → List Column
  | ⟨function, qualifier, name, label, value, raw, none⟩ =>
    [⟨function, qualifier, name, label, value, raw, none⟩]
  | ⟨function, qualifier, name, label, value, raw, some (op, other)⟩ =>
    ⟨function, qualifier, name, label, value, raw, some (op, other)⟩ ::
      if op.isUnary then [] else operands other
  termination_by structural c => c

/-- The column names one column of a table. -/
def isNamed (c : Column) : Bool := c.isReference && !c.isWildcard

theorem isReference_of_isNamed {c : Column} (named : c.isNamed = true) : c.isReference = true := by
  rw [isNamed, Bool.and_eq_true] at named
  exact named.1

theorem isWildcard_of_isNamed {c : Column} (named : c.isNamed = true) : c.isWildcard = false := by
  rw [isNamed, Bool.and_eq_true, Bool.not_eq_true'] at named
  exact named.2

end Column

namespace Predicate

/-- The columns that are looked up for a predicate, and whether they are written. -/
def columns : Predicate → List (Column × Bool)
  | .compare c _ (.value _) => [(c, true)]
  | .compare c _ (.column other) => [(c, true), (other, true)]
  | .like c _ _ _ => [(c, true)]
  | .among c _ values => [(c, !values.isEmpty)]
  | .isNull c _ => [(c, true)]
  | .isEmpty c _ => [(c, true)]
  | .between c low high => [(c, !(low.isNull && high.isNull))]
  | .hasRows _ _ => []

end Predicate

/-- The columns that are looked up for a condition. -/
def Condition.columns (c : Condition) : List (Column × Bool) :=
  (Node.allPredicates c).flatMap Predicate.columns

namespace Query

/-- The columns in the clauses of a query: those selected, those ordered by among them, then the
ones in conditions of joins, in its condition, to group by, in the condition of groups and to order
by. -/
def clauseColumns (q : Query) : List (Column × Bool) :=
  (selected q.columns q.orderBy).map (·, true) ++
    (q.joins.flatMap fun j => Condition.columns j.on) ++ Condition.columns q.filter ++
    q.groupBy.map (·, true) ++ Condition.columns q.having ++
    q.orderBy.map fun o => (o.column, true)

/-- The columns that a query is written with: those in its clauses and their second operands. -/
def rendered (q : Query) : List Column := q.clauseColumns.flatMap fun c => c.1.operands

end Query

/-! ## Steps -/

/-- A step of writing a query tree. -/
inductive Step where
  /-- A query is entered from a path. -/
  | enter (path : List Query) (q : Query)
  /-- A selected column may have its label. -/
  | label (c : Column)
  /-- A column is written, or is only looked up. -/
  | column (path : List Query) (c : Column) (shown : Bool)
  /-- A predicate is written after its columns. -/
  | test (path : List Query) (p : Predicate)

namespace Step

/-- What a step comes to. -/
def outcome (d : Dialect) : Step → Except Error Unit
  | enter path q => ((Scope.along path).inside q).map fun _ => ()
  | label c =>
    if c.label ≠ "" ∧ c.isSelectable = false then .error (.model (.nothingToSelect c.label))
    else .ok ()
  | column path c _ => (c.base d (Scope.along path)).map fun _ => ()
  | test path p => (p.render d (Scope.along path)).map fun _ => ()

/-- The text of a reference that is written. -/
def text? (d : Dialect) : Step → Option String
  | column path c true => if c.isReference then (c.base d (Scope.along path)).toOption else none
  | _ => none

/-- The steps one after the other, up to the first one that fails. -/
def run (d : Dialect) (steps : List Step) : Except Error Unit := steps.forM (outcome d)

/-- The texts of the references, in the order of the steps. -/
def texts (d : Dialect) (steps : List Step) : List String := steps.filterMap (text? d)

end Step

namespace Column

/-- The steps of a column. -/
def steps (path : List Query) (shown : Bool) (c : Column) : List Step :=
  c.operands.map (.column path · shown)

/-- The steps of a selected column. -/
def labeledSteps (path : List Query) (c : Column) : List Step := .label c :: c.steps path true

end Column

/-- The steps of a test on columns; a test for rows has no columns. -/
def Predicate.ownSteps (path : List Query) : Predicate → List Step
  | .hasRows _ _ => []
  | p => (p.columns.flatMap fun c => c.1.steps path c.2) ++ [.test path p]

mutual
/-- The steps of a query that has been entered; it is the first query of the path. -/
def Query.steps (path : List Query) (options : SelectOptions) : Query → List Step
  | ⟨table, joins, columns, _, filter, groupBy, having, orderBy, _, _, _⟩ =>
    (if options.count then []
      else (Query.selected columns orderBy).flatMap (Column.labeledSteps path)) ++
    ((match table with
      | none => []
      | some t => t.steps path) ++
    (Join.allSteps path joins ++ (Node.allSteps path filter ++
    (groupBy.flatMap (Column.steps path true) ++ (Node.allSteps path having ++
    (if options.unordered || options.count then []
      else orderBy.flatMap fun o => o.column.steps path true))))))
  termination_by structural q => q

/-- The steps of a table. -/
def Table.steps (path : List Query) : Table → List Step
  | ⟨_, source⟩ => source.steps path
  termination_by structural t => t

/-- A query is entered and written; a name takes no step. -/
def TableSource.steps (path : List Query) : TableSource → List Step
  | .entity _ => []
  | .named _ => []
  | .subQuery q => .enter path q :: q.steps (q :: path) .standard
  termination_by structural t => t

/-- The steps of a join. -/
def Join.steps (path : List Query) : Join → List Step
  | ⟨_, table, on⟩ => table.steps path ++ Node.allSteps path on
  termination_by structural j => j

/-- The steps of joins. -/
def Join.allSteps (path : List Query) : List Join → List Step
  | [] => []
  | j :: js => j.steps path ++ Join.allSteps path js
  termination_by structural js => js

/-- The steps of a node. -/
def Node.steps (path : List Query) : Node → List Step
  | .predicate _ p => p.steps path
  | .nested _ nodes => Node.allSteps path nodes
  | .group _ members => Predicate.allSteps path members
  termination_by structural n => n

/-- The steps of nodes. -/
def Node.allSteps (path : List Query) : List Node → List Step
  | [] => []
  | n :: ns => n.steps path ++ Node.allSteps path ns
  termination_by structural ns => ns

/-- A query is entered and written; any other test follows its columns. -/
def Predicate.steps (path : List Query) : Predicate → List Step
  | .hasRows _ q => .enter path q :: q.steps (q :: path) .standard
  | p => p.ownSteps path
  termination_by structural p => p

/-- The steps of predicates. -/
def Predicate.allSteps (path : List Query) : List Predicate → List Step
  | [] => []
  | p :: ps => p.steps path ++ Predicate.allSteps path ps
  termination_by structural ps => ps
end

/-- The steps of a query that stands alone. -/
def Query.allSteps (options : SelectOptions) (q : Query) : List Step :=
  .enter [] q :: q.steps [q] options

/-! ## Steps of a query and of the queries in it -/

/-- The steps of a query that stands at the end of a path: it is entered and written. -/
def Query.stepsInside (path : List Query) (q : Query) : List Step :=
  .enter path q :: q.steps (q :: path) .standard

variable {path : List Query} {step : Step}

/-- A predicate tests a query for rows, or has no query in it. -/
theorem Predicate.hasRows_or (p : Predicate) :
    (∃ negated q, p = .hasRows negated q) ∨ p.queries = [] := by
  cases p with
  | hasRows negated q => exact .inl ⟨negated, q, rfl⟩
  | compare | like | among | isNull | isEmpty | between => exact .inr rfl

/-- A test on columns follows them. -/
theorem Predicate.ownSteps_eq {p : Predicate} (noRows : p.queries = []) :
    p.ownSteps path = (p.columns.flatMap fun c => c.1.steps path c.2) ++ [.test path p] := by
  cases p with
  | hasRows negated q => cases noRows
  | compare | like | among | isNull | isEmpty | between => rfl

theorem Predicate.steps_eq (p : Predicate) :
    p.steps path = p.ownSteps path ++ p.queries.flatMap (Query.stepsInside path) := by
  cases p with
  | hasRows negated q =>
    rw [steps, queries, List.flatMap_singleton]
    rfl
  | compare | like | among | isNull | isEmpty | between => exact (List.append_nil _).symm

theorem Predicate.allSteps_eq (ps : List Predicate) :
    Predicate.allSteps path ps = ps.flatMap (Predicate.steps path) := by
  induction ps with
  | nil => rfl
  | cons p ps ih => rw [allSteps, List.flatMap_cons, ih]

mutual
theorem Node.steps_eq : ∀ n : Node, n.steps path = n.predicates.flatMap (Predicate.steps path)
  | .predicate _ p => by rw [Node.steps, Node.predicates, List.flatMap_singleton]
  | .nested _ nodes => by rw [Node.steps, Node.predicates, Node.allSteps_eq nodes]
  | .group _ members => by rw [Node.steps, Node.predicates, Predicate.allSteps_eq]

/-- The steps of a condition are those of its predicates. -/
theorem Node.allSteps_eq : ∀ ns : List Node,
    Node.allSteps path ns = (Node.allPredicates ns).flatMap (Predicate.steps path)
  | [] => rfl
  | n :: ns => by
    rw [Node.allSteps, Node.allPredicates, List.flatMap_append, Node.steps_eq n,
      Node.allSteps_eq ns]
end

theorem Table.steps_eq (t : Table) :
    t.steps path = t.queries.flatMap (Query.stepsInside path) := by
  obtain ⟨aliasName, source⟩ := t
  cases source with
  | entity schema => rfl
  | named name => rfl
  | subQuery q =>
    rw [Table.steps, TableSource.steps, Table.queries, List.flatMap_singleton]
    rfl

theorem Join.steps_eq (j : Join) :
    j.steps path = j.table.steps path ++ Node.allSteps path j.on := by
  obtain ⟨_, table, on⟩ := j
  rw [Join.steps]

theorem Query.steps_eq (q : Query) (options : SelectOptions) :
    q.steps path options =
      (if options.count then []
        else (selected q.columns q.orderBy).flatMap (Column.labeledSteps path)) ++
      (q.table.toList.flatMap (Table.steps path) ++ (Join.allSteps path q.joins ++
      (Node.allSteps path q.filter ++ (q.groupBy.flatMap (Column.steps path true) ++
      (Node.allSteps path q.having ++
      (if options.unordered || options.count then []
        else q.orderBy.flatMap fun o => o.column.steps path true)))))) := by
  obtain ⟨table, joins, columns, distinct, filter, groupBy, having, orderBy, _, _, _⟩ := q
  cases table with
  | none => rfl
  | some t =>
    unfold steps
    simp only [Option.toList_some, List.flatMap_cons, List.flatMap_nil, List.append_nil]

/-- The own steps of a condition. -/
def Condition.ownSteps (path : List Query) (c : Condition) : List Step :=
  (Node.allPredicates c).flatMap (Predicate.ownSteps path)

/-- The own steps of a query: those on its columns, in the order of its clauses. -/
def Query.ownSteps (path : List Query) (options : SelectOptions) (q : Query) : List Step :=
  (if options.count then []
    else (selected q.columns q.orderBy).flatMap (Column.labeledSteps path)) ++
  (q.joins.flatMap fun j => Condition.ownSteps path j.on) ++ Condition.ownSteps path q.filter ++
  q.groupBy.flatMap (Column.steps path true) ++ Condition.ownSteps path q.having ++
  (if options.unordered || options.count then []
    else q.orderBy.flatMap fun o => o.column.steps path true)

theorem Table.mem_steps_iff (t : Table) :
    step ∈ t.steps path ↔ ∃ q ∈ t.queries, step ∈ q.stepsInside path := by
  rw [steps_eq, List.mem_flatMap]

theorem Condition.mem_steps_iff (c : Condition) :
    step ∈ Node.allSteps path c ↔
      step ∈ c.ownSteps path ∨ ∃ q ∈ c.queries, step ∈ q.stepsInside path := by
  rw [Node.allSteps_eq, ownSteps, queries]
  simp only [List.mem_flatMap, Predicate.steps_eq, List.mem_append]
  constructor
  · rintro ⟨p, member, own | ⟨q, inner, inside⟩⟩
    · exact .inl ⟨p, member, own⟩
    · exact .inr ⟨q, ⟨p, member, inner⟩, inside⟩
  · rintro (⟨p, member, own⟩ | ⟨q, ⟨p, member, inner⟩, inside⟩)
    · exact ⟨p, member, .inl own⟩
    · exact ⟨p, member, .inr ⟨q, inner, inside⟩⟩

theorem Join.mem_steps_iff (js : List Join) :
    step ∈ Join.allSteps path js ↔
      step ∈ (js.flatMap fun j => Condition.ownSteps path j.on) ∨
        ∃ q ∈ js.flatMap Join.queries, step ∈ q.stepsInside path := by
  induction js with
  | nil => simp [allSteps]
  | cons j js ih =>
    simp only [allSteps, steps_eq, List.mem_append, Table.mem_steps_iff, Condition.mem_steps_iff,
      ih, List.flatMap_cons, queries, or_and_right, exists_or]
    rw [← eq_iff_iff]
    ac_rfl

/-- **A step of a query is its own or one of a query that stands in it,** which is entered from the
path of the query. -/
theorem Query.mem_steps_iff (q : Query) (options : SelectOptions) :
    step ∈ q.steps path options ↔
      step ∈ q.ownSteps path options ∨ ∃ c ∈ q.queries, step ∈ c.stepsInside path := by
  have sources : step ∈ q.table.toList.flatMap (Table.steps path) ↔
      ∃ c ∈ q.table.toList.flatMap Table.queries, step ∈ c.stepsInside path := by
    cases q.table with
    | none => simp
    | some t => simp [Table.mem_steps_iff]
  rw [steps_eq, ownSteps, queries]
  simp only [List.mem_append, sources, Join.mem_steps_iff, Condition.mem_steps_iff, or_and_right,
    exists_or]
  rw [← eq_iff_iff]
  ac_rfl

/-! ## Entries and columns among the steps -/

/-- The step is one on a column: it enters no query and tests none for rows. -/
def Step.IsOwn : Step → Prop
  | enter _ _ => False
  | test _ p => p.queries = []
  | label _ | column _ _ _ => True

theorem Column.isOwn_steps {shown : Bool} {c : Column} (h : step ∈ c.steps path shown) :
    step.IsOwn := by
  obtain ⟨_, _, rfl⟩ := List.mem_map.1 h
  trivial

theorem Predicate.isOwn_ownSteps {p : Predicate} (h : step ∈ p.ownSteps path) : step.IsOwn := by
  rcases p.hasRows_or with ⟨negated, q, rfl⟩ | noRows
  · cases h
  · rw [ownSteps_eq noRows, List.mem_append] at h
    rcases h with looked | test
    · obtain ⟨c, _, looked⟩ := List.mem_flatMap.1 looked
      exact Column.isOwn_steps looked
    · cases List.mem_singleton.1 test
      exact noRows

theorem Condition.isOwn_ownSteps {c : Condition} (h : step ∈ c.ownSteps path) : step.IsOwn := by
  obtain ⟨p, _, own⟩ := List.mem_flatMap.1 h
  exact Predicate.isOwn_ownSteps own

theorem Query.isOwn_ownSteps {q : Query} {options : SelectOptions}
    (h : step ∈ q.ownSteps path options) : step.IsOwn := by
  simp only [ownSteps, List.mem_append] at h
  rcases h with ((((select | join) | filter) | group) | having) | order
  · split at select
    · cases select
    · obtain ⟨c, _, labeled⟩ := List.mem_flatMap.1 select
      rcases List.mem_cons.1 labeled with rfl | column
      · trivial
      · exact Column.isOwn_steps column
  · obtain ⟨j, _, on⟩ := List.mem_flatMap.1 join
    exact Condition.isOwn_ownSteps on
  · exact Condition.isOwn_ownSteps filter
  · obtain ⟨c, _, column⟩ := List.mem_flatMap.1 group
    exact Column.isOwn_steps column
  · exact Condition.isOwn_ownSteps having
  · split at order
    · cases order
    · obtain ⟨o, _, column⟩ := List.mem_flatMap.1 order
      exact Column.isOwn_steps column

/-- **Every step is one on a column, or a query is entered** to which a path leads. -/
theorem Query.isOwn_or_descends {root : Query} : ∀ (q : Query) {outer : List Query}
    {options : SelectOptions} {step : Step}, Descends root (q :: outer) →
      step ∈ q.steps (q :: outer) options →
        step.IsOwn ∨ ∃ place c, step = .enter place c ∧ Descends root (c :: place) := by
  refine tree_induction fun q ih => ?_
  intro outer options step here member
  rcases (mem_steps_iff q options).1 member with own | ⟨c, inner, inside⟩
  · exact .inl (isOwn_ownSteps own)
  · rcases List.mem_cons.1 inside with rfl | below
    · exact .inr ⟨_, c, rfl, here.inner inner⟩
    · exact ih c inner (here.inner inner) below

/-- **Every query to which a path leads** is entered and written among the steps of the root. Only
the steps of the root itself depend on the options. -/
theorem Query.steps_of_descends {root c : Query} {outer : List Query} {options : SelectOptions}
    (h : Descends root (c :: outer)) :
    .enter outer c ∈ root.allSteps options ∧
      ∀ step ∈ c.steps (c :: outer) (if outer.isEmpty then options else .standard),
        step ∈ root.allSteps options := by
  generalize same : c :: outer = path at h
  induction h generalizing c outer with
  | root =>
    cases same
    exact ⟨List.mem_cons_self, fun step member => List.mem_cons_of_mem _ member⟩
  | @inner p b rest above inner ih =>
    cases same
    obtain ⟨_, each⟩ := ih rfl
    have inside : ∀ step ∈ b.stepsInside (p :: rest), step ∈ root.allSteps options := by
      intro step member
      exact each step ((mem_steps_iff p _).2 (.inr ⟨b, inner, member⟩))
    exact ⟨inside _ List.mem_cons_self, fun step member =>
      inside step (List.mem_cons_of_mem _ member)⟩

theorem Condition.mem_ownSteps {c : Condition} {looked : Column × Bool}
    (h : looked ∈ c.columns) (member : step ∈ looked.1.steps path looked.2) :
    step ∈ c.ownSteps path := by
  obtain ⟨p, used, column⟩ := List.mem_flatMap.1 h
  refine List.mem_flatMap.2 ⟨p, used, ?_⟩
  rcases p.hasRows_or with ⟨negated, q, rfl⟩ | noRows
  · cases column
  · rw [Predicate.ownSteps_eq noRows]
    exact List.mem_append_left _ (List.mem_flatMap.2 ⟨looked, column, member⟩)

/-- **Every column that a query is written with** is written in a step of its own. -/
theorem Query.exists_column_step (path : List Query) {q : Query} {c : Column}
    (h : c ∈ q.rendered) :
    ∃ shown, .column path c shown ∈ q.ownSteps path .standard := by
  obtain ⟨⟨b, shown⟩, clause, operand⟩ := List.mem_flatMap.1 h
  refine ⟨shown, ?_⟩
  have member : .column path c shown ∈ b.steps path shown := List.mem_map_of_mem operand
  have written : ∀ {columns : List Column}, (b, shown) ∈ columns.map (·, true) →
      b ∈ columns ∧ shown = true := by
    intro columns paired
    obtain ⟨_, used, same⟩ := List.mem_map.1 paired
    cases same
    exact ⟨used, rfl⟩
  simp only [clauseColumns, List.mem_append] at clause
  simp only [ownSteps, SelectOptions.standard, Bool.false_eq_true, if_false, Bool.or_self,
    List.mem_append]
  rcases clause with ((((select | join) | filter) | group) | having) | order
  · obtain ⟨used, rfl⟩ := written select
    exact .inl (.inl (.inl (.inl (.inl (List.mem_flatMap.2
      ⟨b, used, List.mem_cons_of_mem _ member⟩)))))
  · obtain ⟨j, used, on⟩ := List.mem_flatMap.1 join
    exact .inl (.inl (.inl (.inl (.inr (List.mem_flatMap.2
      ⟨j, used, Condition.mem_ownSteps on member⟩)))))
  · exact .inl (.inl (.inl (.inr (Condition.mem_ownSteps filter member))))
  · obtain ⟨used, rfl⟩ := written group
    exact .inl (.inl (.inr (List.mem_flatMap.2 ⟨b, used, member⟩)))
  · exact .inl (.inr (Condition.mem_ownSteps having member))
  · obtain ⟨o, used, same⟩ := List.mem_map.1 order
    cases same
    exact .inr (List.mem_flatMap.2 ⟨o, used, member⟩)

end EntitySql
