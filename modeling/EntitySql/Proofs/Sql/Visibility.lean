import EntitySql.Proofs.Paging.Forms
import EntitySql.Proofs.Sql.Course

/-!
# No table hides another one

A query is entered when the aliases of its tables differ from one another and from those of the
tables around it. So each level compares its own tables with those passed on to it, and along every
path of a query tree that compiles all aliases differ (`Query.compile_paths`). A table without alias
hides none.

Only entering a query finds aliases that collide: neither columns nor tests nor the order in which
rows are numbered do. What is reported is then used twice on a path. Queries on different branches
are not compared.
-/

namespace EntitySql

set_option autoImplicit false

open Outcome

variable {d : Dialect} {s : Scope}

/-! ## Aliases along a path -/

namespace Query

/-- The aliases of the tables of a query. -/
def aliases (q : Query) : List String := (q.tables.map Table.aliasName).filter (· != "")

/-- The aliases of all tables of the queries on a path. -/
def pathAliases (path : List Query) : List String := path.flatMap aliases

end Query

namespace Scope

/-- No name is repeated: none is among those before it. -/
theorem nodup_of_firstRepeated {before names : List String} (h : firstRepeated before names = none)
    (distinct : (before.filter (· != "")).Nodup) :
    ((before ++ names).filter (· != "")).Nodup := by
  induction names generalizing before with
  | nil => rwa [List.append_nil]
  | cons name rest ih =>
    rw [firstRepeated] at h
    split at h
    · cases h
    · rename_i fresh
      have longer : ((name :: before).filter (· != "")).Nodup := by
        rw [List.filter_cons]
        split
        · rename_i given
          rw [given, Bool.true_and, List.contains_eq_mem, decide_eq_true_eq] at fresh
          exact List.nodup_cons.2 ⟨fun used => fresh (List.mem_of_mem_filter used), distinct⟩
        · exact distinct
      exact ((List.perm_middle.filter _).nodup_iff).2 (ih h longer)

/-- A repeated name occurs twice. -/
theorem count_of_firstRepeated {before names : List String} {name : String}
    (h : firstRepeated before names = some name) :
    name ≠ "" ∧ 2 ≤ (before ++ names).count name := by
  induction names generalizing before with
  | nil => cases h
  | cons first rest ih =>
    rw [firstRepeated] at h
    split at h
    · rename_i repeated
      cases h
      rw [Bool.and_eq_true, bne_iff_ne, List.contains_eq_mem, decide_eq_true_eq] at repeated
      have earlier : 1 ≤ before.count name := List.count_pos_iff.2 repeated.2
      refine ⟨repeated.1, ?_⟩
      rw [List.count_append, List.count_cons_self]
      omega
    · obtain ⟨given, twice⟩ := ih h
      exact ⟨given, by rwa [List.perm_middle.count_eq]⟩

theorem disjoint_of_firstHiding {others names : List String} (h : firstHiding others names = none) :
    ∀ name ∈ names, name ≠ "" → name ∉ others := by
  intro name member given
  have none := List.find?_eq_none.1 h name member
  simpa [given] using none

theorem mem_of_firstHiding {others names : List String} {name : String}
    (h : firstHiding others names = some name) : name ≠ "" ∧ name ∈ names ∧ name ∈ others := by
  have found := List.find?_some h
  rw [Bool.and_eq_true, bne_iff_ne, List.contains_eq_mem, decide_eq_true_eq] at found
  exact ⟨found.1, List.mem_of_find?_eq_some h, found.2⟩

/-- The names of the tables of a query are their aliases. -/
theorem names_visible (q : Query) :
    (q.tables.map Table.visible).map VisibleTable.aliasName = q.tables.map Table.aliasName :=
  List.map_map

/-- The names that a query is compared with are those of the path. -/
theorem names_along (path : List Query) :
    ((along path).tables ++ (along path).outer).map VisibleTable.aliasName =
      path.flatMap fun p => p.tables.map Table.aliasName := by
  rw [tables_along, List.map_flatMap]
  simp only [names_visible]

theorem mem_pathAliases_iff {path : List Query} {name : String} :
    name ∈ Query.pathAliases path ↔
      name ≠ "" ∧ name ∈ path.flatMap fun p => p.tables.map Table.aliasName := by
  simp only [Query.pathAliases, Query.aliases, List.mem_flatMap, List.mem_filter, bne_iff_ne]
  constructor
  · rintro ⟨p, around, used, given⟩
    exact ⟨given, p, around, used⟩
  · rintro ⟨given, p, around, used⟩
    exact ⟨p, around, used, given⟩

/-- **A query that is entered adds new aliases to the path,** different ones. -/
theorem nodup_of_inside {path : List Query} {q : Query} {inner : Scope}
    (h : (along path).inside q = .ok inner) :
    q.aliases.Nodup ∧ ∀ name ∈ q.aliases, name ∉ Query.pathAliases path := by
  unfold inside enter at h
  split at h
  · cases h
  · simp only [names_visible, names_along] at h
    split at h
    · cases h
    · rename_i once
      split at h
      · cases h
      · rename_i new
        refine ⟨nodup_of_firstRepeated once List.nodup_nil, ?_⟩
        intro name member around
        obtain ⟨own, given⟩ := List.mem_filter.1 member
        exact disjoint_of_firstHiding new name own (bne_iff_ne.1 given)
          (mem_pathAliases_iff.1 around).2

/-- **An alias that collides** when a query is entered is used twice on the longer path. -/
theorem count_of_inside {path : List Query} {q : Query} {name : String}
    (h : (along path).inside q = .error (.aliasCollision name)) :
    2 ≤ (Query.pathAliases (q :: path)).count name := by
  unfold inside enter at h
  split at h
  · cases h
  · simp only [names_visible, names_along] at h
    rw [Query.pathAliases, List.flatMap_cons, List.count_append, ← Query.pathAliases]
    split at h
    · rename_i repeated
      cases h
      obtain ⟨given, twice⟩ := count_of_firstRepeated repeated
      have own : 2 ≤ q.aliases.count name := by
        rw [Query.aliases, List.count_filter]
        · exact twice
        · exact bne_iff_ne.2 given
      omega
    · split at h
      · rename_i hidden
        cases h
        obtain ⟨given, own, around⟩ := mem_of_firstHiding hidden
        have here : 1 ≤ q.aliases.count name :=
          List.count_pos_iff.2 (List.mem_filter.2 ⟨own, bne_iff_ne.2 given⟩)
        have outside : 1 ≤ (Query.pathAliases path).count name :=
          List.count_pos_iff.2 (mem_pathAliases_iff.2 ⟨given, around⟩)
        omega
      · cases h

end Scope

/-! ## What finds no collision -/

/-- The outcome is not that aliases collide. -/
def NoCollision {α : Type} (x : Except Error α) : Prop := ∀ name, x ≠ .error (.aliasCollision name)

namespace NoCollision

variable {α β : Type} {x : Except Error α}

theorem ok (a : α) : NoCollision (.ok a) := fun _ h => nomatch h

theorem bind {f : α → Except Error β} (first : NoCollision x) (next : ∀ a, NoCollision (f a)) :
    NoCollision (x >>= f) := by
  intro name h
  rcases bind_eq_error.1 h with failed | ⟨a, _, failed⟩
  · exact first name failed
  · exact next a name failed

theorem map {f : α → β} (first : NoCollision x) : NoCollision (x.map f) := by
  intro name h
  cases x with
  | error e =>
    cases h
    exact first name rfl
  | ok a => cases h

theorem mapM {f : α → Except Error β} (each : ∀ a, NoCollision (f a)) (as : List α) :
    NoCollision (as.mapM f) := by
  induction as with
  | nil => exact ok []
  | cons a as ih =>
    rw [List.mapM_cons]
    exact (each a).bind fun b => ih.bind fun bs => ok (b :: bs)

end NoCollision

mutual
theorem Dialect.noCollision_literal : ∀ v : Value, NoCollision (d.literal v)
  | .zoned (some z) => by
    have utc : NoCollision (Primitive.utc z) := by
      intro name h
      unfold Primitive.utc Primitive.orFail at h
      split at h <;> cases h
    exact utc.map
  | .list (some vs) _ => (Dialect.noCollision_literals vs).bind fun _ => .ok _
  | .null | .boolean none | .boolean (some _) | .int _ none | .int _ (some _) | .float _ none
  | .float _ (some _) | .decimal none _ _ | .decimal (some _) _ _ | .char none | .char (some _)
  | .varchar none | .varchar (some _) | .blob none | .blob (some _) | .date none | .date (some _)
  | .time none | .time (some _) | .timestamp none | .timestamp (some _) | .zoned none
  | .uuid none | .uuid (some _) | .list none _ | .unknown none | .unknown (some _) => .ok _

theorem Dialect.noCollision_literals : ∀ vs : List Value, NoCollision (d.literals vs)
  | [] => .ok []
  | v :: vs => (Dialect.noCollision_literal v).bind fun _ =>
    (Dialect.noCollision_literals vs).bind fun _ => .ok _
end

namespace Scope

theorem noCollision_qualifierOf (c : Column) : NoCollision (s.qualifierOf c) := by
  intro name h
  unfold qualifierOf at h
  split at h
  · cases h
  · split at h
    · cases h
    · split at h <;> cases h

theorem noCollision_columnDefOf (c : Column) : NoCollision (s.columnDefOf c) := by
  unfold columnDefOf
  split
  · exact .ok none
  · exact (noCollision_qualifierOf c).map

end Scope

namespace Column

theorem noCollision_base (c : Column) : NoCollision (c.base d s) := by
  unfold base
  split
  · exact .ok c.name
  · split
    · exact Dialect.noCollision_literal _
    · split
      · exact .ok ""
      · exact (Scope.noCollision_qualifierOf c).map

theorem noCollision_render : ∀ c : Column, NoCollision (c.render d s)
  | ⟨function, qualifier, name, label, value, raw, none⟩ => by
    rw [render]
    exact (noCollision_base _).bind fun _ => .ok _
  | ⟨function, qualifier, name, label, value, raw, some (op, other)⟩ => by
    rw [render_operation]
    refine (noCollision_base _).bind fun a => ?_
    split
    · exact .ok _
    · exact (noCollision_render other).map

end Column

theorem LeftSide.noCollision_ofColumn (c : Column) : NoCollision (LeftSide.ofColumn d s c) :=
  (Scope.noCollision_columnDefOf c).bind fun _ => (Column.noCollision_render c).bind fun _ => .ok _

theorem noCollision_compareTest (l : LeftSide) (k : Comparison) (operand : Operand) :
    NoCollision (compareTest d s l k operand) := by
  cases operand with
  | value v =>
    show NoCollision (if v.isNull then nullTest l.expression k else .ok _)
    split
    · intro name h
      cases k <;> cases h
    · exact .ok _
  | column other => exact (Column.noCollision_render other).map

theorem noCollision_likeTest (l : LeftSide) (place : PatternPlace) (negated : Bool)
    (part : Value) : NoCollision (likeTest l place negated part) := by
  have text : NoCollision (patternText part) := by
    intro name h
    unfold patternText at h
    split at h <;> cases h
  exact text.map

theorem noCollision_betweenTest (l : LeftSide) (low high : Value) :
    NoCollision (betweenTest l low high) := by
  intro name h
  unfold betweenTest at h
  split at h <;> cases h

/-- A test on columns finds no collision. -/
theorem Predicate.noCollision_render {p : Predicate} (noRows : p.queries = []) :
    NoCollision (p.render d s) := by
  have left : ∀ c, NoCollision (LeftSide.ofColumn d s c) := LeftSide.noCollision_ofColumn
  cases p with
  | hasRows negated q => cases noRows
  | compare c k operand =>
    rw [render]
    exact (left c).bind fun l => noCollision_compareTest l k operand
  | like c place negated part =>
    rw [render]
    exact (left c).bind fun l => noCollision_likeTest l place negated part
  | among c negated values =>
    rw [render]
    exact (left c).bind fun _ => .ok _
  | isNull c negated =>
    rw [render]
    exact (left c).bind fun _ => .ok _
  | isEmpty c negated =>
    rw [render]
    exact (left c).bind fun _ => .ok _
  | between c low high =>
    rw [render]
    exact (left c).bind fun l => noCollision_betweenTest l low high

/-- The order in which rows are numbered finds no collision. -/
theorem Query.noCollision_numberingOrder (q : Query) : NoCollision (q.numberingOrder d s) := by
  have term : ∀ (s : Scope) (o : Ordered), NoCollision (o.render d s) :=
    fun s o => (Column.noCollision_render o.column).map
  unfold numberingOrder
  split
  · exact .ok anyOrder
  · split
    · refine (NoCollision.mapM (fun o => ?_) q.orderBy).map
      unfold derivedTerm
      split
      · exact .ok _
      · exact term _ o
    · exact (NoCollision.mapM (term s) q.orderBy).map

/-- A step on a column finds no collision. -/
theorem Step.noCollision_outcome : ∀ {step : Step}, step.IsOwn → NoCollision (step.outcome d)
  | label c, _ => by
    intro name h
    rw [outcome] at h
    split at h <;> cases h
  | column path c _, _ => (Column.noCollision_base c).map
  | test path p, noRows => (Predicate.noCollision_render noRows).map

/-! ## Paths of compiled queries -/

namespace Query

variable {q : Query}

/-- Numbered rows are written around the query, with options that depend on the order. -/
theorem renderRowNumber_eq (q : Query) (w : PageWindow) :
    ∃ (options : String → SelectOptions) (wrap : String → Fragment → Fragment),
      q.renderRowNumber d s w =
        q.numberingOrder d s >>= fun order => (q.render d s (options order)).map (wrap order) := by
  let top := Piece.text ("SELECT TOP " ++ toString w.size.toNat ++ " * FROM (")
  let bound := Piece.text (") p_ WHERE rn_ > " ++ toString w.offset.toNat ++ " ORDER BY rn_")
  cases distinct : q.distinct with
  | true =>
    refine ⟨fun _ => { SelectOptions.standard with unordered := true }, fun order f => top ::
      ((.text ("SELECT d_.*, " ++ numberColumn order ++ " FROM (") :: (f ++ [.text ") d_"])) ++
        [bound]), ?_⟩
    rw [renderRowNumber, bind_pure_eq_map, renderNumbered, distinct]
    cases q.numberingOrder d s with
    | error e => rfl
    | ok order =>
      show (q.render d s _ >>= fun f => pure _).map _ = (q.render d s _).map _
      cases q.render d s { SelectOptions.standard with unordered := true } <;> rfl
  | false =>
    refine ⟨numberOptions, fun _ f => top :: (f ++ [bound]), ?_⟩
    rw [renderRowNumber, bind_pure_eq_map, renderNumbered, distinct]
    cases q.numberingOrder d s with
    | error e => rfl
    | ok order => rfl

/-- The paged query is written around the query itself, with some options. -/
theorem renderPaged_eq (q : Query) (state : PageState) :
    ∃ (order : Except Error String) (options : String → SelectOptions)
      (wrap : String → Fragment → Fragment), NoCollision order ∧
        q.renderPaged d s state = order >>= fun o => (q.render d s (options o)).map (wrap o) := by
  have around : ∀ {x : Except Error Fragment} (options : SelectOptions)
      (wrap : Fragment → Fragment), x = (q.render d s options).map wrap →
        ∃ (order : Except Error String) (options : String → SelectOptions)
          (wrap : String → Fragment → Fragment), NoCollision order ∧
            x = order >>= fun o => (q.render d s (options o)).map (wrap o) := by
    intro x options wrap same
    exact ⟨.ok "", fun _ => options, fun _ => wrap, .ok "", same⟩
  unfold renderPaged
  split
  · exact around .standard id (by rw [renderPlain]; cases q.render d s .standard <;> rfl)
  · split
    · exact around _ _ (bind_pure_eq_map _ _)
    · obtain ⟨options, wrap, same⟩ := renderRowNumber_eq q _
      exact ⟨_, options, wrap, noCollision_numberingOrder q, same⟩
    · split
      · exact around _ _ (bind_pure_eq_map _ _)
      · split
        · exact around _ _ (bind_pure_eq_map _ _)
        · exact around _ _ (bind_pure_eq_map _ _)

/-- **A query compiles when its steps succeed,** whether it is paged or not. -/
theorem exists_steps_ok {window : Option PageWindow} {st : Statement}
    (h : q.compile d window = .ok st) :
    ∃ options, ∀ step ∈ q.allSteps options, step.outcome d = .ok () := by
  obtain ⟨s, body, scope, written, _⟩ := compile_eq_ok_iff.1 h
  obtain ⟨order, options, wrap, _, same⟩ :=
    renderPaged_eq (d := d) (s := s) q (.ofWindow window (!q.orderBy.isEmpty))
  rw [same] at written
  obtain ⟨o, _, around⟩ := bind_eq_ok.1 written
  obtain ⟨f, rendered, _⟩ := map_eq_ok.1 around
  refine ⟨options o, Step.run_eq_ok_iff.1 ?_⟩
  rw [← (follows_allSteps q (options o)).outcome, scope]
  show (q.render d s (options o)).map _ = _
  rw [rendered]
  rfl

/-- **Aliases that collide are found by a step,** whether the query is paged or not. -/
theorem exists_step_collision {window : Option PageWindow} {name : String}
    (h : q.compile d window = .error (.aliasCollision name)) :
    ∃ options, ∃ step ∈ q.allSteps options, step.outcome d = .error (.aliasCollision name) := by
  have found : ∀ options, Step.run d (q.allSteps options) = .error (.aliasCollision name) →
      ∃ options, ∃ step ∈ q.allSteps options, step.outcome d = .error (.aliasCollision name) := by
    intro options failed
    obtain ⟨before, step, after, same, _, outcome⟩ := Step.run_eq_error_iff.1 failed
    exact ⟨options, step, same ▸ List.mem_append_right _ List.mem_cons_self, outcome⟩
  rcases bind_eq_error.1 h with scope | ⟨s, scope, written⟩
  · refine found .standard ?_
    rw [← (follows_allSteps q .standard).outcome, scope]
    rfl
  · obtain ⟨order, options, wrap, clean, same⟩ :=
      renderPaged_eq (d := d) (s := s) q (.ofWindow window (!q.orderBy.isEmpty))
    rw [bind_pure_eq_map, map_eq_error, same] at written
    rcases bind_eq_error.1 written with unordered | ⟨o, _, around⟩
    · exact absurd unordered (clean name)
    · refine found (options o) ?_
      rw [← (follows_allSteps q (options o)).outcome, scope]
      exact map_eq_error.2 (map_eq_error.1 around)

/-- Entering a query keeps the aliases of the path different. -/
theorem nodup_pathAliases_cons {path : List Query} {c : Query}
    (entered : (Step.enter path c).outcome d = .ok ()) (distinct : (pathAliases path).Nodup) :
    (pathAliases (c :: path)).Nodup := by
  obtain ⟨inner, inside, _⟩ := map_eq_ok.1 entered
  obtain ⟨own, new⟩ := Scope.nodup_of_inside inside
  rw [pathAliases, List.flatMap_cons, List.nodup_append]
  refine ⟨own, distinct, ?_⟩
  rintro name member _ around rfl
  exact new name member around

/-- **Along a path on which every query is entered, all aliases differ.** -/
theorem nodup_pathAliases {root : Query} {options : SelectOptions} {path : List Query}
    (each : ∀ step ∈ root.allSteps options, step.outcome d = .ok ()) (h : Descends root path) :
    (pathAliases path).Nodup := by
  induction h with
  | root => exact nodup_pathAliases_cons (each _ List.mem_cons_self) List.nodup_nil
  | inner above inside distinct =>
    exact nodup_pathAliases_cons (each _ (steps_of_descends (above.inner inside)).1) distinct

/-- The alias of a table is that of no table around its query. -/
theorem aliasName_ne_around {place : List Query} {c : Query}
    (entered : (Step.enter place c).outcome d = .ok ()) {t : Table} (own : t ∈ c.tables)
    (given : t.aliasName ≠ "") : ∀ p ∈ place, ∀ u ∈ p.tables, u.aliasName ≠ t.aliasName := by
  intro p around u used same
  obtain ⟨inner, inside, _⟩ := map_eq_ok.1 entered
  have here : t.aliasName ∈ c.aliases :=
    List.mem_filter.2 ⟨List.mem_map_of_mem own, bne_iff_ne.2 given⟩
  have outside : t.aliasName ∈ pathAliases place :=
    Scope.mem_pathAliases_iff.2
      ⟨given, List.mem_flatMap.2 ⟨p, around, List.mem_map.2 ⟨u, used, same⟩⟩⟩
  exact (Scope.nodup_of_inside inside).2 _ here outside

/-- The query where the given ones have rows. -/
def whereRows (q : Query) (branches : List Query) : Query :=
  { q with filter := q.filter ++ branches.map fun c => .predicate .and (.hasRows false c) }

/-- Nodes are written when each of them is. -/
theorem exists_renderAll_iff {nodes : List Node} :
    (∃ fs, Node.renderAll d s nodes = .ok fs) ↔ ∀ n ∈ nodes, ∃ f, n.render d s = .ok f := by
  induction nodes with
  | nil => exact ⟨fun _ => List.forall_mem_nil _, fun _ => ⟨[], rfl⟩⟩
  | cons n ns ih =>
    simp only [Node.renderAll_cons_eq_ok_iff, List.forall_mem_cons, ← ih]
    constructor
    · rintro ⟨_, first, rest, here, later, _⟩
      exact ⟨⟨first, here⟩, rest, later⟩
    · rintro ⟨⟨first, here⟩, rest, later⟩
      exact ⟨_, first, rest, here, later, rfl⟩

/-- Further tests are written apart from one another and from the query. -/
theorem exists_render_whereRows_iff {branches : List Query} :
    (∃ f, (q.whereRows branches).render d s .standard = .ok f) ↔
      (∃ f, q.render d s .standard = .ok f) ∧
        ∀ c ∈ branches, ∃ f, (Predicate.hasRows false c).render d s = .ok f := by
  have nodes : (∃ fs, Node.renderAll d s (q.whereRows branches).filter = .ok fs) ↔
      (∃ fs, Node.renderAll d s q.filter = .ok fs) ∧
        ∀ c ∈ branches, ∃ f, (Predicate.hasRows false c).render d s = .ok f := by
    simp only [exists_renderAll_iff, whereRows, List.forall_mem_append, List.forall_mem_map,
      Node.render_predicate]
  simp only [render_eq_ok_iff]
  constructor
  · rintro ⟨_, t, head, first, others, condition, groups, having, order, table, hh, hf, ho, hc, hg,
      hv, hr, _⟩
    obtain ⟨⟨own, written⟩, tests⟩ := nodes.1 ⟨condition, hc⟩
    exact ⟨⟨_, t, head, first, others, own, groups, having, order, table, hh, hf, ho, written, hg,
      hv, hr, rfl⟩, tests⟩
  · rintro ⟨⟨_, t, head, first, others, condition, groups, having, order, table, hh, hf, ho, hc, hg,
      hv, hr, _⟩, tests⟩
    obtain ⟨all, written⟩ := nodes.2 ⟨⟨condition, hc⟩, tests⟩
    exact ⟨_, t, head, first, others, all, groups, having, order, table, hh, hf, ho, written, hg,
      hv, hr, rfl⟩

theorem exists_compile_iff : (∃ st, q.compile d none = .ok st) ↔
    ∃ s, Scope.ofQuery q = .ok s ∧ ∃ f, q.render d s .standard = .ok f := by
  constructor
  · rintro ⟨st, compiled⟩
    obtain ⟨s, body, scope, written, _⟩ := compile_eq_ok_iff.1 compiled
    exact ⟨s, scope, body, written⟩
  · rintro ⟨s, scope, body, written⟩
    exact ⟨_, compile_eq_ok_iff.2 ⟨s, body, scope, written, rfl⟩⟩

/-- **No table hides another one.** Along every path of a query tree that compiles the aliases
differ. An alias that collides is used twice on a path. Queries on different branches may have any
aliases in common: several of them compile together when each of them does. -/
theorem compile_paths (d : Dialect) (q : Query) :
    (∀ window st, q.compile d window = .ok st →
      ∀ path, Descends q path → (pathAliases path).Nodup) ∧
    (∀ window name, q.compile d window = .error (.aliasCollision name) →
      ∃ path, Descends q path ∧ 2 ≤ (pathAliases path).count name) ∧
    ∀ branches : List Query,
      (∃ st, (q.whereRows branches).compile d none = .ok st) ↔
        (∃ st, q.compile d none = .ok st) ∧
          ∀ c ∈ branches, ∃ st, (q.whereRows [c]).compile d none = .ok st := by
  refine ⟨?_, ?_, ?_⟩
  · intro window st compiled path h
    obtain ⟨options, each⟩ := exists_steps_ok compiled
    exact nodup_pathAliases each h
  · intro window name failed
    obtain ⟨options, step, member, outcome⟩ := exists_step_collision failed
    have entry : ∃ place c, step = .enter place c ∧ Descends q (c :: place) := by
      rcases List.mem_cons.1 member with rfl | below
      · exact ⟨[], q, rfl, .root⟩
      · rcases isOwn_or_descends q .root below with own | entry
        · exact absurd outcome (Step.noCollision_outcome own name)
        · exact entry
    obtain ⟨place, c, rfl, h⟩ := entry
    exact ⟨c :: place, h, Scope.count_of_inside (map_eq_error.1 outcome)⟩
  · intro branches
    have scope : ∀ branches, Scope.ofQuery (q.whereRows branches) = Scope.ofQuery q := fun _ => rfl
    simp only [exists_compile_iff, scope, exists_render_whereRows_iff, List.forall_mem_singleton]
    constructor
    · rintro ⟨s, entered, written, tests⟩
      exact ⟨⟨s, entered, written⟩, fun c member => ⟨s, entered, written, tests c member⟩⟩
    · rintro ⟨⟨s, entered, written⟩, each⟩
      refine ⟨s, entered, written, fun c member => ?_⟩
      obtain ⟨s', entered', _, tests⟩ := each c member
      rw [entered] at entered'
      cases entered'
      exact tests

/-- Orders with items and with invoices, both under one alias. -/
def branchesSample : Query :=
  ((empty 0).selectFrom ⟨"o", .named "ORDERS"⟩).whereRows
    [(empty 0).selectFrom ⟨"i", .named "ITEMS"⟩, (empty 0).selectFrom ⟨"i", .named "INVOICES"⟩]

/-- A user with other users inside, under the same alias. -/
def hidingSample : Query :=
  ((empty 0).selectFrom ⟨"u0", .named "USERS"⟩).whereRows
    [(empty 1).selectFrom ⟨"u0", .named "USERS"⟩]

theorem compile_paths_branchesSample :
    (∃ st, branchesSample.compile .generic none = .ok st ∧
      st.sql = "SELECT * FROM ORDERS o WHERE EXISTS (SELECT * FROM ITEMS i) AND " ++
        "EXISTS (SELECT * FROM INVOICES i)" ∧
      ∀ path, Descends branchesSample path → (pathAliases path).Nodup) ∧
    hidingSample.compile .generic none = .error (.aliasCollision "u0") ∧
      ∃ path, Descends hidingSample path ∧ 2 ≤ (pathAliases path).count "u0" := by
  have both : (∃ st, branchesSample.compile .generic none = .ok st) :=
    ((compile_paths .generic ((empty 0).selectFrom ⟨"o", .named "ORDERS"⟩)).2.2 _).2
      ⟨⟨_, rfl⟩, by
        intro c member
        simp only [List.mem_cons, List.not_mem_nil, or_false] at member
        rcases member with rfl | rfl
        · exact ⟨_, rfl⟩
        · exact ⟨_, rfl⟩⟩
  obtain ⟨st, compiled⟩ := both
  have collides : hidingSample.compile .generic none = .error (.aliasCollision "u0") := rfl
  refine ⟨⟨st, compiled, ?_, (compile_paths .generic branchesSample).1 none st compiled⟩, collides,
    (compile_paths .generic hidingSample).2.1 none "u0" collides⟩
  cases compiled
  decide +kernel

end Query

end EntitySql
