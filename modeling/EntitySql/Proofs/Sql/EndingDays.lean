import EntitySql.Proofs.Sql.Operation

/-!
# Queries with and without ended days

A scope says whether upper bounds stand for the end of their day. One and the same query is written
here in two scopes that differ in nothing else.

What a fragment shows besides the values of its parameters is its layout: the texts, and the places
of the parameters between them. Text and placeholders follow from the layout, so does whether
something is written at all. The two scopes give a query one layout, or the same error
(`Query.layout_render`). The queries inside take no notice: what ends their days is their own.
-/

namespace EntitySql

set_option autoImplicit false

open Outcome

variable {d : Dialect} {f g : Fragment}

/-! ## Layouts -/

/-- The text of a piece; a parameter has none. -/
def Piece.layout : Piece → Option String
  | text s => some s
  | parameter _ => none

namespace Fragment

/-- The texts of a fragment and the places of its parameters. -/
def layout (f : Fragment) : List (Option String) := f.map Piece.layout

@[simp] theorem layout_append (f g : Fragment) : layout (f ++ g) = f.layout ++ g.layout :=
  List.map_append

@[simp] theorem layout_text (s : String) (f : Fragment) :
    layout (.text s :: f) = some s :: f.layout := rfl

/-- The layout is known up to its texts by whether something is written. -/
theorem writesNothing_eq (f : Fragment) :
    f.writesNothing = f.layout.all fun piece => piece == some "" := by
  rw [writesNothing, layout, List.all_map]
  congr 1
  funext piece
  cases piece <;> rfl

/-- One layout gives one text, numbers of placeholders included. -/
theorem sqlFrom_congr (n : Nat) (same : f.layout = g.layout) : f.sqlFrom d n = g.sqlFrom d n := by
  induction f generalizing g n with
  | nil =>
    cases g with
    | nil => rfl
    | cons piece g => cases same
  | cons piece f ih =>
    cases g with
    | nil => cases same
    | cons other g =>
      obtain ⟨first, rest⟩ := List.cons_eq_cons.1 same
      cases piece with
      | text s =>
        cases other with
        | text t =>
          cases first
          rw [sqlFrom_text, sqlFrom_text, ih n rest]
        | parameter p => cases first
      | parameter p =>
        cases other with
        | text t => cases first
        | parameter p' => rw [sqlFrom_parameter, sqlFrom_parameter, ih (n + 1) rest]

theorem writesNothing_congr (same : f.layout = g.layout) : f.writesNothing = g.writesNothing := by
  rw [writesNothing_eq, writesNothing_eq, same]

theorem layout_parenthesized_congr (same : f.layout = g.layout) :
    f.parenthesized.layout = g.parenthesized.layout := by
  rw [parenthesized, parenthesized, writesNothing_congr same]
  split
  · rfl
  · simp [same]

theorem layout_after_congr (keyword : String) (same : f.layout = g.layout) :
    (f.after keyword).layout = (g.after keyword).layout := by
  rw [after, after, writesNothing_congr same]
  split
  · rfl
  · simp [same]

theorem layout_whereClause_congr (extra : Option String) (same : f.layout = g.layout) :
    (whereClause f extra).layout = (whereClause g extra).layout := by
  cases extra with
  | none => exact layout_after_congr " WHERE " same
  | some e =>
    rw [whereClause, whereClause, writesNothing_congr same]
    split
    · rfl
    · simp [same]

theorem layout_separatedAfter_congr (separator : String) (wrote : Bool) {fs gs : List Fragment}
    (same : fs.map layout = gs.map layout) :
    (separatedAfter separator wrote fs).layout = (separatedAfter separator wrote gs).layout := by
  induction fs generalizing gs wrote with
  | nil =>
    cases gs with
    | nil => rfl
    | cons g gs => cases same
  | cons f fs ih =>
    cases gs with
    | nil => cases same
    | cons g gs =>
      obtain ⟨first, rest⟩ := List.cons_eq_cons.1 same
      have others := ih (!g.writesNothing) rest
      rw [separatedAfter, separatedAfter, writesNothing_congr first, layout_append, layout_append,
        others]
      cases wrote <;> simp [first]

/-- A node as it looks in a condition. -/
def nodeLayout (node : Connective × Fragment) : Connective × List (Option String) :=
  (node.1, node.2.layout)

theorem layout_chainedAfter_congr (started : Bool) {fs gs : List (Connective × Fragment)}
    (same : fs.map nodeLayout = gs.map nodeLayout) :
    (chainedAfter started fs).layout = (chainedAfter started gs).layout := by
  induction fs generalizing gs started with
  | nil =>
    cases gs with
    | nil => rfl
    | cons g gs => cases same
  | cons f fs ih =>
    cases gs with
    | nil => cases same
    | cons g gs =>
      obtain ⟨c, f⟩ := f
      obtain ⟨c', g⟩ := g
      obtain ⟨first, rest⟩ := List.cons_eq_cons.1 same
      obtain ⟨rfl, first⟩ := Prod.mk.inj first
      rw [chainedAfter, chainedAfter, writesNothing_congr first]
      split
      · exact ih started rest
      · rw [layout_append, layout_append, ih true rest]
        cases started <;> simp [first]

end Fragment

/-! ## What takes no notice -/

namespace Scope

/-- The scope where upper bounds stand for the end of their day, or do not. -/
def endingDays (s : Scope) (on : Bool) : Scope := { s with endOfDay := on }

@[simp] theorem inside_endingDays (s : Scope) (on : Bool) (q : Query) :
    (s.endingDays on).inside q = s.inside q := rfl

end Scope

section Scopes

variable (s : Scope) (on : Bool)

theorem Column.render_endingDays : ∀ c : Column,
    c.render d (s.endingDays on) = c.render d s
  | ⟨function, qualifier, name, label, value, raw, none⟩ => by
    rw [render, render]
    rfl
  | ⟨function, qualifier, name, label, value, raw, some (op, other)⟩ => by
    rw [render, render, Column.render_endingDays other]
    rfl

theorem Column.renderLabeled_endingDays (c : Column) :
    c.renderLabeled d (s.endingDays on) = c.renderLabeled d s := by
  rw [renderLabeled, renderLabeled, Column.render_endingDays]

theorem Ordered.render_endingDays (o : Ordered) :
    o.render d (s.endingDays on) = o.render d s := by
  rw [Ordered.render, Ordered.render, Column.render_endingDays]

theorem LeftSide.ofColumn_endingDays (c : Column) :
    LeftSide.ofColumn d (s.endingDays on) c = LeftSide.ofColumn d s c := by
  rw [ofColumn, ofColumn, Column.render_endingDays]
  rfl

theorem selectHead_endingDays (options : SelectOptions) (distinct : Bool)
    (columns : List Column) :
    selectHead d (s.endingDays on) options distinct columns =
      selectHead d s options distinct columns := by
  have list : selectList d (s.endingDays on) columns = selectList d s columns := by
    rw [selectList, selectList, funext (Column.renderLabeled_endingDays s on)]
  rw [selectHead, selectHead, list]

theorem groupClause_endingDays (columns : List Column) :
    groupClause d (s.endingDays on) columns = groupClause d s columns := by
  rw [groupClause, groupClause, funext (Column.render_endingDays s on)]

theorem orderClause_endingDays (terms : List Ordered) :
    orderClause d (s.endingDays on) terms = orderClause d s terms := by
  rw [orderClause, orderClause, funext (Ordered.render_endingDays s on)]

theorem finalOrder_endingDays (options : SelectOptions) (terms : List Ordered) :
    finalOrder d (s.endingDays on) options terms = finalOrder d s options terms := by
  rw [finalOrder, finalOrder, orderClause_endingDays]

/-- A table is written without a look at the bounds around it. -/
theorem Table.render_endingDays (t : Table) : t.render d (s.endingDays on) = t.render d s := by
  obtain ⟨aliasName, source⟩ := t
  cases source with
  | entity schema => rfl
  | named name => rfl
  | subQuery q =>
    simp only [Table.render, TableSource.render, Scope.inside_endingDays]

theorem Query.numberingOrder_endingDays (q : Query) :
    q.numberingOrder d (s.endingDays on) = q.numberingOrder d s := by
  have term : ∀ columns : List Column,
      derivedTerm d (s.endingDays on) columns = derivedTerm d s columns := by
    intro columns
    funext o
    rw [derivedTerm, derivedTerm]
    split
    · rfl
    · exact Ordered.render_endingDays { s with qualify := false } on o
  rw [numberingOrder, numberingOrder, term, orderClause_endingDays]

/-! ## What keeps its layout -/

/-- Of all tests only a comparison with a value takes notice, and it changes that value alone. -/
theorem Predicate.layout_render (p : Predicate) :
    (p.render d (s.endingDays on)).map Fragment.layout = (p.render d s).map Fragment.layout := by
  cases p with
  | compare c k operand =>
    rw [Predicate.render, Predicate.render, LeftSide.ofColumn_endingDays]
    refine map_bind_congr_right fun l => ?_
    cases operand with
    | value v =>
      rw [compareTest, compareTest]
      split
      · rfl
      · rfl
    | column other => rw [compareTest, compareTest, Column.render_endingDays]
  | like c place negated part =>
    rw [Predicate.render, Predicate.render, LeftSide.ofColumn_endingDays]
  | among c negated values =>
    rw [Predicate.render, Predicate.render, LeftSide.ofColumn_endingDays]
  | isNull c negated => rw [Predicate.render, Predicate.render, LeftSide.ofColumn_endingDays]
  | isEmpty c negated => rw [Predicate.render, Predicate.render, LeftSide.ofColumn_endingDays]
  | between c low high => rw [Predicate.render, Predicate.render, LeftSide.ofColumn_endingDays]
  | hasRows negated q => rw [Predicate.render, Predicate.render, Scope.inside_endingDays]

theorem Predicate.layout_renderAll (ps : List Predicate) :
    (Predicate.renderAll d (s.endingDays on) ps).map (List.map Fragment.layout) =
      (Predicate.renderAll d s ps).map (List.map Fragment.layout) := by
  induction ps with
  | nil => rfl
  | cons p ps ih =>
    rw [Predicate.renderAll, Predicate.renderAll]
    refine map_bind_congr (Predicate.layout_render s on p) fun f g first => ?_
    refine map_bind_congr ih fun fs gs rest => congrArg Except.ok ?_
    rw [List.map_cons, List.map_cons, first, rest]

mutual
theorem Node.layout_render : ∀ n : Node,
    (n.render d (s.endingDays on)).map Fragment.layout = (n.render d s).map Fragment.layout
  | .predicate _ p => by
    rw [Node.render_predicate, Node.render_predicate]
    exact Predicate.layout_render s on p
  | .nested _ nodes => by
    rw [Node.render, Node.render]
    refine map_bind_congr (Node.layout_renderAll nodes) fun fs gs same => congrArg Except.ok ?_
    exact Fragment.layout_parenthesized_congr (Fragment.layout_chainedAfter_congr false same)
  | .group c members => by
    rw [Node.render, Node.render]
    refine map_bind_congr (Predicate.layout_renderAll s on members) fun fs gs same =>
      congrArg Except.ok ?_
    exact Fragment.layout_parenthesized_congr
      (Fragment.layout_separatedAfter_congr c.inner.spaced false same)

/-- The nodes of a condition keep their layouts. -/
theorem Node.layout_renderAll : ∀ ns : List Node,
    (Node.renderAll d (s.endingDays on) ns).map (List.map Fragment.nodeLayout) =
      (Node.renderAll d s ns).map (List.map Fragment.nodeLayout)
  | [] => rfl
  | n :: ns => by
    rw [Node.renderAll, Node.renderAll]
    refine map_bind_congr (Node.layout_render n) fun f g first => ?_
    refine map_bind_congr (Node.layout_renderAll ns) fun fs gs rest => congrArg Except.ok ?_
    rw [List.map_cons, List.map_cons, rest]
    exact congrArg (· :: _) (congrArg (Prod.mk n.composition.outer) first)
end

/-- A condition keeps its layout. -/
theorem Condition.layout_render (c : Condition) :
    (Condition.render d (s.endingDays on) c).map Fragment.layout =
      (Condition.render d s c).map Fragment.layout :=
  map_map_congr (Node.layout_renderAll s on c) fun _ _ same =>
    Fragment.layout_chainedAfter_congr false same

theorem Join.layout_render (j : Join) :
    (j.render d (s.endingDays on)).map Fragment.layout = (j.render d s).map Fragment.layout := by
  obtain ⟨kind, table, on'⟩ := j
  rw [Join.render, Join.render, Table.render_endingDays]
  refine map_bind_congr_right fun t => ?_
  refine map_bind_congr (Condition.layout_render s on on') fun f g same => congrArg Except.ok ?_
  cases on' with
  | nil => rfl
  | cons n ns => simp [same]

theorem Join.layout_renderAll (js : List Join) :
    (Join.renderAll d (s.endingDays on) js).map Fragment.layout =
      (Join.renderAll d s js).map Fragment.layout := by
  induction js with
  | nil => rfl
  | cons j js ih =>
    rw [Join.renderAll, Join.renderAll]
    refine map_bind_congr (Join.layout_render s on j) fun f g first => ?_
    refine map_bind_congr ih fun f' g' rest => congrArg Except.ok ?_
    rw [Fragment.layout_append, Fragment.layout_append, first, rest]

/-- **A query keeps its layout,** or fails for one reason, whether the days of its bounds are ended
or not. -/
theorem Query.layout_render (options : SelectOptions) (q : Query) :
    (q.render d (s.endingDays on) options).map Fragment.layout =
      (q.render d s options).map Fragment.layout := by
  obtain ⟨table, joins, columns, distinct, filter, groupBy, having, orderBy, _, _, _⟩ := q
  cases table with
  | none => rfl
  | some t =>
    rw [Query.render, Query.render]
    simp only [selectHead_endingDays, groupClause_endingDays, finalOrder_endingDays,
      Table.render_endingDays]
    refine map_bind_congr_right fun head => map_bind_congr_right fun first => ?_
    refine map_bind_congr (Join.layout_renderAll s on joins) fun others others' joined => ?_
    refine map_bind_congr (Condition.layout_render s on filter) fun f g condition => ?_
    refine map_bind_congr_right fun groups => ?_
    refine map_bind_congr (Condition.layout_render s on having) fun f' g' groupCondition => ?_
    refine map_bind_congr_right fun order => congrArg Except.ok ?_
    simp only [Fragment.layout_append, Fragment.layout_text, joined,
      Fragment.layout_whereClause_congr options.extraCondition condition,
      Fragment.layout_after_congr " HAVING " groupCondition]

/-! ## Paged forms -/

theorem Query.layout_renderNumbered (q : Query) :
    (q.renderNumbered d (s.endingDays on)).map Fragment.layout =
      (q.renderNumbered d s).map Fragment.layout := by
  rw [renderNumbered, renderNumbered, Query.numberingOrder_endingDays]
  refine map_bind_congr_right fun order => ?_
  split
  · refine map_bind_congr (Query.layout_render s on _ q) fun f g same => congrArg Except.ok ?_
    simp [same]
  · exact Query.layout_render s on _ q

/-- A paged query keeps its layout as the query does: the forms around it are made of texts, limit
and offset. -/
theorem Query.layout_renderPaged (q : Query) (state : PageState) :
    (q.renderPaged d (s.endingDays on) state).map Fragment.layout =
      (q.renderPaged d s state).map Fragment.layout := by
  have within : ∀ {options : SelectOptions} (before after : Fragment),
      (q.render d (s.endingDays on) options >>= fun f =>
          pure (before ++ (f ++ after))).map Fragment.layout =
        (q.render d s options >>= fun f => pure (before ++ (f ++ after))).map Fragment.layout := by
    intro options before after
    refine map_bind_congr (Query.layout_render s on options q) fun f g same => congrArg Except.ok ?_
    simp [same]
  rw [renderPaged, renderPaged]
  split
  · exact Query.layout_render s on .standard q
  · split
    · exact within [] _
    · refine map_bind_congr (Query.layout_renderNumbered s on q) fun f g same =>
        congrArg Except.ok ?_
      simp [same]
    · split
      · exact within [_] _
      · split
        · exact within [_] _
        · exact within [_] _

end Scopes

/-! ## The mode of a query -/

namespace Query

/-- The query with the days of its upper bounds ended, or not. -/
def endingDays (q : Query) (on : Bool) : Query := { q with endOfDay := on }

/-- The scope of a query has the mode of the query. -/
theorem ofQuery_endingDays (q : Query) (on : Bool) :
    Scope.ofQuery (q.endingDays on) = (Scope.ofQuery q).map fun s => s.endingDays on := by
  rw [Scope.ofQuery, Scope.ofQuery, Scope.enter, Scope.enter]
  by_cases absent : q.table.isNone = true
  · rw [if_pos (show (q.endingDays on).table.isNone = true from absent), if_pos absent]
    rfl
  · rw [if_neg (show ¬ (q.endingDays on).table.isNone = true from absent), if_neg absent]
    have tables : (q.endingDays on).tables = q.tables := rfl
    simp only [tables]
    split
    · rfl
    · split <;> rfl

/-- What is written for a query depends on its mode by way of the scope only. -/
theorem render_endingDays (q : Query) (on : Bool) (s : Scope) (options : SelectOptions) :
    (q.endingDays on).render d s options = q.render d s options := by
  obtain ⟨table, joins, columns, distinct, filter, groupBy, having, orderBy, _, shape, pool⟩ := q
  cases table with
  | none => rfl
  | some t => rw [endingDays, Query.render, Query.render]

theorem renderPaged_endingDays (q : Query) (on : Bool) (s : Scope) (state : PageState) :
    (q.endingDays on).renderPaged d s state = q.renderPaged d s state := by
  simp only [renderPaged, renderPlain, renderLimited, renderRowNumber, renderNumbered,
    renderPseudoOrdered, renderPseudoDirect, renderPseudoWrapped, render_endingDays]
  rfl

/-- What a statement shows besides the values of its parameters. -/
def shown (st : Statement) : Dialect × List (Option String) × Shape × List Column :=
  (st.dialect, st.body.layout, st.shape, st.columns)

/-- **The mode of a query changes values of parameters only.** The statement keeps its layout, or
the query fails for one reason. -/
theorem shown_compile (q : Query) (on off : Bool) (window : Option PageWindow) :
    ((q.endingDays on).compile d window).map shown =
      ((q.endingDays off).compile d window).map shown := by
  simp only [compile, ofQuery_endingDays, renderPaged_endingDays]
  cases Scope.ofQuery q with
  | error e => rfl
  | ok s =>
    have same := (layout_renderPaged (d := d) s on q (.ofWindow window (!q.orderBy.isEmpty))).trans
      (layout_renderPaged s off q _).symm
    show (_ >>= _ : Except Error Statement).map shown =
      (q.renderPaged d (s.endingDays off) _ >>= _).map shown
    refine map_bind_congr same fun f g layout => congrArg Except.ok ?_
    rw [shown, shown, layout]
    rfl

end Query

end EntitySql
