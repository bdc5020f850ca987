import EntitySql.Proofs.Sql.Emission
import EntitySql.Proofs.Sql.Operation
import EntitySql.Proofs.Text.Identifiers
import EntitySql.Sql.Writer

/-!
# Statements written and rendered

Writing a statement into a text, with its parameters collected on the way, gives the text and the
parameters of the fragment it is rendered as, and fails with the same error where there is none
(`Operation.write_eq`). So what is proved of fragments holds of the text and the list of parameters
that are put together apart from each other.

Every writer emits what the renderer of the same part returns, in every scope. Queries, tables,
joins, conditions and predicates are one induction, over the query that is written
(`Query.emits_write`).
-/

namespace EntitySql

set_option autoImplicit false

open Outcome Writer

variable {d : Dialect} {s : Scope}

/-! ## Columns and terms -/

theorem emits_rendered {render : Scope → Except Error String} :
    Emits d s (do push (← render (← scope))) ((render s).map fun t => [.text t]) := by
  rw [← bind_pure_eq_map]
  exact finds_scope.emits fun here => (finds_lift (render here)).emits fun t => emits_push t

theorem Column.emits_write (c : Column) :
    Emits d s (c.write d) ((c.render d s).map fun t => [.text t]) := emits_rendered

theorem Column.emits_writeLabeled (c : Column) :
    Emits d s (c.writeLabeled d) ((c.renderLabeled d s).map fun t => [.text t]) := emits_rendered

/-- Fragments with the same parameters and the same texts add the same. -/
theorem Fragment.effect_congr {f g : Fragment} (parameters : f.parameters = g.parameters)
    (texts : ∀ n, f.sqlFrom d n = g.sqlFrom d n) : f.effect d = g.effect d :=
  Prod.ext parameters (funext texts)

/-- A text before another one. -/
theorem Emits.prefixed {w : Writer Unit} {x : Except Error String} (t : String)
    (h : Emits d s w (x.map fun u => [.text u])) :
    Emits d s (do push t; w) (x.map fun u => [.text (t ++ u)]) := by
  refine ((emits_push t).append h).congr ?_
  cases x with
  | error e => rfl
  | ok u => exact congrArg Except.ok (Fragment.effect_congr rfl fun n => by simp)

/-- A text behind another one. -/
theorem Emits.suffixed {w : Writer Unit} {x : Except Error String} (t : String)
    (h : Emits d s w (x.map fun u => [.text u])) :
    Emits d s (do w; push t) (x.map fun u => [.text (u ++ t)]) := by
  refine (h.append (emits_push t)).congr ?_
  cases x with
  | error e => rfl
  | ok u => exact congrArg Except.ok (Fragment.effect_congr rfl fun n => by simp)

theorem Ordered.emits_write (o : Ordered) :
    Emits d s (o.write d) ((o.render d s).map fun t => [.text t]) := by
  rw [Ordered.render, map_map]
  exact o.column.emits_write.suffixed o.direction.word

/-- A term to order by ends with its direction. -/
theorem Ordered.render_ne_empty {o : Ordered} {t : String} (h : o.render d s = .ok t) : t ≠ "" := by
  obtain ⟨expression, _, rfl⟩ := map_eq_ok.1 h
  intro empty
  have ends := congrArg String.toList empty
  cases h : o.direction <;> simp [h, Direction.word] at ends

theorem emits_writeOrderClause (terms : List Ordered) :
    Emits d s (writeOrderClause d terms) ((orderClause d s terms).map fun t => [.text t]) := by
  refine ((emits_push "ORDER BY ").append
    (emits_separatedTexts Ordered.emits_write ", " terms)).congr ?_
  rw [orderClause]
  cases written : terms.mapM (Ordered.render d s) with
  | error e => rfl
  | ok texts =>
    refine congrArg Except.ok (Fragment.effect_congr (by simp) fun n => ?_)
    have each := forall_of_mapM (p := (· ≠ "")) written fun _ _ _ => Ordered.render_ne_empty
    show "ORDER BY " ++ (separatedTexts ", " texts).sqlFrom d n = _
    rw [Fragment.sqlFrom_separatedTexts d ", " each]
    simp

theorem LeftSide.finds_read (c : Column) :
    Finds s (LeftSide.read d c) (LeftSide.ofColumn d s c) :=
  finds_scope.bind fun here => (finds_lift (here.columnDefOf c)).bind fun _ =>
    (c.emits_write).finds.bind fun _ => finds_pure _

/-! ## Tests -/

theorem emits_writeNullTest (left : String) (comparison : Comparison) :
    Emits d s (writeNullTest left comparison) (nullTest left comparison) := by
  cases comparison <;> first | exact emits_push _ | exact emits_throw _

theorem emits_writeCompareTest (l : LeftSide) (comparison : Comparison) (operand : Operand) :
    Emits d s (writeCompareTest d l comparison operand) (compareTest d s l comparison operand) := by
  cases operand with
  | value v =>
    show Emits d s (if v.isNull = true then _ else _) (if v.isNull = true then _ else _)
    split
    · exact emits_writeNullTest l.expression comparison
    · let shifted (here : Scope) :=
        if here.endOfDay && comparison.boundsAbove then shiftEndOfDay v else v
      exact finds_scope.emits
        (y := fun here => .ok [.text (l.expression ++ " " ++ comparison.symbol ++ " "),
          l.parameter (shifted here)])
        fun _ => (emits_push _).append (emits_parameter _)
  | column other =>
    exact other.emits_write.prefixed (l.expression ++ " " ++ comparison.symbol ++ " ")

theorem emits_writeLikeTest (l : LeftSide) (place : PatternPlace) (negated : Bool) (part : Value) :
    Emits d s (writeLikeTest d l place negated part) (likeTest l place negated part) := by
  rw [likeTest, ← bind_pure_eq_map]
  exact (finds_lift (patternText part)).emits fun _ => (emits_push _).append (emits_parameter _)

theorem emits_writeAmongTest (l : LeftSide) (negated : Bool) (values : List Value) :
    Emits d s (writeAmongTest d l negated values) (.ok (amongTest l negated values)) := by
  rw [writeAmongTest, amongTest]
  split
  · exact emits_push _
  · exact (emits_push _).append
      ((emits_separated_pure (fun v => emits_parameter (.forColumn? v l.column)) ", " values).append
        (emits_push _))

theorem emits_writeBetweenTest (l : LeftSide) (low high : Value) :
    Emits d s (writeBetweenTest d l low high) (betweenTest l low high) := by
  rw [writeBetweenTest, betweenTest]
  cases low.isNull <;> cases high.isNull
  · exact (emits_push _).append ((emits_parameter _).append
      ((emits_push _).append (emits_parameter _)))
  · exact emits_throw _
  · exact emits_throw _
  · exact emits_nothing

/-! ## Texts of conditions -/

namespace Fragment

variable (f : Fragment) (n : Nat)

theorem sqlFrom_parenthesized :
    f.parenthesized.sqlFrom d n = enclosedText (f.sqlFrom d n) := by
  simp only [parenthesized, enclosedText, sqlFrom_eq_empty_iff]
  split
  · rfl
  · simp [sqlFrom_append, String.append_assoc]

theorem sqlFrom_after (keyword : String) :
    (f.after keyword).sqlFrom d n = textAfter keyword (f.sqlFrom d n) := by
  simp only [after, textAfter, sqlFrom_eq_empty_iff]
  split <;> rfl

theorem sqlFrom_whereClause (extra : Option String) :
    (whereClause f extra).sqlFrom d n = whereText extra (f.sqlFrom d n) := by
  cases extra with
  | none => exact sqlFrom_after f n " WHERE "
  | some e =>
    simp only [whereClause, whereText, sqlFrom_eq_empty_iff]
    split
    · simp
    · simp [sqlFrom_append, String.append_assoc]

end Fragment

/-! ## Parts of a selection -/

theorem emits_writeSelectList (columns : List Column) :
    Emits d s (writeSelectList d columns) (selectList d s columns) := by
  rw [writeSelectList, selectList]
  split
  · exact emits_push _
  · exact emits_separatedTexts Column.emits_writeLabeled ", " columns

theorem emits_writeSelectHead (options : SelectOptions) (distinct : Bool) (columns : List Column) :
    Emits d s (writeSelectHead d options distinct columns)
      (selectHead d s options distinct columns) := by
  rw [writeSelectHead, selectHead]
  split
  · exact ((emits_push _).append (emits_push _)).congr rfl
  · refine ((emits_push _).append ((emits_push _).append
      ((emits_writeSelectList columns).append (emits_push _)))).congr ?_
    cases selectList d s columns with
    | error e => rfl
    | ok list =>
      refine congrArg Except.ok (Fragment.effect_congr ?_ fun n => ?_)
      · cases options.extraColumn <;> simp
      · cases distinct <;> cases options.extraColumn <;>
          simp [Fragment.sqlFrom_append, ← String.append_assoc]

theorem emits_writeGroupClause (columns : List Column) :
    Emits d s (writeGroupClause d columns) (groupClause d s columns) := by
  rw [writeGroupClause, groupClause]
  split
  · exact emits_nothing
  · refine ((emits_push _).append
      (emits_separatedTexts Column.emits_write ", " columns)).congr ?_
    cases columns.mapM (Column.render d s) <;> rfl

theorem emits_writeFinalOrder (options : SelectOptions) (terms : List Ordered) :
    Emits d s (writeFinalOrder d options terms) (finalOrder d s options terms) := by
  rw [writeFinalOrder, finalOrder]
  split
  · exact emits_nothing
  · exact (emits_writeOrderClause terms).prefixed " "

/-! ## Queries, tables, joins and conditions -/

/-- The parts of a selection, one behind the other. -/
theorem emits_selection {head first others condition groups groupCondition order : Writer Unit}
    {xHead xFirst xOthers xCondition xGroups xGroupCondition xOrder : Except Error Fragment}
    {extra : Option String} (emitsHead : Emits d s head xHead)
    (emitsFirst : Emits d s first xFirst) (emitsOthers : Emits d s others xOthers)
    (emitsCondition : Emits d s condition xCondition) (emitsGroups : Emits d s groups xGroups)
    (emitsGroupCondition : Emits d s groupCondition xGroupCondition)
    (emitsOrder : Emits d s order xOrder) :
    Emits d s (do
      head
      push " FROM "
      first
      others
      let t ← aside condition
      push (whereText extra t)
      groups
      let t ← aside groupCondition
      push (textAfter " HAVING " t)
      order) (do
      let head ← xHead
      let first ← xFirst
      let others ← xOthers
      let condition ← xCondition
      let groups ← xGroups
      let groupCondition ← xGroupCondition
      let order ← xOrder
      return head ++ .text " FROM " :: (first ++ others ++ whereClause condition extra ++ groups ++
        groupCondition.after " HAVING " ++ order)) := by
  have written := emitsHead.append <| (emits_push " FROM ").append <| emitsFirst.append <|
    emitsOthers.append <|
    emitsCondition.beside_append (whereText extra) (g := fun f => whereClause f extra)
      (fun f => Fragment.parameters_whereClause f extra)
      (fun f n => Fragment.sqlFrom_whereClause f n extra) <|
    emitsGroups.append <|
    emitsGroupCondition.beside_append (textAfter " HAVING ") (g := Fragment.after " HAVING ")
      (fun f => Fragment.parameters_after " HAVING " f)
      (fun f n => Fragment.sqlFrom_after f n " HAVING ") emitsOrder
  refine written.congr ?_
  rcases xHead with _ | head
  · rfl
  rcases xFirst with _ | first
  · rfl
  rcases xOthers with _ | others
  · rfl
  rcases xCondition with _ | condition
  · rfl
  rcases xGroups with _ | groups
  · rfl
  rcases xGroupCondition with _ | groupCondition
  · rfl
  rcases xOrder with _ | order
  · rfl
  refine congrArg (fun f => Except.ok (Fragment.effect d f)) ?_
  simp

/-- A query in parentheses behind a word. -/
theorem emits_enclosedQuery {q : Query} (word : String)
    (h : ∀ inner, Emits d inner (q.write d .standard) (q.render d inner .standard)) :
    Emits d s (do
      push word
      inside q (q.write d .standard)
      push ")") (do
      let inner ← s.inside q
      let f ← q.render d inner .standard
      return .text word :: (f ++ [.text ")"])) := by
  refine ((emits_push word).append ((Emits.inside h).append (emits_push ")"))).congr ?_
  cases s.inside q with
  | error e => rfl
  | ok inner =>
    simp only [Bind.bind, Except.bind]
    cases q.render d inner .standard <;> rfl

/-- The name of a table is its parts with points between them. -/
theorem effect_tableName (name : String) :
    (Fragment.separated "."
        ((nameParts name).map fun part => [.text (d.identifier part)])).effect d =
      Fragment.effect d [.text (tableName d name)] := by
  have parts : Fragment.separated "."
      ((nameParts name).map fun part => [.text (d.identifier part)]) =
        separatedTexts "." ((nameParts name).map d.identifier) := by
    rw [separatedTexts, List.map_map]
    rfl
  rw [parts]
  refine Fragment.effect_congr (by simp) fun n => ?_
  rw [Fragment.sqlFrom_separatedTexts]
  · simp [tableName]
  · intro t member
    obtain ⟨part, _, rfl⟩ := List.mem_map.1 member
    exact d.identifier_ne_empty part

theorem Predicate.renderAll_eq (ps : List Predicate) :
    (ps.map (Predicate.render d s)).mapM id = Predicate.renderAll d s ps := by
  induction ps with
  | nil => rfl
  | cons p ps ih =>
    rw [List.map_cons, List.mapM_cons, ih, Predicate.renderAll]
    rfl

/-- The nodes of a condition are chained one after the other. -/
theorem emits_chain {n : Node} {ns : List Node} {first : Bool}
    (item : Emits d s (n.write d) (n.render d s))
    (rest : ∀ first, Emits d s (Node.writeAll d first ns)
      ((Node.renderAll d s ns).map (Fragment.chainedAfter !first))) :
    Emits d s (Node.writeAll d first (n :: ns))
      ((Node.renderAll d s (n :: ns)).map (Fragment.chainedAfter !first)) := by
  rw [Node.writeAll, Node.renderAll]
  refine (item.item (if first then "" else n.composition.outer.spaced) (rest first)
    (rest false)).congr ?_
  cases n.render d s with
  | error e => rfl
  | ok f =>
    show Except.map _ (if f.writesNothing then _ else _) = _
    cases Node.renderAll d s ns with
    | error e => split <;> rfl
    | ok fs =>
      refine Eq.trans ?_ (congrArg (fun f => Except.ok (Fragment.effect d f))
        (Fragment.chainedAfter.eq_2 _ n.composition.outer f fs).symm)
      split
      · rfl
      · refine congrArg Except.ok (Fragment.effect_congr ?_ fun n => ?_)
        · cases first <;> simp
        · cases first <;> simp

mutual
theorem Query.emits_write (options : SelectOptions) : ∀ (q : Query) (s : Scope),
    Emits d s (q.write d options) (q.render d s options)
  | ⟨none, _, _, _, _, _, _, _, _, _, _⟩, _ => emits_throw _
  | ⟨some t, joins, columns, distinct, filter, groupBy, having, orderBy, _, _, _⟩, s =>
    emits_selection (emits_writeSelectHead options distinct (Query.selected columns orderBy))
      (t.emits_write s) (Join.emits_writeAll joins s)
      (Node.emits_writeAll true filter s) (emits_writeGroupClause groupBy)
      (Node.emits_writeAll true having s) (emits_writeFinalOrder options orderBy)

theorem Table.emits_write : ∀ (t : Table) (s : Scope), Emits d s (t.write d) (t.render d s)
  | ⟨aliasName, source⟩, s => (source.emits_write s).append (emits_push (aliasSuffix aliasName))

theorem TableSource.emits_write : ∀ (source : TableSource) (s : Scope),
    Emits d s (source.write d) (source.render d s)
  | .entity schema, _ => emits_push (schemaTableName d schema.table)
  | .named name, _ => by
    refine (emits_separated_pure (fun part => emits_push (d.identifier part)) "."
      (nameParts name)).congr ?_
    exact congrArg Except.ok (effect_tableName name)
  | .subQuery q, _ => emits_enclosedQuery "(" (q.emits_write .standard)

theorem Join.emits_write : ∀ (j : Join) (s : Scope), Emits d s (j.write d) (j.render d s)
  | ⟨kind, table, on⟩, s => by
    refine ((emits_push (" " ++ kind.words ++ " ")).append ((table.emits_write s).append
      ((emits_push (if on.isEmpty then "" else " ON ")).append
        (Node.emits_writeAll true on s)))).congr ?_
    rw [Join.render]
    cases table.render d s with
    | error e => rfl
    | ok t =>
      cases on with
      | nil =>
        refine congrArg Except.ok (Fragment.effect_congr ?_ fun n => ?_)
        · simp [Fragment.chainedAfter]
        · simp [Fragment.chainedAfter, Fragment.sqlFrom_append]
      | cons n ns => cases Node.renderAll d s (n :: ns) <;> rfl

theorem Join.emits_writeAll : ∀ (js : List Join) (s : Scope),
    Emits d s (Join.writeAll d js) (Join.renderAll d s js)
  | [], _ => emits_nothing
  | j :: js, s => (j.emits_write s).append (Join.emits_writeAll js s)

theorem Node.emits_writeAll (first : Bool) : ∀ (ns : List Node) (s : Scope),
    Emits d s (Node.writeAll d first ns)
      ((Node.renderAll d s ns).map (Fragment.chainedAfter !first))
  | [], _ => emits_nothing
  | n :: ns, s => emits_chain (n.emits_write s) fun first => Node.emits_writeAll first ns s

theorem Node.emits_write : ∀ (n : Node) (s : Scope), Emits d s (n.write d) (n.render d s)
  | .predicate _ p, s => p.emits_write s
  | .nested _ nodes, s => by
    refine ((Node.emits_writeAll true nodes s).beside enclosedText
      Fragment.parameters_parenthesized Fragment.sqlFrom_parenthesized).congr ?_
    rw [Node.render]
    cases Node.renderAll d s nodes <;> rfl
  | .group c members, s => by
    refine ((emits_separated (Predicate.emits_writers members s) c.inner.spaced).beside
      enclosedText Fragment.parameters_parenthesized Fragment.sqlFrom_parenthesized).congr ?_
    rw [Predicate.renderAll_eq, Node.render]
    cases Predicate.renderAll d s members <;> rfl

theorem Predicate.emits_write : ∀ (p : Predicate) (s : Scope),
    Emits d s (p.write d) (p.render d s)
  | .compare c comparison operand, _ =>
    (LeftSide.finds_read c).emits fun l => emits_writeCompareTest l comparison operand
  | .like c place negated part, _ =>
    (LeftSide.finds_read c).emits fun l => emits_writeLikeTest l place negated part
  | .among c negated values, _ =>
    (LeftSide.finds_read c).emits fun l => emits_writeAmongTest l negated values
  | .isNull c _, _ => (LeftSide.finds_read c).emits fun _ => emits_push _
  | .isEmpty c _, _ => (LeftSide.finds_read c).emits fun _ => emits_push _
  | .between c low high, _ =>
    (LeftSide.finds_read c).emits fun l => emits_writeBetweenTest l low high
  | .hasRows _ q, _ => emits_enclosedQuery _ (q.emits_write .standard)

theorem Predicate.emits_writers : ∀ (ps : List Predicate) (s : Scope),
    List.Forall₂ (Emits d s) (Predicate.writers d ps) (ps.map (Predicate.render d s))
  | [], _ => .nil
  | p :: ps, s => .cons (p.emits_write s) (Predicate.emits_writers ps s)
end

/-! ## Paging -/

namespace Query

variable {q : Query}

theorem emits_writeLimited (w : PageWindow) :
    Emits d s (q.writeLimited d w) (q.renderLimited d s w) := by
  refine ((q.emits_write .standard s).append ((emits_push " LIMIT ").append
    ((emits_parameter _).append ((emits_push " OFFSET ").append (emits_parameter _))))).congr ?_
  rw [renderLimited, renderPlain]
  cases q.render d s .standard <;> rfl

theorem emits_writeDerivedTerm (columns : List Column) (o : Ordered) :
    Emits d { s with qualify := false } (writeDerivedTerm d columns o)
      ((derivedTerm d s columns o).map fun t => [.text t]) := by
  rw [writeDerivedTerm, derivedTerm]
  cases columns.find? fun c => c.label != "" && c.sameExpression o.column with
  | some c => exact Emits.suffixed (x := .ok (d.identifier c.label)) o.direction.word (emits_push _)
  | none => exact o.emits_write

/-- Terms behind one another, each but the first one behind a comma. -/
theorem emits_writeDerivedTerms (columns : List Column) (first : Bool) (terms : List Ordered) :
    Emits d { s with qualify := false } (writeDerivedTerms d columns first terms)
      ((terms.mapM (derivedTerm d s columns)).map fun ts =>
        [.text ((if first || ts.isEmpty then "" else ", ") ++ ", ".intercalate ts)]) := by
  induction terms generalizing first with
  | nil =>
    refine emits_nothing.congr ?_
    exact congrArg Except.ok (Fragment.effect_congr rfl fun n => by cases first <;> rfl)
  | cons o rest ih =>
    refine ((emits_push (if first then "" else ", ")).append
      ((emits_writeDerivedTerm columns o).append (ih false))).congr ?_
    rw [List.mapM_cons]
    cases derivedTerm d s columns o with
    | error e => rfl
    | ok t =>
      cases rest.mapM (derivedTerm d s columns) with
      | error e => rfl
      | ok ts =>
        refine congrArg Except.ok (Fragment.effect_congr rfl fun n => ?_)
        cases first <;> cases ts <;> simp [String.append_assoc]

theorem emits_writeNumbering :
    Emits d s (q.writeNumbering d) ((q.numberingOrder d s).map fun t => [.text t]) := by
  rw [writeNumbering, numberingOrder]
  split
  · exact emits_push anyOrder
  · split
    · refine (Emits.unqualified ((emits_push "ORDER BY ").append
        (emits_writeDerivedTerms (selected q.columns q.orderBy) true q.orderBy))).congr ?_
      cases q.orderBy.mapM (derivedTerm d s (selected q.columns q.orderBy)) with
      | error e => rfl
      | ok ts => exact congrArg Except.ok (Fragment.effect_congr rfl fun n => by simp)
    · exact emits_writeOrderClause q.orderBy

/-- A query between two texts. -/
theorem emits_between {options : SelectOptions} (before after : String) :
    Emits d s (do push before; q.write d options; push after) (do
      let f ← q.render d s options
      return .text before :: (f ++ [.text after])) := by
  refine ((emits_push before).append ((q.emits_write options s).append
    (emits_push after))).congr ?_
  cases q.render d s options <;> rfl

theorem emits_writeNumbered : Emits d s (q.writeNumbered d) (q.renderNumbered d s) := by
  refine emits_writeNumbering.finds.emits fun sorting => ?_
  dsimp only
  split
  · exact emits_between _ _
  · exact q.emits_write _ s

theorem emits_writeRowNumber (w : PageWindow) :
    Emits d s (q.writeRowNumber d w) (q.renderRowNumber d s w) := by
  refine ((emits_push _).append (emits_writeNumbered.append (emits_push _))).congr ?_
  rw [renderRowNumber]
  cases q.renderNumbered d s <;> rfl

theorem emits_writePaged (state : PageState) :
    Emits d s (q.writePaged d state) (q.renderPaged d s state) := by
  rw [writePaged, renderPaged]
  cases state.window? with
  | none => exact q.emits_write _ s
  | some w =>
    cases d.pagination with
    | limitOffset => exact emits_writeLimited w
    | rowNumber => exact emits_writeRowNumber w
    | pseudoRowNumber =>
      have unordered : Emits d s
          (if q.readsPseudoColumn then q.writePseudoDirect d w else q.writePseudoWrapped d w)
          (if q.readsPseudoColumn then q.renderPseudoDirect d s w
            else q.renderPseudoWrapped d s w) := by
        split <;> exact emits_between _ _
      cases state with
      | ordered => exact emits_between _ _
      | unordered => exact unordered
      | unpaged => exact unordered

theorem emits_writeCount : Emits d s (q.writeCount d)
    (if q.countsDerived then do
      let f ← q.render d s { SelectOptions.standard with unordered := true }
      pure (.text "SELECT COUNT(*) FROM (" :: (f ++ [.text ") c_"]))
    else q.render d s { SelectOptions.standard with count := true }) := by
  rw [writeCount]
  split
  · exact emits_between _ _
  · exact q.emits_write _ s

end Query

/-! ## Changes of rows -/

namespace EntitySchema

variable {schema : EntitySchema}

theorem emits_writeEquation (name : String) (p : Pair) :
    Emits d s (writeEquation d name p) (.ok (equation d name p)) := by
  refine ((emits_push (d.identifier name)).append ((emits_push " = ").append
    (emits_parameter p))).congr ?_
  exact congrArg Except.ok (Fragment.effect_congr rfl fun n => by
    simp [equation, String.append_assoc])

theorem emits_writeKey (values : List Value) :
    Emits d s (writeKey d schema values) (schema.keyCondition d values) := by
  refine (finds_lift (schema.keyValues values)).emits fun key => ?_
  refine emits_separated_pure ?_ " AND " key
  rintro ⟨c, v⟩
  exact emits_writeEquation c.name (.forColumn v c)

theorem emits_writeAssignment (name : String) (v : Value) :
    Emits d s (writeAssignment d schema name v) (.ok (assignment d schema name v)) := by
  rw [writeAssignment, assignment]
  cases schema.resolve? name <;> exact emits_writeEquation _ _

theorem emits_writeUpdate (assignments : List (String × Value)) :
    Emits d s (writeUpdate d schema assignments) (updateHead d schema assignments) := by
  rw [writeUpdate, updateHead]
  split
  · exact emits_throw _
  · have sets : Emits d s
        (separated ", " (assignments.map fun p => writeAssignment d schema p.1 p.2))
        (.ok (Fragment.separated ", "
          (assignments.map fun p => assignment d schema p.1 p.2))) :=
      emits_separated_pure (fun p => emits_writeAssignment p.1 p.2) ", " assignments
    refine ((emits_push "UPDATE ").append ((emits_push (schemaTableName d schema.table)).append
      ((emits_push " SET ").append sets))).congr ?_
    exact congrArg Except.ok (Fragment.effect_congr rfl fun n => by simp [String.append_assoc])

theorem emits_writeDelete : Emits d s (writeDelete d schema) (.ok (deleteHead d schema)) := by
  refine ((emits_push "DELETE FROM ").append (emits_push _)).congr ?_
  exact congrArg Except.ok (Fragment.effect_congr rfl fun n => by simp [deleteHead])

theorem emits_writeInsert (values : List (ColumnDef × Value)) :
    Emits d s (writeInsert d schema values)
      (.ok (.text ("INSERT INTO " ++ schemaTableName d schema.table ++ " (") ::
        (Fragment.separated ", " (values.map fun (c, _) => [.text (d.identifier c.name)]) ++
          .text ") VALUES (" ::
            (Fragment.separated ", " (values.map fun (c, v) => [.parameter (.forColumn v c)]) ++
              [.text ")"])))) := by
  have names : Emits d s (separated ", " (values.map fun (c, _) => push (d.identifier c.name)))
      (.ok (Fragment.separated ", "
        (values.map fun (c, _) => [.text (d.identifier c.name)]))) := by
    refine emits_separated_pure ?_ ", " values
    rintro ⟨c, v⟩
    exact emits_push _
  have marks : Emits d s (separated ", " (values.map fun (c, v) => parameter d (.forColumn v c)))
      (.ok (Fragment.separated ", "
        (values.map fun (c, v) => [.parameter (.forColumn v c)]))) := by
    refine emits_separated_pure ?_ ", " values
    rintro ⟨c, v⟩
    exact emits_parameter _
  refine ((emits_push "INSERT INTO ").append ((emits_push (schemaTableName d schema.table)).append
    ((emits_push " (").append (names.append ((emits_push ") VALUES (").append
      (marks.append (emits_push ")"))))))).congr ?_
  exact congrArg Except.ok (Fragment.effect_congr rfl fun n => by simp [String.append_assoc])

/-- What has been written before a condition. -/
theorem emits_conditioned {head condition : Writer Unit} {x y : Except Error Fragment}
    (emitsHead : Emits d s head x) (emitsCondition : Emits d s condition y) :
    Emits d s (do head; push " WHERE "; condition) (do
      let head ← x
      let condition ← y
      return head ++ .text " WHERE " :: condition) := by
  refine (emitsHead.append ((emits_push " WHERE ").append emitsCondition)).congr ?_
  cases x with
  | error e => rfl
  | ok head => cases y <;> rfl

end EntitySchema

/-! ## Statements -/

/-- **A statement is written as it is rendered.** -/
theorem Emits.finish_eq {w : Writer Unit} {x : Except Error Fragment} (h : Emits d s w x)
    (shape : Shape) (columns : List Column) :
    w.finish s shape columns = x.map fun f => Statement.written ⟨d, f, shape, columns⟩ := by
  rw [finish, h ⟨⟨s, []⟩, ""⟩ rfl]
  cases x with
  | error e => rfl
  | ok f => simp [Draft.extend, Statement.written, Statement.sql, Statement.parameters,
      Fragment.sql, Except.map, Bind.bind, Except.bind, pure, Except.pure]

namespace Query

theorem written_eq (q : Query) (window : Option PageWindow) :
    q.written d window = (q.compile d window).map Statement.written := by
  rw [written, compile]
  cases Scope.ofQuery q with
  | error e => rfl
  | ok s =>
    refine ((emits_writePaged _).finish_eq _ _).trans ?_
    show _ = Except.map _ (q.renderPaged d s _ >>= _)
    cases q.renderPaged d s _ <;> rfl

theorem writtenCount_eq (q : Query) :
    q.writtenCount d = (q.compileCount d).map Statement.written := by
  rw [writtenCount, compileCount]
  cases Scope.ofQuery q with
  | error e => rfl
  | ok s =>
    refine (emits_writeCount.finish_eq _ _).trans ?_
    cases q.countsDerived with
    | true => cases written : q.render d s { SelectOptions.standard with unordered := true } <;>
        simp [written, Bind.bind, Except.bind, Except.map, pure, Except.pure]
    | false => cases written : q.render d s { SelectOptions.standard with count := true } <;>
        simp [written, Bind.bind, Except.bind, Except.map, pure, Except.pure]

end Query

namespace EntitySchema

variable {schema : EntitySchema}

/-- **A change of rows is written as it is rendered.** -/
theorem change_eq {w : Writer Unit} {x : Except Error Fragment}
    (h : Emits d (.ofSchema schema) w x) :
    schema.change w = (x.map (Statement.change d)).map Statement.written := by
  rw [change, h.finish_eq]
  cases x <;> rfl

theorem writtenFind_eq (values : List Value) :
    schema.writtenFind d values = (schema.compileFind d values).map Statement.written := by
  rw [writtenFind, compileFind]
  cases schema.keyValues values with
  | error e => rfl
  | ok key =>
    simp only [Bind.bind, Except.bind]
    exact Query.written_eq _ none

theorem writtenInsert_eq (r : Row) :
    schema.writtenInsert d r = (schema.compileInsert d r).map Statement.written := by
  rw [writtenInsert, compileInsert]
  cases present r schema.columns with
  | error e => rfl
  | ok values =>
    show (if values.isEmpty then _ else _) = Except.map _ (if values.isEmpty then _ else _)
    split
    · rfl
    · exact change_eq (emits_writeInsert values)

theorem writtenUpdateRow_eq (r : Row) :
    schema.writtenUpdateRow d r = (schema.compileUpdateRow d r).map Statement.written := by
  rw [writtenUpdateRow, compileUpdateRow]
  cases schema.requireKey with
  | error e => rfl
  | ok key =>
    show (required r key >>= _) = Except.map _ (required r key >>= _)
    cases required r key with
    | error e => rfl
    | ok values =>
      show (present r _ >>= _) = Except.map _ (present r _ >>= _)
      cases present r (schema.columns.filter fun c => !c.isKey) with
      | error e => rfl
      | ok others =>
        refine (change_eq
          (emits_conditioned (emits_writeUpdate _) (emits_writeKey values))).trans ?_
        show _ = Except.map _ (updateHead d schema (others.map fun (c, v) => (c.name, v)) >>= _)
        cases updateHead d schema (others.map fun (c, v) => (c.name, v)) with
        | error e => rfl
        | ok head => cases schema.keyCondition d values <;> rfl

theorem writtenDeleteKey_eq (values : List Value) :
    schema.writtenDeleteKey d values =
      (schema.compileDeleteKey d values).map Statement.written := by
  refine (change_eq (emits_conditioned emits_writeDelete (emits_writeKey values))).trans ?_
  rw [compileDeleteKey]
  cases schema.keyCondition d values <;> rfl

theorem writtenUpdate_eq (assignments : List (String × Value)) (filter : Condition) :
    schema.writtenUpdate d assignments filter =
      (schema.compileUpdate d assignments filter).map Statement.written := by
  rw [writtenUpdate, compileUpdate]
  split
  · rfl
  · refine (change_eq (emits_conditioned (emits_writeUpdate assignments)
      (Node.emits_writeAll true filter _))).trans ?_
    show _ = Except.map _ (updateHead d schema assignments >>= _)
    cases updateHead d schema assignments with
    | error e => rfl
    | ok head =>
      rw [Condition.render]
      cases Node.renderAll d (.ofSchema schema) filter <;> rfl

theorem writtenDelete_eq (filter : Condition) :
    schema.writtenDelete d filter = (schema.compileDelete d filter).map Statement.written := by
  rw [writtenDelete, compileDelete]
  split
  · rfl
  · refine (change_eq (emits_conditioned emits_writeDelete
      (Node.emits_writeAll true filter _))).trans ?_
    rw [Condition.render]
    cases Node.renderAll d (.ofSchema schema) filter <;> rfl

end EntitySchema

/-- Writes the statement of a dialect for an operation. -/
def Operation.write (d : Dialect) : Operation → Except Error WrittenStatement
  | select q window => q.written d window
  | count q => q.writtenCount d
  | insert schema r => schema.writtenInsert d r
  | update schema assignments filter => schema.writtenUpdate d assignments filter
  | updateRow schema r => schema.writtenUpdateRow d r
  | delete schema filter => schema.writtenDelete d filter
  | deleteKey schema key => schema.writtenDeleteKey d key
  | find schema key => schema.writtenFind d key

/-- **Every statement is written as it is rendered:** with the text and the parameters of its
fragment, and with the same error where there is none. -/
theorem Operation.write_eq (op : Operation) :
    op.write d = (op.compile d).map Statement.written := by
  cases op with
  | select q window => exact q.written_eq window
  | count q => exact q.writtenCount_eq
  | insert schema r => exact schema.writtenInsert_eq r
  | update schema assignments filter => exact schema.writtenUpdate_eq assignments filter
  | updateRow schema r => exact schema.writtenUpdateRow_eq r
  | delete schema filter => exact schema.writtenDelete_eq filter
  | deleteKey schema key => exact schema.writtenDeleteKey_eq key
  | find schema key => exact schema.writtenFind_eq key

end EntitySql
