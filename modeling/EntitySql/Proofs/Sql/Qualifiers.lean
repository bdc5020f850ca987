import EntitySql.Proofs.Sql.Changes
import EntitySql.Proofs.Sql.Widening
import EntitySql.Proofs.Text.Identifiers

/-!
# Conditions with and without qualifiers

One condition may be part of a selection, of an update and of a deletion. The first qualifies its
columns, the others do not, and the queries inside a condition do as the statement around them. So
the two texts of a condition differ by qualifiers only. Which columns have one is told from the
condition and its scope (`Node.anyQualifies`): a column does when it is given one, or when the only
table of its query has an alias.

Both texts are written, or neither is. They have the same parameters, and they are the same text
exactly when no column has a qualifier (`Change.compile_agrees`). If the condition's own columns are
given none, it depends on the queries inside alone.
-/

namespace EntitySql

set_option autoImplicit false

open Outcome

variable {d : Dialect} {w : Bool}

/-! ## Which columns have a qualifier -/

namespace Scope

/-- The scope where columns are qualified, or are not. -/
def qualifying (s : Scope) (on : Bool) : Scope := { s with qualify := on }

/-- A query inside does as the query around it. -/
theorem inside_qualifying (s : Scope) (on : Bool) (q : Query) :
    (s.qualifying on).inside q = (s.inside q).map fun inner => inner.qualifying on := by
  simp only [inside, enter, qualifying]
  split
  · rfl
  · split
    · rfl
    · split <;> rfl

end Scope

namespace Column

/-- The column refers to a table with an alias. -/
def namesTable (s : Scope) (c : Column) : Bool :=
  c.isReference &&
    match s.qualifierOf c with
    | .ok name => name != ""
    | .error _ => false

/-- The column has a qualifier, or one of its operands does. -/
def qualifies (s : Scope) : Column → Bool
  | ⟨function, qualifier, name, label, value, raw, none⟩ =>
    namesTable s ⟨function, qualifier, name, label, value, raw, none⟩
  | ⟨function, qualifier, name, label, value, raw, some (op, other)⟩ =>
    namesTable s ⟨function, qualifier, name, label, value, raw, none⟩ ||
      (!op.isUnary && qualifies s other)
  termination_by structural c => c

end Column

mutual
/-- A column of the query has a qualifier. -/
def Query.qualifies (s : Scope) : Query → Bool
  | ⟨table, joins, columns, _, filter, groupBy, having, orderBy, _, _, _⟩ =>
    (Query.selected columns orderBy).any (Column.qualifies s) ||
      ((match table with
        | none => false
        | some t => t.qualifies s) ||
        Join.anyQualifies s joins || Node.anyQualifies s filter ||
        groupBy.any (Column.qualifies s) || Node.anyQualifies s having ||
        orderBy.any fun o => o.column.qualifies s)
  termination_by structural q => q

/-- A column of the query that a table stands for has a qualifier. -/
def Table.qualifies (s : Scope) : Table → Bool
  | ⟨_, source⟩ => source.qualifies s
  termination_by structural t => t

/-- Entities and named tables have no columns. -/
def TableSource.qualifies (s : Scope) : TableSource → Bool
  | .entity _ => false
  | .named _ => false
  | .subQuery q =>
    match s.inside q with
    | .ok inner => q.qualifies inner
    | .error _ => false
  termination_by structural t => t

/-- A column of the join has a qualifier. -/
def Join.qualifies (s : Scope) : Join → Bool
  | ⟨_, table, on⟩ => table.qualifies s || Node.anyQualifies s on
  termination_by structural j => j

/-- A column of one of the joins has a qualifier. -/
def Join.anyQualifies (s : Scope) : List Join → Bool
  | [] => false
  | j :: js => j.qualifies s || Join.anyQualifies s js
  termination_by structural js => js

/-- A column of the node has a qualifier. -/
def Node.qualifies (s : Scope) : Node → Bool
  | .predicate _ p => p.qualifies s
  | .nested _ nodes => Node.anyQualifies s nodes
  | .group _ members => Predicate.anyQualifies s members
  termination_by structural n => n

/-- A column of one of the nodes has a qualifier. -/
def Node.anyQualifies (s : Scope) : List Node → Bool
  | [] => false
  | n :: ns => n.qualifies s || Node.anyQualifies s ns
  termination_by structural ns => ns

/-- A column that the predicate is written with has a qualifier. A test for no values and a range
without bounds are written without their column. -/
def Predicate.qualifies (s : Scope) : Predicate → Bool
  | .compare c _ (.value _) => c.qualifies s
  | .compare c _ (.column other) => c.qualifies s || other.qualifies s
  | .like c _ _ _ => c.qualifies s
  | .among c _ values => !values.isEmpty && c.qualifies s
  | .isNull c _ => c.qualifies s
  | .isEmpty c _ => c.qualifies s
  | .between c low high => !(low.isNull && high.isNull) && c.qualifies s
  | .hasRows _ q =>
    match s.inside q with
    | .ok inner => q.qualifies inner
    | .error _ => false
  termination_by structural p => p

/-- A column of one of the predicates has a qualifier. -/
def Predicate.anyQualifies (s : Scope) : List Predicate → Bool
  | [] => false
  | p :: ps => p.qualifies s || Predicate.anyQualifies s ps
  termination_by structural ps => ps
end

/-! ## Columns -/

namespace Column

/-- What follows the qualifier of a reference. -/
def target (d : Dialect) (s : Scope) (c : Column) (qualifier : String) : String :=
  if c.isWildcard then "*"
  else
    match s.columnDef? qualifier c.name with
    | some column => d.identifier column.name
    | none => d.identifier c.name

theorem target_ne_empty {s : Scope} {c : Column} {qualifier : String} :
    c.target d s qualifier ≠ "" := by
  unfold target
  split
  · decide
  · split <;> exact d.identifier_ne_empty _

theorem reference_eq (s : Scope) (c : Column) (qualifier : String) :
    c.reference d s qualifier =
      (if s.qualify && qualifier != "" then qualifier ++ "." else "") ++
        c.target d s qualifier := by
  unfold reference target
  cases c.isWildcard with
  | true => rfl
  | false => cases s.columnDef? qualifier c.name <;> rfl

/-- A reference is wider with its qualifier, if it has one. -/
theorem widens_reference (s : Scope) (c : Column) (qualifier : String) :
    TextWidens d (qualifier != "") (c.reference d (s.qualifying true) qualifier)
      (c.reference d (s.qualifying false) qualifier) := by
  have target : ∀ on, c.target d (s.qualifying on) qualifier = c.target d s qualifier :=
    fun _ => rfl
  rw [reference_eq, reference_eq, target, target]
  show TextWidens d _ ((if (true && qualifier != "") = true then _ else _) ++ _) ("" ++ _)
  rw [Bool.true_and, String.empty_append]
  cases given : qualifier != "" with
  | true => exact TextWidens.qualified qualifier target_ne_empty
  | false =>
    rw [if_neg Bool.false_ne_true, String.empty_append]
    exact .refl _

/-- **The base of a column is wider** when it refers to a table with an alias. -/
theorem alike_base (s : Scope) (c : Column) :
    Alike (TextWidens d (c.namesTable s)) (c.base d (s.qualifying true))
      (c.base d (s.qualifying false)) := by
  have same : ∀ on, (s.qualifying on).qualifierOf c = s.qualifierOf c := fun _ => rfl
  rw [base, base]
  cases raw : c.raw with
  | true =>
    have absent : c.namesTable s = false := by simp [namesTable, isReference, raw]
    rw [absent]
    exact .ok (.refl _)
  | false =>
    cases literal : c.literal with
    | some v =>
      have absent : c.namesTable s = false := by simp [namesTable, isReference, literal]
      rw [absent]
      exact .refl .refl _
    | none =>
      by_cases nameless : c.name = ""
      · have absent : c.namesTable s = false := by simp [namesTable, isReference, nameless]
        simp only [absent, nameless]
        exact .ok (.refl _)
      · have reference : c.isReference = true := by simp [isReference, raw, literal, nameless]
        simp only [namesTable, reference, nameless, same]
        cases s.qualifierOf c with
        | error e => exact .error e e
        | ok qualifier => exact .ok (widens_reference s c qualifier)

theorem widens_applied {t u : String} (function : Option String) (wider : TextWidens d w t u) :
    TextWidens d w (applied function t) (applied function u) := by
  cases function with
  | none => exact wider
  | some f => exact (wider.before (f ++ "(")).behind ")"

/-- **The expression of a column is wider** when the column or an operand has a qualifier. -/
theorem alike_render (s : Scope) : ∀ c : Column,
    Alike (TextWidens d (c.qualifies s)) (c.render d (s.qualifying true))
      (c.render d (s.qualifying false))
  | ⟨function, qualifier, name, label, value, raw, none⟩ => by
    rw [render, render, qualifies]
    exact (alike_base s _).bind fun _ _ wider => .ok (widens_applied function wider)
  | ⟨function, qualifier, name, label, value, raw, some (op, other)⟩ => by
    rw [render, render, qualifies]
    refine (alike_base s _).bind fun a b first => ?_
    cases unary : op.isUnary with
    | true =>
      cases beq_iff_eq.1 unary
      rw [Bool.not_true, Bool.false_and, Bool.or_false]
      exact .ok (widens_applied function (Dialect.widens_complement first))
    | false =>
      have operation : ∀ u v, d.operation op u (some v) = .ok (d.binary op u v) := by
        intro u v
        cases op <;> rfl
      rw [Bool.not_false, Bool.true_and]
      refine Alike.bind (r := fun m n => ∃ t u, m = some t ∧ n = some u ∧
        TextWidens d (other.qualifies s) t u) ((alike_render s other).map fun t u second =>
          ⟨t, u, rfl, rfl, second⟩) ?_
      rintro _ _ ⟨t, u, rfl, rfl, second⟩
      simp only [operation]
      exact .ok (widens_applied function (Dialect.widens_binary op unary first second))

end Column

/-! ## Lists of expressions -/

/-- The texts of a list are wider when one of them is. -/
theorem alike_mapM {α : Type} {f g : α → Except Error String} {p : α → Bool}
    (each : ∀ a, Alike (TextWidens d (p a)) (f a) (g a)) (as : List α) :
    Alike (fun ts us => Fragment.WidensAll d (as.any p) (ts.map .ofText) (us.map .ofText))
      (as.mapM f) (as.mapM g) := by
  induction as with
  | nil => exact .ok .nil
  | cons a as ih =>
    rw [List.mapM_cons, List.mapM_cons, List.any_cons]
    refine (each a).bind fun t u first => ih.bind fun ts us others => ?_
    exact .ok (.cons first others)

theorem Column.alike_renderLabeled (s : Scope) (c : Column) :
    Alike (TextWidens d (c.qualifies s)) (c.renderLabeled d (s.qualifying true))
      (c.renderLabeled d (s.qualifying false)) := by
  unfold renderLabeled
  split
  · exact .error _ _
  · refine (alike_render s c).bind fun t u wider => ?_
    split
    · exact .ok wider
    · exact .ok ((wider.behind " AS ").behind (d.identifier c.label))

theorem alike_selectHead (s : Scope) (distinct : Bool) (columns : List Column) :
    Alike (Fragment.Widens d (columns.any (Column.qualifies s)))
      (selectHead d (s.qualifying true) .standard distinct columns)
      (selectHead d (s.qualifying false) .standard distinct columns) := by
  have list : Alike (Fragment.Widens d (columns.any (Column.qualifies s)))
      (selectList d (s.qualifying true) columns) (selectList d (s.qualifying false) columns) := by
    unfold selectList
    cases columns with
    | nil => exact .ok (.refl _)
    | cons c cs =>
      exact (alike_mapM (Column.alike_renderLabeled s) (c :: cs)).map fun _ _ texts =>
        texts.separatedAfter false
  unfold selectHead
  refine list.bind fun f g wider => .ok ?_
  exact (wider.behind []).before [.text _]

theorem alike_groupClause (s : Scope) (columns : List Column) :
    Alike (Fragment.Widens d (columns.any (Column.qualifies s)))
      (groupClause d (s.qualifying true) columns) (groupClause d (s.qualifying false) columns) := by
  unfold groupClause
  cases columns with
  | nil => exact .ok (.refl _)
  | cons c cs =>
    exact (alike_mapM (Column.alike_render s) (c :: cs)).map fun _ _ texts =>
      (texts.separatedAfter false).before [.text " GROUP BY "]

theorem Ordered.alike_render (s : Scope) (o : Ordered) :
    Alike (TextWidens d (o.column.qualifies s)) (o.render d (s.qualifying true))
      (o.render d (s.qualifying false)) :=
  (Column.alike_render s o.column).map fun _ _ wider => wider.behind o.direction.word

theorem alike_finalOrder (s : Scope) (terms : List Ordered) :
    Alike (Fragment.Widens d (terms.any fun o => o.column.qualifies s))
      (finalOrder d (s.qualifying true) .standard terms)
      (finalOrder d (s.qualifying false) .standard terms) := by
  unfold finalOrder orderClause
  cases terms with
  | nil => exact .ok (.refl _)
  | cons o os =>
    refine ((alike_mapM (Ordered.alike_render s) (o :: os)).map fun _ _ texts => ?_).map
      fun _ _ clause => TextWidens.before " " clause
    exact (TextWidens.intercalate ", " texts).before "ORDER BY "

/-! ## Tests -/

/-- A left side with a wider expression for the same column. -/
structure LeftSide.Widens (d : Dialect) (w : Bool) (l m : LeftSide) : Prop where
  column : l.column = m.column
  expression : TextWidens d w l.expression m.expression

namespace LeftSide

variable {l m : LeftSide}

theorem Widens.parameter (wider : Widens d w l m) (v : Value) : l.parameter v = m.parameter v := by
  rw [LeftSide.parameter, LeftSide.parameter, wider.column]

theorem alike_ofColumn (s : Scope) (c : Column) :
    Alike (Widens d (c.qualifies s)) (ofColumn d (s.qualifying true) c)
      (ofColumn d (s.qualifying false) c) := by
  have same : ∀ on, (s.qualifying on).columnDefOf c = s.columnDefOf c := fun _ => rfl
  rw [ofColumn, ofColumn, same, same]
  refine Alike.bind (r := Eq) (.refl (fun _ => rfl) _) ?_
  rintro column _ rfl
  exact (Column.alike_render s c).bind fun _ _ wider => .ok ⟨rfl, wider⟩

end LeftSide

/-- The left side of a test before the rest of it. -/
theorem LeftSide.Widens.test {l m : LeftSide} (wider : Widens d w l m) (word : String)
    (rest : Fragment) :
    Fragment.Widens d w (.text (l.expression ++ word) :: rest)
      (.text (m.expression ++ word) :: rest) :=
  Fragment.Widens.behind rest (wider.expression.behind word)

theorem alike_compareTest (s : Scope) {l m : LeftSide} (wider : l.Widens d w m) (k : Comparison)
    (v : Value) :
    Alike (Fragment.Widens d w) (compareTest d (s.qualifying true) l k (.value v))
      (compareTest d (s.qualifying false) m k (.value v)) := by
  rw [compareTest, compareTest]
  split
  · cases k with
    | equal => exact .ok (wider.test " IS NULL" [])
    | notEqual => exact .ok (wider.test " IS NOT NULL" [])
    | less | lessEqual | more | moreEqual => exact .error _ _
  · simp only [wider.parameter]
    exact .ok (Fragment.Widens.behind [_]
      (((wider.expression.behind " ").behind k.symbol).behind " "))

theorem alike_compareColumns (s : Scope) {l m : LeftSide} (wider : l.Widens d w m)
    (k : Comparison) (other : Column) :
    Alike (Fragment.Widens d (w || other.qualifies s))
      (compareTest d (s.qualifying true) l k (.column other))
      (compareTest d (s.qualifying false) m k (.column other)) := by
  refine (Column.alike_render s other).map fun t u second => ?_
  exact TextWidens.append (((wider.expression.behind " ").behind k.symbol).behind " ") second

theorem alike_likeTest {l m : LeftSide} (wider : l.Widens d w m) (place : PatternPlace)
    (negated : Bool) (part : Value) :
    Alike (Fragment.Widens d w) (likeTest l place negated part)
      (likeTest m place negated part) := by
  refine Alike.map (r := Eq) (.refl (fun _ => rfl) _) ?_
  rintro text _ rfl
  exact Fragment.Widens.behind [_]
    (((wider.expression.behind " ").behind (negation negated)).behind "LIKE ")

theorem widens_amongTest {l m : LeftSide} (wider : l.Widens d w m) (negated : Bool)
    (values : List Value) :
    Fragment.Widens d (!values.isEmpty && w) (amongTest l negated values)
      (amongTest m negated values) := by
  unfold amongTest
  cases values with
  | nil => exact .refl _
  | cons v vs =>
    simp only [wider.parameter]
    exact Fragment.Widens.behind _
      (((wider.expression.behind " ").behind (negation negated)).behind "IN (")

theorem alike_betweenTest {l m : LeftSide} (wider : l.Widens d w m) (low high : Value) :
    Alike (Fragment.Widens d (!(low.isNull && high.isNull) && w)) (betweenTest l low high)
      (betweenTest m low high) := by
  unfold betweenTest
  cases low.isNull <;> cases high.isNull
  · simp only [wider.parameter]
    exact .ok (wider.test " BETWEEN " _)
  · exact .error _ _
  · exact .error _ _
  · exact .ok (.refl [])

/-! ## Queries and conditions -/

mutual
/-- **A query is wider** when one of its columns has a qualifier. -/
theorem Query.alike_render : ∀ (q : Query) (s : Scope),
    Alike (Fragment.Widens d (q.qualifies s)) (q.render d (s.qualifying true) .standard)
      (q.render d (s.qualifying false) .standard)
  | ⟨none, _, _, _, _, _, _, _, _, _, _⟩, s => by
    rw [Query.render, Query.render]
    exact .error _ _
  | ⟨some t, joins, columns, distinct, filter, groupBy, having, orderBy, _, _, _⟩, s => by
    rw [Query.render, Query.render, Query.qualifies]
    refine (alike_selectHead s distinct _).bind fun _ _ head => ?_
    refine (Table.alike_render t s).bind fun _ _ first => ?_
    refine (Join.alike_renderAll joins s).bind fun _ _ others => ?_
    refine ((Node.alike_renderAll filter s).map fun _ _ nodes => nodes false).bind
      fun _ _ condition => ?_
    refine (alike_groupClause s groupBy).bind fun _ _ groups => ?_
    refine ((Node.alike_renderAll having s).map fun _ _ nodes => nodes false).bind
      fun _ _ groupCondition => ?_
    refine (alike_finalOrder s orderBy).bind fun _ _ order => .ok ?_
    exact head.append (((((first.append others).append (condition.after " WHERE ")).append
      groups).append (groupCondition.after " HAVING ")).append order |>.before [.text " FROM "])

theorem Table.alike_render : ∀ (t : Table) (s : Scope),
    Alike (Fragment.Widens d (t.qualifies s)) (t.render d (s.qualifying true))
      (t.render d (s.qualifying false))
  | ⟨aliasName, source⟩, s => by
    rw [Table.render, Table.render, Table.qualifies]
    exact (TableSource.alike_render source s).bind fun _ _ wider =>
      .ok (wider.behind [.text (aliasSuffix aliasName)])

theorem TableSource.alike_render : ∀ (t : TableSource) (s : Scope),
    Alike (Fragment.Widens d (t.qualifies s)) (t.render d (s.qualifying true))
      (t.render d (s.qualifying false))
  | .entity _, s => .ok (.refl _)
  | .named _, s => .ok (.refl _)
  | .subQuery q, s => by
    rw [TableSource.render, TableSource.render, TableSource.qualifies, Scope.inside_qualifying,
      Scope.inside_qualifying]
    cases s.inside q with
    | error e => exact .error e e
    | ok inner =>
      exact (Query.alike_render q inner).bind fun _ _ wider =>
        .ok ((wider.behind [.text ")"]).before [.text "("])

theorem Join.alike_render : ∀ (j : Join) (s : Scope),
    Alike (Fragment.Widens d (j.qualifies s)) (j.render d (s.qualifying true))
      (j.render d (s.qualifying false))
  | ⟨kind, table, on⟩, s => by
    rw [Join.render, Join.render, Join.qualifies]
    refine (Table.alike_render table s).bind fun _ _ first => ?_
    refine ((Node.alike_renderAll on s).map fun _ _ nodes => nodes false).bind
      fun _ _ condition => .ok ?_
    refine (first.append ?_).before [.text _]
    cases on with
    | nil => exact .refl []
    | cons n ns => exact condition.before [.text " ON "]

theorem Join.alike_renderAll : ∀ (js : List Join) (s : Scope),
    Alike (Fragment.Widens d (Join.anyQualifies s js)) (Join.renderAll d (s.qualifying true) js)
      (Join.renderAll d (s.qualifying false) js)
  | [], s => .ok (.refl [])
  | j :: js, s => by
    rw [Join.renderAll, Join.renderAll, Join.anyQualifies]
    exact (Join.alike_render j s).bind fun _ _ first =>
      (Join.alike_renderAll js s).bind fun _ _ rest => .ok (first.append rest)

theorem Node.alike_render : ∀ (n : Node) (s : Scope),
    Alike (Fragment.Widens d (n.qualifies s)) (n.render d (s.qualifying true))
      (n.render d (s.qualifying false))
  | .predicate _ p, s => by
    rw [Node.render_predicate, Node.render_predicate, Node.qualifies]
    exact Predicate.alike_render p s
  | .nested _ nodes, s => by
    rw [Node.render, Node.render, Node.qualifies]
    exact (Node.alike_renderAll nodes s).bind fun _ _ members => .ok (members false).parenthesized
  | .group c members, s => by
    rw [Node.render, Node.render, Node.qualifies]
    exact (Predicate.alike_renderAll members s).bind fun _ _ wider =>
      .ok (wider.separatedAfter false).parenthesized

theorem Node.alike_renderAll : ∀ (ns : List Node) (s : Scope),
    Alike (fun fs gs => ∀ started, Fragment.Widens d (Node.anyQualifies s ns)
        (Fragment.chainedAfter started fs) (Fragment.chainedAfter started gs))
      (Node.renderAll d (s.qualifying true) ns) (Node.renderAll d (s.qualifying false) ns)
  | [], s => .ok fun _ => .refl []
  | n :: ns, s => by
    rw [Node.renderAll, Node.renderAll, Node.anyQualifies]
    exact (Node.alike_render n s).bind fun _ _ first =>
      (Node.alike_renderAll ns s).bind fun _ _ rest => .ok (first.chainedAfter rest)

theorem Predicate.alike_render : ∀ (p : Predicate) (s : Scope),
    Alike (Fragment.Widens d (p.qualifies s)) (p.render d (s.qualifying true))
      (p.render d (s.qualifying false))
  | .compare c k (.value v), s => by
    rw [Predicate.render, Predicate.render, Predicate.qualifies]
    exact (LeftSide.alike_ofColumn s c).bind fun _ _ left => alike_compareTest s left k v
  | .compare c k (.column other), s => by
    rw [Predicate.render, Predicate.render, Predicate.qualifies]
    exact (LeftSide.alike_ofColumn s c).bind fun _ _ left => alike_compareColumns s left k other
  | .like c place negated part, s => by
    rw [Predicate.render, Predicate.render, Predicate.qualifies]
    exact (LeftSide.alike_ofColumn s c).bind fun _ _ left => alike_likeTest left place negated part
  | .among c negated values, s => by
    rw [Predicate.render, Predicate.render, Predicate.qualifies]
    exact (LeftSide.alike_ofColumn s c).bind fun _ _ left =>
      .ok (widens_amongTest left negated values)
  | .isNull c negated, s => by
    rw [Predicate.render, Predicate.render, Predicate.qualifies]
    exact (LeftSide.alike_ofColumn s c).bind fun _ _ left =>
      .ok (((left.expression.behind " IS ").behind (negation negated)).behind "NULL")
  | .isEmpty c negated, s => by
    rw [Predicate.render, Predicate.render, Predicate.qualifies]
    exact (LeftSide.alike_ofColumn s c).bind fun _ _ left =>
      .ok (Dialect.widens_emptyTest left.expression negated)
  | .between c low high, s => by
    rw [Predicate.render, Predicate.render, Predicate.qualifies]
    exact (LeftSide.alike_ofColumn s c).bind fun _ _ left => alike_betweenTest left low high
  | .hasRows negated q, s => by
    rw [Predicate.render, Predicate.render, Predicate.qualifies, Scope.inside_qualifying,
      Scope.inside_qualifying]
    cases s.inside q with
    | error e => exact .error e e
    | ok inner =>
      exact (Query.alike_render q inner).bind fun _ _ wider =>
        .ok ((wider.behind [.text ")"]).before [.text (negation negated ++ "EXISTS (")])

theorem Predicate.alike_renderAll : ∀ (ps : List Predicate) (s : Scope),
    Alike (Fragment.WidensAll d (Predicate.anyQualifies s ps))
      (Predicate.renderAll d (s.qualifying true) ps)
      (Predicate.renderAll d (s.qualifying false) ps)
  | [], s => .ok .nil
  | p :: ps, s => by
    rw [Predicate.renderAll, Predicate.renderAll, Predicate.anyQualifies]
    exact (Predicate.alike_render p s).bind fun _ _ first =>
      (Predicate.alike_renderAll ps s).bind fun _ _ rest => .ok (.cons first rest)
end

/-- **A condition is written with and without qualifiers,** or in neither way. It is wider with
them when one of its columns has a qualifier. -/
theorem Condition.alike_render (s : Scope) (c : Condition) :
    Alike (Fragment.Widens d (Node.anyQualifies s c)) (Condition.render d (s.qualifying true) c)
      (Condition.render d (s.qualifying false) c) :=
  (Node.alike_renderAll c s).map fun _ _ nodes => nodes false

/-! ## Conditions whose own columns are given no qualifier -/

/-- The column and its operands are given no qualifier. -/
def Column.isBare : Column → Bool
  | ⟨_, qualifier, _, _, _, _, none⟩ => qualifier == ""
  | ⟨_, qualifier, _, _, _, _, some (_, other)⟩ => qualifier == "" && isBare other
  termination_by structural c => c

/-- The columns that the predicate tests are given no qualifier. -/
def Predicate.isBare : Predicate → Bool
  | .compare c _ (.value _) => c.isBare
  | .compare c _ (.column other) => c.isBare && other.isBare
  | .like c _ _ _ | .among c _ _ | .isNull c _ | .isEmpty c _ | .between c _ _ => c.isBare
  | .hasRows _ _ => true

mutual
/-- The predicates of a node. -/
def Node.predicates : Node → List Predicate
  | .predicate _ p => [p]
  | .nested _ nodes => Node.allPredicates nodes
  | .group _ members => members
  termination_by structural n => n

/-- The predicates of nodes at every depth, without those of the queries inside. -/
def Node.allPredicates : List Node → List Predicate
  | [] => []
  | n :: ns => n.predicates ++ Node.allPredicates ns
  termination_by structural ns => ns
end

/-- A column of a query inside the scope has a qualifier. -/
def Query.qualifiesInside (s : Scope) (q : Query) : Bool :=
  match s.inside q with
  | .ok inner => q.qualifies inner
  | .error _ => false

theorem Predicate.anyQualifies_eq (s : Scope) (ps : List Predicate) :
    Predicate.anyQualifies s ps = ps.any (Predicate.qualifies s) := by
  induction ps with
  | nil => rfl
  | cons p ps ih => rw [anyQualifies, List.any_cons, ih]

mutual
theorem Node.qualifies_eq (s : Scope) : ∀ n : Node,
    n.qualifies s = n.predicates.any (Predicate.qualifies s)
  | .predicate _ p => by rw [Node.qualifies, Node.predicates, List.any_cons, List.any_nil,
      Bool.or_false]
  | .nested _ nodes => by rw [Node.qualifies, Node.predicates, Node.anyQualifies_eq s nodes]
  | .group _ members => by rw [Node.qualifies, Node.predicates, Predicate.anyQualifies_eq]

/-- A condition qualifies what its predicates qualify. -/
theorem Node.anyQualifies_eq (s : Scope) : ∀ ns : List Node,
    Node.anyQualifies s ns = (Node.allPredicates ns).any (Predicate.qualifies s)
  | [] => rfl
  | n :: ns => by
    rw [Node.anyQualifies, Node.allPredicates, List.any_append, Node.qualifies_eq s n,
      Node.anyQualifies_eq s ns]
end

/-- A column without qualifier belongs to the table of the schema, which has no alias. -/
theorem Column.qualifies_ofSchema (schema : EntitySchema) : ∀ c : Column, c.isBare = true →
    c.qualifies (.ofSchema schema) = false
  | ⟨function, qualifier, name, label, value, raw, none⟩, bare => by
    cases beq_iff_eq.1 bare
    exact Bool.and_false _
  | ⟨function, qualifier, name, label, value, raw, some (op, other)⟩, bare => by
    rw [isBare, Bool.and_eq_true, beq_iff_eq] at bare
    obtain ⟨rfl, rest⟩ := bare
    rw [qualifies, qualifies_ofSchema schema other rest, Bool.and_false, Bool.or_false]
    exact Bool.and_false _

/-- A predicate whose own columns are bare qualifies nothing but what a query inside does. -/
theorem Predicate.qualifies_ofSchema (schema : EntitySchema) {p : Predicate}
    (bare : p.isBare = true) :
    p.qualifies (.ofSchema schema) = true ↔
      ∃ negated q, p = .hasRows negated q ∧ q.qualifiesInside (.ofSchema schema) = true := by
  have column : ∀ {c : Column}, c.isBare = true → c.qualifies (.ofSchema schema) = false :=
    fun {c} => Column.qualifies_ofSchema schema c
  cases p with
  | compare c k operand =>
    cases operand with
    | value v => simp [qualifies, column bare]
    | column other =>
      rw [isBare, Bool.and_eq_true] at bare
      simp [qualifies, column bare.1, column bare.2]
  | like c place negated part => simp [qualifies, column bare]
  | among c negated values => simp [qualifies, column bare]
  | isNull c negated => simp [qualifies, column bare]
  | isEmpty c negated => simp [qualifies, column bare]
  | between c low high => simp [qualifies, column bare]
  | hasRows negated q =>
    rw [qualifies]
    constructor
    · exact fun inside => ⟨negated, q, rfl, inside⟩
    · rintro ⟨_, _, ⟨⟩, inside⟩
      exact inside

/-- **A condition whose own columns are bare** qualifies nothing exactly when no query inside
does. -/
theorem Node.anyQualifies_ofSchema (schema : EntitySchema) {filter : Condition}
    (bare : ∀ p ∈ Node.allPredicates filter, p.isBare = true) :
    Node.anyQualifies (.ofSchema schema) filter = false ↔
      ∀ negated q, .hasRows negated q ∈ Node.allPredicates filter →
        q.qualifiesInside (.ofSchema schema) = false := by
  rw [Node.anyQualifies_eq, List.any_eq_false]
  constructor
  · intro none negated q member
    rw [Bool.eq_false_iff]
    intro inside
    exact none _ member ((Predicate.qualifies_ofSchema schema (bare _ member)).2
      ⟨negated, q, rfl, inside⟩)
  · intro inner p member qualifies
    obtain ⟨negated, q, rfl, inside⟩ := (Predicate.qualifies_ofSchema schema (bare p member)).1
      qualifies
    rw [inner negated q member] at inside
    cases inside

/-! ## One condition in three statements -/

/-- **A condition selects, updates and deletes** with two texts. A change is compiled exactly when
its condition has nodes, its head is written and the selection under the condition is compiled. What
it has after its keyword is the condition without qualifiers; the selection has it with them. The
parameters are the same, and so are the texts exactly when no column of the condition has a
qualifier. If its own columns are given none, that is a matter of the queries inside. -/
theorem Change.compile_agrees (schema : EntitySchema) (filter : Condition) (pool : Nat)
    (k : Change) :
    ((∃ changed, k.compile d schema filter = .ok changed) ↔
        filter ≠ [] ∧ (∃ head, k.head d schema = .ok head) ∧
          ∃ selected, (schema.selection pool filter).compile d none = .ok selected) ∧
      ∀ changed selected, k.compile d schema filter = .ok changed →
        (schema.selection pool filter).compile d none = .ok selected →
        ∃ head mine theirs : Fragment, k.head d schema = .ok head ∧
          changed.sql = head.sql d ++ " WHERE " ++ mine.sqlFrom d head.parameters.length ∧
          changed.parameters = head.parameters ++ mine.parameters ∧
          selected.sql = "SELECT * FROM " ++ schemaTableName d schema.table ++
            (if theirs.writesNothing then "" else " WHERE " ++ theirs.sql d) ∧
          selected.parameters = theirs.parameters ∧
          theirs.parameters = mine.parameters ∧
          (∀ n, theirs.sqlFrom d n = mine.sqlFrom d n ↔
            Node.anyQualifies (.ofSchema schema) filter = false) ∧
          (∀ n, (mine.sqlFrom d n).length ≤ (theirs.sqlFrom d n).length) ∧
          ((∀ p ∈ Node.allPredicates filter, p.isBare = true) → ∀ n,
            (theirs.sqlFrom d n = mine.sqlFrom d n ↔
              ∀ negated q, .hasRows negated q ∈ Node.allPredicates filter →
                q.qualifiesInside (.ofSchema schema) = false)) := by
  have alike : Alike (Fragment.Widens d (Node.anyQualifies (.ofSchema schema) filter))
      (Condition.render d (.ofSelection schema) filter)
      (Condition.render d (.ofSchema schema) filter) :=
    Condition.alike_render (.ofSchema schema) filter
  rw [EntitySchema.compile_selection]
  refine ⟨⟨?_, ?_⟩, ?_⟩
  · rintro ⟨changed, compiled⟩
    obtain ⟨some, head, mine, begun, written, _⟩ := compile_eq_ok_iff.1 compiled
    obtain ⟨theirs, also, _⟩ := alike.exists_left written
    exact ⟨some, ⟨head, begun⟩, _, map_eq_ok.2 ⟨theirs, also, rfl⟩⟩
  · rintro ⟨some, ⟨head, begun⟩, selected, compiled⟩
    obtain ⟨theirs, written, _⟩ := map_eq_ok.1 compiled
    obtain ⟨mine, also, _⟩ := alike.exists_right written
    exact ⟨_, compile_eq_ok_iff.2 ⟨some, head, mine, begun, also, rfl⟩⟩
  · intro changed selected compiled compiled'
    obtain ⟨_, head, mine, begun, written, rfl⟩ := compile_eq_ok_iff.1 compiled
    obtain ⟨theirs, written', rfl⟩ := map_eq_ok.1 compiled'
    obtain ⟨_, also, wider⟩ := alike.exists_left written
    rw [written'] at also
    cases also
    refine ⟨head, mine, theirs, begun, sql_change head mine, parameters_change head mine,
      EntitySchema.sql_selected theirs, EntitySchema.parameters_selected theirs, wider.parameters,
      wider.sqlFrom_eq_iff, wider.length_le, fun bare n => ?_⟩
    rw [wider.sqlFrom_eq_iff, Node.anyQualifies_ofSchema schema bare]

/-- A row is without payment in a table that has no alias. -/
def unpaidSample : Condition :=
  [.predicate .and (.hasRows false
    { Query.ofNamed 0 "ORDERS" with
      filter := [.predicate .and (.isNull (.ofName "PAID") false)] })]

theorem Change.compile_agrees_unpaidSample :
    ∃ deleted selected,
      Change.delete.compile .generic personSample unpaidSample = .ok deleted ∧
        (personSample.selection 0 unpaidSample).compile .generic none = .ok selected ∧
        deleted.sql = "DELETE FROM PERSON WHERE EXISTS (SELECT * FROM ORDERS WHERE PAID IS NULL)" ∧
        selected.sql =
          "SELECT * FROM PERSON WHERE EXISTS (SELECT * FROM ORDERS WHERE PAID IS NULL)" ∧
        deleted.parameters = selected.parameters := by
  obtain ⟨_, agree⟩ := Change.compile_agrees (d := .generic) personSample unpaidSample 0 .delete
  obtain ⟨head, mine, theirs, begun, _, bound, _, bound', same, _⟩ := agree _ _ rfl rfl
  cases begun
  refine ⟨_, _, rfl, rfl, by decide +kernel, by decide +kernel, ?_⟩
  rw [bound, bound', same]
  rfl

/-- An order has an item, both tables under aliases. -/
def itemsSample : Condition :=
  [.predicate .and (.hasRows false
    ((Query.empty 0).selectFrom ⟨"o", .named "ORDERS"⟩ |>.join .inner ⟨"i", .named "ITEMS"⟩
      [.predicate .and (.compare (Table.column ⟨"o", .named "ORDERS"⟩ "ID") .equal
        (.column (Table.column ⟨"i", .named "ITEMS"⟩ "ORDER_ID")))]))]

/-- The columns of aliased tables are written without their qualifiers where rows are deleted or
updated, not where they are selected. -/
theorem Change.compile_agrees_itemsSample :
    ∃ deleted selected,
      Change.delete.compile .generic personSample itemsSample = .ok deleted ∧
        (personSample.selection 0 itemsSample).compile .generic none = .ok selected ∧
        deleted.sql = "DELETE FROM PERSON WHERE " ++
          "EXISTS (SELECT * FROM ORDERS o INNER JOIN ITEMS i ON ID = ORDER_ID)" ∧
        selected.sql = "SELECT * FROM PERSON WHERE " ++
          "EXISTS (SELECT * FROM ORDERS o INNER JOIN ITEMS i ON o.ID = i.ORDER_ID)" := by
  refine ⟨_, _, rfl, rfl, ?_, ?_⟩ <;> decide +kernel

end EntitySql
