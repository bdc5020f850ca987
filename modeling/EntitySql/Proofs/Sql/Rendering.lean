import EntitySql.Proofs.Outcome
import EntitySql.Proofs.Sql.Fragment

/-!
# What successful writing consists of

For every part of a query there is one law that says when it is written and what the fragment then
is: its parts were written, and the fragment is put together from theirs. The later theories take
renderings apart by these laws and do not unfold the writers again. The writers call each other, and
the laws of one kind of part stand together as those do.
-/

namespace EntitySql

set_option autoImplicit false

open Outcome

variable {d : Dialect} {s : Scope} {f : Fragment}

/-! ## Queries, tables and joins -/

mutual
theorem Query.render_eq_ok_iff {options : SelectOptions} {q : Query} :
    q.render d s options = .ok f ↔
      ∃ t head first others condition groups having order,
        q.table = some t ∧
        selectHead d s options q.distinct (Query.selected q.columns q.orderBy) = .ok head ∧
        t.render d s = .ok first ∧
        Join.renderAll d s q.joins = .ok others ∧
        Node.renderAll d s q.filter = .ok condition ∧
        groupClause d s q.groupBy = .ok groups ∧
        Node.renderAll d s q.having = .ok having ∧
        finalOrder d s options q.orderBy = .ok order ∧
        head ++ .text " FROM " :: (first ++ others ++
          whereClause (Fragment.chained condition) options.extraCondition ++ groups ++
          (Fragment.chained having).after " HAVING " ++ order) = f := by
  obtain ⟨table, joins, columns, distinct, filter, groupBy, having, orderBy, _, _, _⟩ := q
  cases table with
  | none => simp [Query.render]
  | some t =>
    simp only [Query.render, bind_eq_ok, map_eq_ok, pure_eq_ok, Option.some.injEq]
    constructor
    · rintro ⟨head, hh, first, hf, others, ho, _, ⟨condition, hc, rfl⟩, groups, hg, _,
        ⟨having, hv, rfl⟩, order, hr, rfl⟩
      exact ⟨t, head, first, others, condition, groups, having, order, rfl, hh, hf, ho, hc, hg, hv,
        hr, rfl⟩
    · rintro ⟨_, head, first, others, condition, groups, having, order, rfl, hh, hf, ho, hc, hg, hv,
        hr, rfl⟩
      exact ⟨head, hh, first, hf, others, ho, _, ⟨condition, hc, rfl⟩, groups, hg, _,
        ⟨having, hv, rfl⟩, order, hr, rfl⟩

theorem Table.render_eq_ok_iff {t : Table} :
    t.render d s = .ok f ↔
      ∃ source, t.source.render d s = .ok source ∧
        source ++ [.text (aliasSuffix t.aliasName)] = f := by
  obtain ⟨aliasName, source⟩ := t
  simp only [Table.render, bind_eq_ok, pure_eq_ok]

theorem TableSource.render_subQuery_eq_ok_iff {q : Query} :
    (TableSource.subQuery q).render d s = .ok f ↔
      ∃ inner body, s.inside q = .ok inner ∧ q.render d inner .standard = .ok body ∧
        .text "(" :: (body ++ [.text ")"]) = f := by
  simp only [TableSource.render, bind_eq_ok, pure_eq_ok, exists_and_left]

theorem Join.render_eq_ok_iff {j : Join} :
    j.render d s = .ok f ↔
      ∃ table condition, j.table.render d s = .ok table ∧
        Node.renderAll d s j.on = .ok condition ∧
        .text (" " ++ j.kind.words ++ " ") :: (table ++
          if j.on.isEmpty then [] else .text " ON " :: Fragment.chained condition) = f := by
  obtain ⟨kind, table, on⟩ := j
  simp only [Join.render, bind_eq_ok, map_eq_ok, pure_eq_ok]
  constructor
  · rintro ⟨t, ht, _, ⟨condition, hc, rfl⟩, rfl⟩
    exact ⟨t, condition, ht, hc, rfl⟩
  · rintro ⟨t, condition, ht, hc, rfl⟩
    exact ⟨t, ht, _, ⟨condition, hc, rfl⟩, rfl⟩

theorem Join.renderAll_cons_eq_ok_iff {j : Join} {js : List Join} :
    Join.renderAll d s (j :: js) = .ok f ↔
      ∃ first rest, j.render d s = .ok first ∧ Join.renderAll d s js = .ok rest ∧
        first ++ rest = f := by
  simp only [Join.renderAll, bind_eq_ok, pure_eq_ok]
  constructor
  · rintro ⟨first, hf, rest, hr, rfl⟩
    exact ⟨first, rest, hf, hr, rfl⟩
  · rintro ⟨first, rest, hf, hr, rfl⟩
    exact ⟨first, hf, rest, hr, rfl⟩
end

/-! ## Conditions -/

theorem Condition.render_eq_ok_iff {c : Condition} :
    Condition.render d s c = .ok f ↔
      ∃ nodes, Node.renderAll d s c = .ok nodes ∧ Fragment.chained nodes = f := by
  simp only [Condition.render, map_eq_ok]

mutual
@[simp] theorem Node.renderAll_nil_eq_ok_iff {fs : List (Connective × Fragment)} :
    Node.renderAll d s [] = .ok fs ↔ fs = [] := by
  rw [Node.renderAll, Except.ok.injEq]
  exact eq_comm

theorem Node.renderAll_cons_eq_ok_iff {n : Node} {ns : List Node}
    {fs : List (Connective × Fragment)} :
    Node.renderAll d s (n :: ns) = .ok fs ↔
      ∃ first rest, n.render d s = .ok first ∧ Node.renderAll d s ns = .ok rest ∧
        (n.composition.outer, first) :: rest = fs := by
  simp only [Node.renderAll, bind_eq_ok, pure_eq_ok]
  constructor
  · rintro ⟨first, hf, rest, hr, rfl⟩
    exact ⟨first, rest, hf, hr, rfl⟩
  · rintro ⟨first, rest, hf, hr, rfl⟩
    exact ⟨first, hf, rest, hr, rfl⟩

theorem Node.render_predicate {c : Composition} {p : Predicate} :
    (Node.predicate c p).render d s = p.render d s := by
  rw [Node.render]
end

theorem Node.render_nested_eq_ok_iff {c : Composition} {nodes : List Node} :
    (Node.nested c nodes).render d s = .ok f ↔
      ∃ members, Node.renderAll d s nodes = .ok members ∧
        (Fragment.chained members).parenthesized = f := by
  simp only [Node.render, bind_eq_ok, pure_eq_ok]

theorem Node.render_group_eq_ok_iff {c : Composition} {members : List Predicate} :
    (Node.group c members).render d s = .ok f ↔
      ∃ fs, Predicate.renderAll d s members = .ok fs ∧
        (Fragment.separated c.inner.spaced fs).parenthesized = f := by
  simp only [Node.render, bind_eq_ok, pure_eq_ok]

@[simp] theorem Predicate.renderAll_nil_eq_ok_iff {fs : List Fragment} :
    Predicate.renderAll d s [] = .ok fs ↔ fs = [] := by
  rw [Predicate.renderAll, Except.ok.injEq]
  exact eq_comm

theorem Predicate.renderAll_cons_eq_ok_iff {p : Predicate} {ps : List Predicate}
    {fs : List Fragment} :
    Predicate.renderAll d s (p :: ps) = .ok fs ↔
      ∃ first rest, p.render d s = .ok first ∧ Predicate.renderAll d s ps = .ok rest ∧
        first :: rest = fs := by
  simp only [Predicate.renderAll, bind_eq_ok, pure_eq_ok]
  constructor
  · rintro ⟨first, hf, rest, hr, rfl⟩
    exact ⟨first, rest, hf, hr, rfl⟩
  · rintro ⟨first, rest, hf, hr, rfl⟩
    exact ⟨first, hf, rest, hr, rfl⟩

/-! ## Predicates -/

theorem LeftSide.ofColumn_eq_ok_iff {c : Column} {l : LeftSide} :
    LeftSide.ofColumn d s c = .ok l ↔
      s.columnDefOf c = .ok l.column ∧ c.render d s = .ok l.expression := by
  simp only [LeftSide.ofColumn, bind_eq_ok, pure_eq_ok]
  constructor
  · rintro ⟨column, hc, expression, he, rfl⟩
    exact ⟨hc, he⟩
  · rintro ⟨hc, he⟩
    exact ⟨_, hc, _, he, rfl⟩

mutual
/-- A test on a column starts from its left side; what follows depends on the test. -/
theorem Predicate.render_compare_eq_ok_iff {c : Column} {k : Comparison} {operand : Operand} :
    (Predicate.compare c k operand).render d s = .ok f ↔
      ∃ l, LeftSide.ofColumn d s c = .ok l ∧ compareTest d s l k operand = .ok f := by
  simp only [Predicate.render, bind_eq_ok]

theorem Predicate.render_like_eq_ok_iff {c : Column} {place : PatternPlace} {negated : Bool}
    {part : Value} :
    (Predicate.like c place negated part).render d s = .ok f ↔
      ∃ l text, LeftSide.ofColumn d s c = .ok l ∧ patternText part = .ok text ∧
        [.text (l.expression ++ " " ++ negation negated ++ "LIKE "),
          .parameter (Pair.ofValue (.varchar (some (place.pattern text))))] = f := by
  simp only [Predicate.render, likeTest, bind_eq_ok, map_eq_ok]
  constructor
  · rintro ⟨l, hl, text, ht, rfl⟩
    exact ⟨l, text, hl, ht, rfl⟩
  · rintro ⟨l, text, hl, ht, rfl⟩
    exact ⟨l, hl, text, ht, rfl⟩

theorem Predicate.render_among_eq_ok_iff {c : Column} {negated : Bool} {values : List Value} :
    (Predicate.among c negated values).render d s = .ok f ↔
      ∃ l, LeftSide.ofColumn d s c = .ok l ∧ amongTest l negated values = f := by
  simp only [Predicate.render, bind_eq_ok, pure_eq_ok]

theorem Predicate.render_isNull_eq_ok_iff {c : Column} {negated : Bool} :
    (Predicate.isNull c negated).render d s = .ok f ↔
      ∃ l, LeftSide.ofColumn d s c = .ok l ∧
        [.text (l.expression ++ " IS " ++ negation negated ++ "NULL")] = f := by
  simp only [Predicate.render, bind_eq_ok, pure_eq_ok]

theorem Predicate.render_isEmpty_eq_ok_iff {c : Column} {negated : Bool} :
    (Predicate.isEmpty c negated).render d s = .ok f ↔
      ∃ l, LeftSide.ofColumn d s c = .ok l ∧ [.text (d.emptyTest l.expression negated)] = f := by
  simp only [Predicate.render, bind_eq_ok, pure_eq_ok]

theorem Predicate.render_between_eq_ok_iff {c : Column} {low high : Value} :
    (Predicate.between c low high).render d s = .ok f ↔
      ∃ l, LeftSide.ofColumn d s c = .ok l ∧ betweenTest l low high = .ok f := by
  simp only [Predicate.render, bind_eq_ok]

theorem Predicate.render_hasRows_eq_ok_iff {negated : Bool} {q : Query} :
    (Predicate.hasRows negated q).render d s = .ok f ↔
      ∃ inner body, s.inside q = .ok inner ∧ q.render d inner .standard = .ok body ∧
        .text (negation negated ++ "EXISTS (") :: (body ++ [.text ")"]) = f := by
  simp only [Predicate.render, bind_eq_ok, pure_eq_ok, exists_and_left]
end

/-- The forms a comparison takes: a null test, a value after its symbol, or a second column. -/
theorem compareTest_eq_ok {l : LeftSide} {k : Comparison} {operand : Operand}
    (h : compareTest d s l k operand = .ok f) :
    (∃ v, operand = .value v ∧ v.isNull = true ∧
      f = [.text (l.expression ++ if k = .equal then " IS NULL" else " IS NOT NULL")]) ∨
    (∃ v, operand = .value v ∧ v.isNull = false ∧
      f = [.text (l.expression ++ " " ++ k.symbol ++ " "),
        l.parameter (if s.endOfDay && k.boundsAbove then shiftEndOfDay v else v)]) ∨
    (∃ other right, operand = .column other ∧ other.render d s = .ok right ∧
      f = [.text (l.expression ++ " " ++ k.symbol ++ " " ++ right)]) := by
  cases operand with
  | value v =>
    cases null : v.isNull with
    | true =>
      refine .inl ⟨v, rfl, null, ?_⟩
      cases k <;> simp_all [compareTest, nullTest]
    | false =>
      refine .inr (.inl ⟨v, rfl, null, ?_⟩)
      simp only [compareTest, null, Bool.false_eq_true, if_false, Except.ok.injEq] at h
      exact h.symm
  | column other =>
    simp only [compareTest, map_eq_ok] at h
    obtain ⟨right, written, rfl⟩ := h
    exact .inr (.inr ⟨other, right, rfl, written, rfl⟩)

/-- A range without bounds writes nothing, one with both writes both. -/
theorem betweenTest_eq_ok {l : LeftSide} {low high : Value}
    (h : betweenTest l low high = .ok f) :
    (low.isNull = true ∧ high.isNull = true ∧ f = []) ∨
    (low.isNull = false ∧ high.isNull = false ∧
      f = [.text (l.expression ++ " BETWEEN "), l.parameter low, .text " AND ",
        l.parameter high]) := by
  cases hl : low.isNull <;> cases hh : high.isNull <;> simp_all [betweenTest]

end EntitySql
