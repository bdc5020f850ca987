import EntitySql.Proofs.Sql.Changes
import EntitySql.Proofs.Sql.Selections

/-!
# Keywords of clauses

A select has a condition for each join, one for its rows and one for its groups, each behind a
keyword. Conditions may come to nothing: their predicates may be dropped, their groups and nested
conditions empty.

The keywords for rows and groups look at the text of their condition, so they are written exactly
when it writes something (`Fragment.introduces_after`). The keyword of a join only asks whether the
condition has nodes. So it stands before nothing exactly when there are nodes and all of them come
to nothing (`Fragment.introduces_on_iff`). This is so for every select of a query, at any depth
(`Query.compile_keywords`).
-/

namespace EntitySql

set_option autoImplicit false

open Outcome

variable {d : Dialect} {s : Scope}

/-! ## Keywords -/

namespace Fragment

/-- The clause is the keyword and the condition behind it, and nothing when the condition writes
nothing. -/
def Introduces (d : Dialect) (keyword : String) (condition clause : Fragment) : Prop :=
  ∀ n, clause.sqlFrom d n =
    if condition.sqlFrom d n = "" then "" else keyword ++ condition.sqlFrom d n

theorem introduces_after (keyword : String) (f : Fragment) :
    Introduces d keyword f (f.after keyword) := by
  intro n
  simp only [sqlFrom_eq_empty_iff, after]
  split <;> rfl

/-- A condition and one more. -/
def bounded (condition : Fragment) : Option String → Fragment
  | none => condition
  | some e =>
    if condition.writesNothing then [.text e]
    else .text "(" :: (condition ++ [.text (") AND " ++ e)])

theorem introduces_whereClause (f : Fragment) {extra : Option String} (some : extra ≠ some "") :
    Introduces d " WHERE " (f.bounded extra) (whereClause f extra) := by
  cases extra with
  | none => exact introduces_after " WHERE " f
  | some e =>
    have written : e ≠ "" := fun empty => some (congrArg _ empty)
    intro n
    simp only [sqlFrom_eq_empty_iff, whereClause, bounded]
    cases f.writesNothing with
    | true => simp [writesNothing, Piece.isEmpty, written]
    | false =>
      simp [writesNothing, Piece.isEmpty, ← String.append_assoc]

/-- The condition of a join behind its keyword. -/
def onClause (nodes : Condition) (f : Fragment) : Fragment :=
  if nodes.isEmpty then [] else .text " ON " :: f

theorem sqlFrom_onClause (nodes : Condition) (f : Fragment) (n : Nat) :
    (onClause nodes f).sqlFrom d n = if nodes = [] then "" else " ON " ++ f.sqlFrom d n := by
  cases nodes <;> rfl

/-- **The keyword of a join introduces its condition** exactly when that has no nodes or comes to
something. -/
theorem introduces_on_iff {nodes : Condition} {f : Fragment}
    (h : Condition.render d s nodes = .ok f) :
    Introduces d " ON " f (onClause nodes f) ↔ nodes = [] ∨ nodes.pruned ≠ [] := by
  cases nodes with
  | nil =>
    cases h
    exact iff_of_true (fun _ => rfl) (.inl rfl)
  | cons node rest =>
    simp only [Introduces, sqlFrom_onClause, ← Condition.sqlFrom_eq_empty_iff h 0,
      sqlFrom_eq_empty_iff, List.cons_ne_nil, if_false, false_or, ne_eq]
    constructor
    · intro law nothing
      have bare := law 0
      rw [if_pos nothing] at bare
      exact absurd (String.append_eq_empty_iff.1 bare).1 (by decide)
    · intro something n
      rw [if_neg something]

/-- A condition with a bound writes nothing when there is no bound and nothing is left of it. -/
theorem bounded_eq_empty_iff {c : Condition} {f : Fragment} (h : Condition.render d s c = .ok f)
    {extra : Option String} (some : extra ≠ some "") (n : Nat) :
    (f.bounded extra).sqlFrom d n = "" ↔ c.pruned = [] ∧ extra = none := by
  cases extra with
  | none => exact (Condition.sqlFrom_eq_empty_iff h n).trans (and_iff_left rfl).symm
  | some e =>
    have written : e ≠ "" := fun empty => some (congrArg _ empty)
    refine iff_of_false ?_ nofun
    rw [sqlFrom_eq_empty_iff, bounded]
    split <;> simp [writesNothing, Piece.isEmpty, written]

end Fragment

/-! ## Selects -/

/-- A joined table behind the keywords of its join, its condition and the clause of that. -/
structure JoinText where
  table : Fragment
  condition : Fragment
  clause : Fragment

/-- The table and the condition are those of the join, written in a scope. -/
structure JoinText.Of (d : Dialect) (s : Scope) (j : Join) (t : JoinText) : Prop where
  table : ∃ table, j.table.render d s = .ok table ∧
    t.table = .text (" " ++ j.kind.words ++ " ") :: table
  condition : Condition.render d s j.on = .ok t.condition

/-- The parts of a select: what is selected with the first table, the joins, the condition and its
clause, the groups, the condition on groups and its clause, the order. -/
structure SelectText where
  head : Fragment
  joins : List JoinText
  condition : Fragment
  filter : Fragment
  groups : Fragment
  groupCondition : Fragment
  having : Fragment
  order : Fragment

namespace SelectText

/-- The parts one after the other. -/
def fragment (p : SelectText) : Fragment :=
  p.head ++ p.joins.flatMap (fun j => j.table ++ j.clause) ++ p.filter ++ p.groups ++ p.having ++
    p.order

/-- The parts are those of the query, written in a scope with options; the condition on rows has the
bound of the options, if there is one. -/
structure Of (d : Dialect) (s : Scope) (options : SelectOptions) (q : Query) (p : SelectText) :
    Prop where
  head : ∃ selects t first,
    selectHead d s options q.distinct (Query.selected q.columns q.orderBy) = .ok selects ∧
    q.table = some t ∧ t.render d s = .ok first ∧ p.head = selects ++ .text " FROM " :: first
  joins : List.Forall₂ (JoinText.Of d s) q.joins p.joins
  condition : ∃ own, Condition.render d s q.filter = .ok own ∧
    p.condition = own.bounded options.extraCondition
  groups : groupClause d s q.groupBy = .ok p.groups
  groupCondition : Condition.render d s q.having = .ok p.groupCondition
  order : finalOrder d s options q.orderBy = .ok p.order

end SelectText

/-- Joins are written one after the other. -/
theorem Join.exists_texts {js : List Join} {f : Fragment} (h : Join.renderAll d s js = .ok f) :
    ∃ ts : List JoinText,
      List.Forall₂ (fun j t => t.Of d s j ∧ t.clause = Fragment.onClause j.on t.condition) js ts ∧
      ts.flatMap (fun t => t.table ++ t.clause) = f := by
  induction js generalizing f with
  | nil =>
    cases h
    exact ⟨[], .nil, rfl⟩
  | cons j js ih =>
    obtain ⟨first, rest, written, others, rfl⟩ := Join.renderAll_cons_eq_ok_iff.1 h
    obtain ⟨table, nodes, source, on, rfl⟩ := Join.render_eq_ok_iff.1 written
    obtain ⟨ts, each, rfl⟩ := ih others
    have condition := Condition.render_eq_ok_iff.2 ⟨nodes, on, rfl⟩
    exact ⟨⟨_, _, _⟩ :: ts, .cons ⟨⟨⟨table, source, rfl⟩, condition⟩, rfl⟩ each, rfl⟩

/-- A query is written as a select. -/
theorem Query.exists_text {q : Query} {options : SelectOptions} {f : Fragment}
    (h : q.render d s options = .ok f) :
    ∃ p : SelectText, p.Of d s options q ∧ p.fragment = f ∧
      (∃ own, Condition.render d s q.filter = .ok own ∧
        p.condition = own.bounded options.extraCondition ∧
        p.filter = whereClause own options.extraCondition) ∧
      p.having = p.groupCondition.after " HAVING " ∧
      List.Forall₂ (fun j t => t.clause = Fragment.onClause j.on t.condition) q.joins p.joins := by
  obtain ⟨t, selects, first, others, condition, groups, having, order, table, selected, source,
    joined, filter, grouped, tests, ordered, rfl⟩ := Query.render_eq_ok_iff.1 h
  obtain ⟨ts, each, rfl⟩ := Join.exists_texts joined
  have own := Condition.render_eq_ok_iff.2 ⟨condition, filter, rfl⟩
  have onGroups := Condition.render_eq_ok_iff.2 ⟨having, tests, rfl⟩
  let p : SelectText :=
    { head := selects ++ .text " FROM " :: first
      joins := ts
      condition := (Fragment.chained condition).bounded options.extraCondition
      filter := whereClause (Fragment.chained condition) options.extraCondition
      groups
      groupCondition := Fragment.chained having
      having := (Fragment.chained having).after " HAVING "
      order }
  have of : p.Of d s options q :=
    { head := ⟨selects, t, first, selected, table, source, rfl⟩
      joins := each.imp fun _ _ both => both.1
      condition := ⟨_, own, rfl⟩
      groups := grouped
      groupCondition := onGroups
      order := ordered }
  refine ⟨p, of, ?_, ⟨_, own, rfl, rfl⟩, rfl, each.imp fun _ _ both => both.2⟩
  simp [p, SelectText.fragment]

namespace Query

/-- **The keywords of conditions.** In the statement of a query, each query of its tree has its
place and is written there as one select from its own clauses, in the scope of its path. The
keywords for rows and for groups are written exactly when their condition writes something, and
stand before it. The condition for rows is that of the query, in a paged statement of the root with
one more bound. A condition writes nothing exactly when nothing is left of it without its dropped
predicates and the groups and nested conditions that are empty then. The keyword of a join is
written whenever its condition has nodes; so it is written as the others are exactly when there are
no nodes or something is left of them. -/
theorem compile_keywords {root c : Query} {outer : List Query} {st : Statement}
    (compiled : root.IsStatement d st) (path : Descends root (c :: outer)) :
    ∃ options, ∃ p : SelectText, root.Place d st (c :: outer) options p.fragment ∧
      c.render d (.along (c :: outer)) options = .ok p.fragment ∧
      p.Of d (.along (c :: outer)) options c ∧
      (options.extraCondition = none ∨ outer = [] ∧ ∃ last : Nat,
        options.extraCondition = some ("ROWNUM <= " ++ toString last)) ∧
      Fragment.Introduces d " WHERE " p.condition p.filter ∧
      (∀ n, p.condition.sqlFrom d n = "" ↔
        Condition.pruned c.filter = [] ∧ options.extraCondition = none) ∧
      Fragment.Introduces d " HAVING " p.groupCondition p.having ∧
      (∀ n, p.groupCondition.sqlFrom d n = "" ↔ Condition.pruned c.having = []) ∧
      List.Forall₂ (fun j t =>
        (∀ n, t.clause.sqlFrom d n =
          if j.on = [] then "" else " ON " ++ t.condition.sqlFrom d n) ∧
        (∀ n, t.condition.sqlFrom d n = "" ↔ Condition.pruned j.on = []) ∧
        (Fragment.Introduces d " ON " t.condition t.clause ↔
          j.on = [] ∨ Condition.pruned j.on ≠ [])) c.joins p.joins := by
  obtain ⟨_, _, options, f, same, written, place⟩ := exists_place compiled path
  cases same
  obtain ⟨p, of, rfl, ⟨own, filter, condition, rows⟩, groups, joins⟩ := exists_text written
  have extra := extraCondition_eq place
  have something : options.extraCondition ≠ some "" := by
    rcases extra with none | ⟨_, last, bounded⟩
    · rw [none]
      exact nofun
    · rw [bounded]
      intro empty
      exact absurd (String.append_eq_empty_iff.1 (Option.some.inj empty)).1 (by decide)
  refine ⟨options, p, place, written, of, extra, ?_, ?_, ?_, ?_, ?_⟩
  · rw [condition, rows]
    exact Fragment.introduces_whereClause own something
  · rw [condition]
    exact Fragment.bounded_eq_empty_iff filter something
  · rw [groups]
    exact Fragment.introduces_after " HAVING " _
  · exact Condition.sqlFrom_eq_empty_iff of.groupCondition
  · refine List.Forall₂.mp (fun j t join clause => ?_) of.joins joins
    rw [clause]
    exact ⟨Fragment.sqlFrom_onClause j.on t.condition,
      Condition.sqlFrom_eq_empty_iff join.condition, Fragment.introduces_on_iff join.condition⟩

/-- A column of a table by its alias. -/
def columnOf (aliasName name : String) : Column :=
  { Column.ofName name with qualifier := aliasName }

/-- Items with their parts, under a condition on rows and one on groups that come to nothing. -/
def partsSample : Query :=
  { Query.empty 0 with
    table := some ⟨"i", .named "ITEMS"⟩
    joins := [⟨.left, ⟨"p", .named "PARTS"⟩, [.predicate .and
      (.compare (columnOf "i" "PART_ID") .equal (.column (columnOf "p" "ID")))]⟩]
    filter := [.predicate .and (.between (columnOf "i" "PRICE") .null .null)]
    having := [.nested .and [.group .or []]] }

/-- Users where there are items with parts. -/
def stockedSample : Query :=
  { Query.ofNamed 0 "USERS" with filter := [.predicate .and (.hasRows false partsSample)] }

theorem compile_keywords_stockedSample :
    ∃ st, ∃ p : SelectText, stockedSample.compile .generic none = .ok st ∧
      st.sql = "SELECT * FROM USERS WHERE EXISTS (SELECT * FROM ITEMS i " ++
        "LEFT JOIN PARTS p ON i.PART_ID = p.ID)" ∧
      stockedSample.Place .generic st [partsSample, stockedSample] .standard p.fragment ∧
      p.Of .generic (.along [partsSample, stockedSample]) .standard partsSample ∧
      p.filter.sql .generic = "" ∧ p.having.sql .generic = "" ∧
      List.Forall₂ (fun _ t => Fragment.Introduces .generic " ON " t.condition t.clause)
        partsSample.joins p.joins := by
  have path : Descends stockedSample [partsSample, stockedSample] :=
    .inner .root List.mem_cons_self
  obtain ⟨options, p, place, _, of, _, rows, noRows, groups, noGroups, joins⟩ :=
    compile_keywords (d := .generic) (.inl ⟨none, Eq.refl _⟩) path
  cases options_of_inner place
  refine ⟨_, p, rfl, by decide +kernel, place, of, ?_, ?_, ?_⟩
  · rw [Fragment.sql, rows 0, if_pos ((noRows 0).2 ⟨rfl, rfl⟩)]
  · rw [Fragment.sql, groups 0, if_pos ((noGroups 0).2 rfl)]
  · have left : ∀ j ∈ partsSample.joins, Condition.pruned j.on ≠ [] :=
      List.forall_mem_singleton.2 (List.cons_ne_nil _ _)
    refine ((List.forall₂_and_left _ _).2 ⟨left, joins⟩).imp fun j t both => ?_
    exact both.2.2.2.2 (.inr both.1)

/-- Users joined to orders under a range without bounds. -/
def openJoinSample : Query :=
  { Query.empty 0 with
    table := some ⟨"u", .named "USERS"⟩
    joins := [⟨.inner, ⟨"o", .named "ORDERS"⟩,
      [.predicate .and (.between (columnOf "u" "ID") .null .null)]⟩] }

/-- The keyword of a join stands before a condition that writes nothing. -/
theorem compile_keywords_openJoinSample :
    ∃ st f, openJoinSample.compile .generic none = .ok st ∧
      openJoinSample.joins.map (fun j => Condition.render .generic (.along [openJoinSample]) j.on) =
        [.ok f] ∧
      f.sql .generic = "" ∧ st.sql = "SELECT * FROM USERS u INNER JOIN ORDERS o ON " := by
  refine ⟨_, _, rfl, rfl, ?_, ?_⟩ <;> decide +kernel

end Query

end EntitySql
