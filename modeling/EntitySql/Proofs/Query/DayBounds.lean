import EntitySql.Proofs.Condition.EndOfDay
import EntitySql.Proofs.Query.Tree

/-!
# The days a query ends

A query ends the days of the upper bounds in its own conditions: those of its filter, of the
condition on its groups and of its joins, however deep they are nested. It does not end those of the
queries inside, in its tables or in its tests for rows.

The values of a query are told part by part, each part a table or a test
(`Query.payloads_valueParts`). The mode of the query has a say in the values of a part only if this
is a comparison that bounds a date or a moment from above, and such a part has one value in either
mode. So values keep their places, and the place of a changed one shows the part it comes from
(`Query.compile_endingDays`).
-/

namespace EntitySql

set_option autoImplicit false

open Outcome

/-! ## Parts -/

/-- A part of a query that binds values: a table, or a test of one of its own conditions. -/
inductive QueryPart where
  | table (t : Table)
  | test (p : Predicate)

namespace QueryPart

/-- The values of the part. -/
def payloads (s : Scope) : QueryPart → List Pair
  | table t => t.payloads s
  | test p => p.payloads s

/-- The query inside the part. -/
def queries : QueryPart → List Query
  | table t => t.queries
  | test p => p.queries

end QueryPart

/-- The tests of a condition at every depth. -/
def Condition.valueParts (c : Condition) : List QueryPart := (Node.allPredicates c).map .test

/-- The table of a join, then the tests of its condition. -/
def Join.valueParts (j : Join) : List QueryPart := .table j.table :: Condition.valueParts j.on

/-- The parts of a query that bind values, in the order of the text. -/
def Query.valueParts (q : Query) : List QueryPart :=
  q.table.toList.map .table ++ q.joins.flatMap Join.valueParts ++ Condition.valueParts q.filter ++
    Condition.valueParts q.having

section Payloads

variable (s : Scope)

theorem Predicate.allPayloads_eq (ps : List Predicate) :
    Predicate.allPayloads s ps = ps.flatMap (Predicate.payloads s) := by
  induction ps with
  | nil => rfl
  | cons p ps ih => rw [allPayloads, ih, List.flatMap_cons]

mutual
theorem Node.payloads_eq : ∀ n : Node,
    n.payloads s = n.predicates.flatMap (Predicate.payloads s)
  | .predicate _ p => by rw [Node.payloads, Node.predicates, List.flatMap_singleton]
  | .nested _ nodes => by rw [Node.payloads, Node.predicates, Node.allPayloads_eq nodes]
  | .group _ members => by rw [Node.payloads, Node.predicates, Predicate.allPayloads_eq]

/-- The values of a condition are those of its tests. -/
theorem Node.allPayloads_eq : ∀ ns : List Node,
    Node.allPayloads s ns = (Node.allPredicates ns).flatMap (Predicate.payloads s)
  | [] => rfl
  | n :: ns => by
    rw [Node.allPayloads, Node.allPredicates, List.flatMap_append, Node.payloads_eq n,
      Node.allPayloads_eq ns]
end

theorem Condition.payloads_valueParts (c : Condition) :
    (Condition.valueParts c).flatMap (QueryPart.payloads s) = Node.allPayloads s c := by
  rw [valueParts, List.flatMap_map, Node.allPayloads_eq]
  rfl

theorem Join.payloads_valueParts (joins : List Join) :
    (joins.flatMap Join.valueParts).flatMap (QueryPart.payloads s) =
      Join.allPayloads s joins := by
  induction joins with
  | nil => rfl
  | cons j joins ih =>
    obtain ⟨kind, table, on⟩ := j
    rw [List.flatMap_cons, List.flatMap_append, ih, valueParts, List.flatMap_cons,
      Condition.payloads_valueParts, Join.allPayloads, Join.payloads]
    rfl

/-- **The values of a query are those of its parts,** one after the other. -/
theorem Query.payloads_valueParts (q : Query) :
    q.valueParts.flatMap (QueryPart.payloads s) = q.payloads s := by
  obtain ⟨table, joins, columns, distinct, filter, groupBy, having, orderBy, _, _, _⟩ := q
  simp only [valueParts, List.flatMap_append, Condition.payloads_valueParts,
    Join.payloads_valueParts]
  cases table with
  | none => rfl
  | some t =>
    rw [Query.payloads, Option.toList_some, List.map_singleton, List.flatMap_singleton]
    rfl

end Payloads

/-! ## The part of the mode -/

namespace QueryPart

variable (s : Scope)

theorem payloads_compare (c : Column) (k : Comparison) (v : Value) :
    (test (.compare c k (.value v))).payloads s =
      if v.isNull then [] else [s.pairFor c (s.compared k v)] := by
  show (Predicate.compare c k (.value v)).payloads s = _
  rw [Predicate.payloads]

/-- A bound of a day has its value, moved where the scope says so. -/
theorem payloads_bound {c : Column} {k : Comparison} {v : Value} {m : Moment}
    (above : k.boundsAbove = true) (wall : v.wall? = some m) (on : Bool) :
    (test (.compare c k (.value v))).payloads (s.endingDays on) =
      [s.pairFor c (if on then shiftEndOfDay v else v)] := by
  rw [payloads_compare, Value.isNull_of_wall? wall, if_neg Bool.false_ne_true, Scope.compared,
    above, Bool.and_true]
  rfl

/-- Every other part has the same values in either mode. -/
theorem payloads_cases (part : QueryPart) :
    (∃ c k v m, part = test (.compare c k (.value v)) ∧ k.boundsAbove = true ∧
        v.wall? = some m) ∨
      ∀ on, part.payloads (s.endingDays on) = part.payloads s := by
  cases part with
  | table t =>
    obtain ⟨aliasName, source⟩ := t
    refine .inr fun on => ?_
    cases source <;> rfl
  | test p =>
    cases p with
    | compare c k operand =>
      cases operand with
      | column other => exact .inr fun _ => rfl
      | value v =>
        by_cases bound : k.boundsAbove = true ∧ ∃ m, v.wall? = some m
        · obtain ⟨above, m, wall⟩ := bound
          exact .inl ⟨c, k, v, m, rfl, above, wall⟩
        · have stays : ∀ t : Scope, t.compared k v = v := by
            intro t
            rw [Scope.compared]
            cases above : k.boundsAbove with
            | false => rw [Bool.and_false, if_neg Bool.false_ne_true]
            | true =>
              have wall : v.wall? = none :=
                Option.eq_none_iff_forall_ne_some.2 fun m wall => bound ⟨above, m, wall⟩
              rw [shiftEndOfDay_of_wall?_none wall, ite_self]
          refine .inr fun on => ?_
          rw [payloads_compare, payloads_compare, stays, stays]
          rfl
    | _ => exact .inr fun _ => rfl

/-- A part has as many values in either mode. -/
theorem length_payloads (on : Bool) (part : QueryPart) :
    (part.payloads (s.endingDays on)).length = (part.payloads s).length := by
  rcases part.payloads_cases s with ⟨c, k, v, m, rfl, above, wall⟩ | same
  · rw [payloads_bound s above wall on]
    exact (congrArg List.length (payloads_bound s above wall s.endOfDay)).symm
  · rw [same on]

end QueryPart

/-! ## Places -/

section Places

variable {α β : Type} {f g : α → List β}

/-- A member of joined lists stands in one of them. -/
theorem exists_place_of_flatMap {xs : List α} {n : Nat} {b : β}
    (found : (xs.flatMap f)[n]? = some b) :
    ∃ before x after i, xs = before ++ x :: after ∧ n = (before.flatMap f).length + i ∧
      (f x)[i]? = some b := by
  induction xs generalizing n with
  | nil => cases found
  | cons x xs ih =>
    rw [List.flatMap_cons] at found
    by_cases here : n < (f x).length
    · rw [List.getElem?_append_left here] at found
      exact ⟨[], x, xs, n, rfl, (Nat.zero_add n).symm, found⟩
    · rw [List.getElem?_append_right (Nat.not_lt.1 here)] at found
      obtain ⟨before, y, after, i, rfl, place, found⟩ := ih found
      refine ⟨x :: before, y, after, i, rfl, ?_, found⟩
      rw [List.flatMap_cons, List.length_append]
      omega

/-- Behind the lists before it each list has its members in its own order. -/
theorem getElem?_flatMap_place (before : List α) (x : α) (after : List α) (ends : List β) {i : Nat}
    (inside : i < (f x).length) :
    ((before ++ x :: after).flatMap f ++ ends)[(before.flatMap f).length + i]? = (f x)[i]? := by
  rw [List.flatMap_append, List.flatMap_cons, List.append_assoc, List.append_assoc,
    List.getElem?_append_right (Nat.le_add_right _ _), Nat.add_sub_cancel_left,
    List.getElem?_append_left inside]

/-- Lists of the same lengths are as long together. -/
theorem length_flatMap_congr (sizes : ∀ x, (g x).length = (f x).length) (xs : List α) :
    (xs.flatMap g).length = (xs.flatMap f).length := by
  simp only [List.length_flatMap, sizes]

end Places

/-! ## The mode of a query -/

/-- How many values parts have together. -/
def QueryPart.size (s : Scope) (parts : List QueryPart) : Nat :=
  (parts.flatMap (QueryPart.payloads s)).length

theorem QueryPart.size_endingDays (s : Scope) (on : Bool) (parts : List QueryPart) :
    size (s.endingDays on) parts = size s parts :=
  length_flatMap_congr (length_payloads s on) parts

namespace Query

variable {d : Dialect} {q : Query} {window : Option PageWindow} {st plain ended : Statement}
  {s : Scope} {on : Bool}

/-- The parts of a query that is compiled give its parameters, limit and offset behind them. -/
theorem parameters_compile_parts (scope : Scope.ofQuery q = .ok s)
    (h : (q.endingDays on).compile d window = .ok st) :
    st.parameters =
      q.valueParts.flatMap (QueryPart.payloads (s.endingDays on)) ++ d.pagingPair window := by
  have parts : (q.endingDays on).valueParts = q.valueParts := rfl
  rw [parameters_compile h, ownPayloads, ofQuery_endingDays, scope, ← parts, payloads_valueParts]
  rfl

/-- The parameters of a part stand behind those of the parts before it. -/
theorem parameters_compile_part (scope : Scope.ofQuery q = .ok s)
    (h : (q.endingDays on).compile d window = .ok st) {before after : List QueryPart}
    {part : QueryPart} (split : q.valueParts = before ++ part :: after) {i : Nat}
    (inside : i < (part.payloads s).length) :
    st.parameters[QueryPart.size s before + i]? = (part.payloads (s.endingDays on))[i]? := by
  rw [parameters_compile_parts scope h, split, ← QueryPart.size_endingDays s on]
  refine getElem?_flatMap_place before part after _ ?_
  rwa [QueryPart.length_payloads]

theorem length_parameters_compile (scope : Scope.ofQuery q = .ok s)
    (h : (q.endingDays on).compile d window = .ok st) :
    st.parameters.length = QueryPart.size s q.valueParts + (d.pagingPair window).length := by
  rw [parameters_compile_parts scope h, List.length_append, ← QueryPart.size_endingDays s on]
  rfl

/-- A parameter that is not the same in both modes is the value of an upper bound. -/
theorem exists_bound_of_parameters_ne (scope : Scope.ofQuery q = .ok s)
    (off : (q.endingDays false).compile d window = .ok plain)
    (on : (q.endingDays true).compile d window = .ok ended) {n : Nat} {p p' : Pair}
    (first : plain.parameters[n]? = some p) (second : ended.parameters[n]? = some p')
    (differ : p ≠ p') :
    ∃ before c k v m after,
      q.valueParts = before ++ .test (.compare c k (.value v)) :: after ∧
      k.boundsAbove = true ∧ v.wall? = some m ∧ n = QueryPart.size s before ∧
      p = s.pairFor c v ∧ p' = s.pairFor c (shiftEndOfDay v) := by
  have values := first
  rw [parameters_compile_parts scope off] at values
  by_cases own : n < QueryPart.size s q.valueParts
  · have own' : n < QueryPart.size (s.endingDays false) q.valueParts := by
      rwa [QueryPart.size_endingDays]
    rw [List.getElem?_append_left own'] at values
    obtain ⟨before, part, after, i, split, place, found⟩ := exists_place_of_flatMap values
    have inside : i < (part.payloads s).length := by
      rw [← QueryPart.length_payloads s false]
      exact (List.getElem?_eq_some_iff.1 found).1
    have there : n = QueryPart.size s before + i := by
      rw [place, ← QueryPart.size_endingDays s false]
      rfl
    rw [there, parameters_compile_part scope on split inside] at second
    rcases part.payloads_cases s with ⟨c, k, v, m, rfl, above, wall⟩ | same
    · rw [QueryPart.payloads_bound s above wall] at found second
      obtain ⟨rfl, rfl⟩ : i = 0 ∧ p = s.pairFor c v := by
        cases i with
        | zero => exact ⟨rfl, (Option.some.inj found).symm⟩
        | succ i => cases found
      exact ⟨before, c, k, v, m, after, split, above, wall, there, rfl,
        (Option.some.inj second).symm⟩
    · rw [same] at found second
      exact absurd (Option.some.inj (found.symm.trans second)) differ
  · -- Behind the values of the query there are limit and offset only.
    have paging : ∀ {b st}, (q.endingDays b).compile d window = .ok st →
        st.parameters[n]? = (d.pagingPair window)[n - QueryPart.size s q.valueParts]? := by
      intro b st h
      rw [parameters_compile_parts scope h, ← QueryPart.size_endingDays s b,
        List.getElem?_append_right ?_]
      · rfl
      · rw [← QueryPart.size_endingDays s b] at own
        exact Nat.not_lt.1 own
    rw [paging off] at first
    rw [paging on, first] at second
    exact absurd (Option.some.inj second) differ

/-- **What a query with ended days binds.** With and without its mode a query compiles to the same
text, or fails for the same reason, and it has as many parameters. A parameter that differs comes
from a comparison that bounds a date or a moment from above, in one of the query's own conditions;
there the mode moves the value to the end of its day. It does so for every such comparison, and it
leaves all values of the queries inside as they are. -/
theorem compile_endingDays (d : Dialect) (q : Query) (window : Option PageWindow) :
    (∀ e, (q.endingDays true).compile d window = .error e ↔
      (q.endingDays false).compile d window = .error e) ∧
    ∀ plain ended, (q.endingDays false).compile d window = .ok plain →
      (q.endingDays true).compile d window = .ok ended →
      ended.sql = plain.sql ∧ ended.shape = plain.shape ∧ ended.columns = plain.columns ∧
      ended.parameters.length = plain.parameters.length ∧
      ∃ s, Scope.ofQuery q = .ok s ∧
        (∀ n p p', plain.parameters[n]? = some p → ended.parameters[n]? = some p' → p ≠ p' →
          ∃ before c k v m after,
            q.valueParts = before ++ .test (.compare c k (.value v)) :: after ∧
            k.boundsAbove = true ∧ v.wall? = some m ∧ n = QueryPart.size s before ∧
            p = s.pairFor c v ∧ p' = s.pairFor c (shiftEndOfDay v)) ∧
        (∀ before c k v m after,
          q.valueParts = before ++ .test (.compare c k (.value v)) :: after →
          k.boundsAbove = true → v.wall? = some m →
          plain.parameters[QueryPart.size s before]? = some (s.pairFor c v) ∧
            ended.parameters[QueryPart.size s before]? =
              some (s.pairFor c (shiftEndOfDay v))) ∧
        ∀ before part after, q.valueParts = before ++ part :: after → part.queries ≠ [] →
          ∀ i < (part.payloads s).length,
            plain.parameters[QueryPart.size s before + i]? = (part.payloads s)[i]? ∧
              ended.parameters[QueryPart.size s before + i]? = (part.payloads s)[i]? := by
  have same := shown_compile (d := d) q true false window
  refine ⟨fun e => ?_, fun plain ended off on => ?_⟩
  · rw [← map_eq_error (f := shown), same, map_eq_error]
  rw [off, on] at same
  obtain ⟨dialect, rest⟩ := Prod.mk.inj (Except.ok.inj same)
  obtain ⟨layout, rest⟩ := Prod.mk.inj rest
  obtain ⟨shape, columns⟩ := Prod.mk.inj rest
  have text : ended.sql = plain.sql := by
    rw [Statement.sql, Statement.sql, Fragment.sql, Fragment.sql, dialect]
    exact Fragment.sqlFrom_congr 0 layout
  obtain ⟨_, _, entered, _, _⟩ := compile_eq_ok_iff.1 off
  obtain ⟨s, scope, _⟩ := map_eq_ok.1 ((ofQuery_endingDays q false).symm.trans entered)
  have size : ended.parameters.length = plain.parameters.length := by
    rw [length_parameters_compile scope on, length_parameters_compile scope off]
  refine ⟨text, shape, columns, size, s, scope, ?_, ?_, ?_⟩
  · intro n p p' first second differ
    exact exists_bound_of_parameters_ne scope off on first second differ
  · intro before c k v m after split above wall
    have values := QueryPart.payloads_bound s (c := c) above wall
    have inside : 0 < ((QueryPart.test (.compare c k (.value v))).payloads s).length := by
      rw [← QueryPart.length_payloads s true, values]
      exact Nat.one_pos
    have first := parameters_compile_part scope off split inside
    have second := parameters_compile_part scope on split inside
    rw [values] at first second
    exact ⟨first, second⟩
  · intro before part after split inner i inside
    have unmoved : ∀ b, part.payloads (s.endingDays b) = part.payloads s := by
      rcases part.payloads_cases s with ⟨c, k, v, m, rfl, above, wall⟩ | unmoved
      · exact absurd rfl inner
      · exact unmoved
    have first := parameters_compile_part scope off split inside
    have second := parameters_compile_part scope on split inside
    rw [unmoved] at first second
    exact ⟨first, second⟩

/-- The rows up to a day of a table, if another one has rows up to that day. -/
def upToSample (day : Date) : Query :=
  let upTo := Node.predicate .and (.compare (.ofName "AT") .lessEqual (.value (.date (some day))))
  let inner := { ofNamed 0 "ORDERS" with filter := [upTo] }
  { ofNamed 0 "USERS" with
    filter := [.predicate .and (.hasRows false inner), .nested .and [upTo]] }

/-- The query ends the day of its own bound, not the one of the query inside. -/
example (day : Date) : ((upToSample day).endingDays true).ownPayloads.map Pair.value =
    [.date (some day), .timestamp (some ⟨day, .lastMilli⟩)] := rfl

end Query

end EntitySql
