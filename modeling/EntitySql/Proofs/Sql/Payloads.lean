import EntitySql.Proofs.Sql.Rendering

/-!
# The values a query carries

The values of a query in the order in which a reader meets them: those of the table it selects
from, of each joined table and then of its condition, of the filter, of the condition on groups. A
query inside another one has its values at its place.

Payloads are collected from the query alone. No dialect and no text takes part, so what is proved
of them holds of all dialects at once: the parameters of a rendered query are its payloads
(`Query.parameters_render`).
-/

namespace EntitySql

set_option autoImplicit false

open Outcome

namespace Scope

/-- The descriptor of the column a value is compared with, if there is one. -/
def descriptor (s : Scope) (c : Column) : Option ColumnDef :=
  match s.columnDefOf c with
  | .ok column => column
  | .error _ => none

/-- The parameter for a value compared with a column. -/
def pairFor (s : Scope) (c : Column) (v : Value) : Pair := Pair.forColumn? v (s.descriptor c)

/-- The value a comparison binds. -/
def compared (s : Scope) (k : Comparison) (v : Value) : Value :=
  if s.endOfDay && k.boundsAbove then shiftEndOfDay v else v

end Scope

/-- The value of a parameter for a column is the value given. -/
theorem Pair.value_forColumn? (v : Value) (c : Option ColumnDef) :
    (Pair.forColumn? v c).value = v := by
  cases c <;> rfl

/-- The text a pattern is made from; empty for a value that is no text. -/
def partText (v : Value) : String :=
  match patternText v with
  | .ok text => text
  | .error _ => ""

mutual
/-- The values of a query in its scope. -/
def Query.payloads (s : Scope) : Query → List Pair
  | ⟨table, joins, _, _, filter, _, having, _, _, _, _⟩ =>
    (match table with
      | none => []
      | some t => t.payloads s) ++
      Join.allPayloads s joins ++ Node.allPayloads s filter ++ Node.allPayloads s having
  termination_by structural q => q

/-- The values of a table: those of the query it stands for. -/
def Table.payloads (s : Scope) : Table → List Pair
  | ⟨_, source⟩ => source.payloads s
  termination_by structural t => t

/-- Entities and named tables carry no values. -/
def TableSource.payloads (s : Scope) : TableSource → List Pair
  | .entity _ => []
  | .named _ => []
  | .subQuery q =>
    match s.inside q with
    | .ok inner => q.payloads inner
    | .error _ => []
  termination_by structural t => t

/-- The values of a join: its table, then its condition. -/
def Join.payloads (s : Scope) : Join → List Pair
  | ⟨_, table, on⟩ => table.payloads s ++ Node.allPayloads s on
  termination_by structural j => j

/-- The values of joins one after the other. -/
def Join.allPayloads (s : Scope) : List Join → List Pair
  | [] => []
  | j :: js => j.payloads s ++ Join.allPayloads s js
  termination_by structural js => js

/-- The values of a node. -/
def Node.payloads (s : Scope) : Node → List Pair
  | .predicate _ p => p.payloads s
  | .nested _ nodes => Node.allPayloads s nodes
  | .group _ members => Predicate.allPayloads s members
  termination_by structural n => n

/-- The values of nodes one after the other. -/
def Node.allPayloads (s : Scope) : List Node → List Pair
  | [] => []
  | n :: ns => n.payloads s ++ Node.allPayloads s ns
  termination_by structural ns => ns

/-- The values a predicate binds. Null tests bind none, nor does a range without bounds. -/
def Predicate.payloads (s : Scope) : Predicate → List Pair
  | .compare c k (.value v) => if v.isNull then [] else [s.pairFor c (s.compared k v)]
  | .compare _ _ (.column _) => []
  | .like _ place _ part => [Pair.ofValue (.varchar (some (place.pattern (partText part))))]
  | .among c _ values => values.map (s.pairFor c)
  | .isNull _ _ => []
  | .isEmpty _ _ => []
  | .between c low high =>
    if low.isNull && high.isNull then [] else [s.pairFor c low, s.pairFor c high]
  | .hasRows _ q =>
    match s.inside q with
    | .ok inner => q.payloads inner
    | .error _ => []
  termination_by structural p => p

/-- The values of predicates one after the other. -/
def Predicate.allPayloads (s : Scope) : List Predicate → List Pair
  | [] => []
  | p :: ps => p.payloads s ++ Predicate.allPayloads s ps
  termination_by structural ps => ps
end

/-! ## The parameters of a rendering are its payloads -/

theorem LeftSide.parameter_eq {d : Dialect} {s : Scope} {c : Column} {l : LeftSide}
    (h : LeftSide.ofColumn d s c = .ok l) (v : Value) :
    l.parameter v = .parameter (s.pairFor c v) := by
  obtain ⟨column, _⟩ := LeftSide.ofColumn_eq_ok_iff.1 h
  simp only [LeftSide.parameter, Scope.pairFor, Scope.descriptor, column]

theorem partText_eq {v : Value} {text : String} (h : patternText v = .ok text) :
    partText v = text := by
  simp only [partText, h]

theorem parameters_compareTest {d : Dialect} {s : Scope} {c : Column} {l : LeftSide}
    {k : Comparison} {operand : Operand} {f : Fragment} (left : LeftSide.ofColumn d s c = .ok l)
    (h : compareTest d s l k operand = .ok f) :
    Fragment.parameters f = (Predicate.compare c k operand).payloads s := by
  rcases compareTest_eq_ok h with
    ⟨v, rfl, null, rfl⟩ | ⟨v, rfl, null, rfl⟩ | ⟨other, right, rfl, _, rfl⟩
  · simp [Predicate.payloads, null]
  · simp [Predicate.payloads, null, LeftSide.parameter_eq left, Scope.compared]
  · simp [Predicate.payloads]

theorem parameters_amongTest {d : Dialect} {s : Scope} {c : Column} {l : LeftSide}
    (left : LeftSide.ofColumn d s c = .ok l) (negated : Bool) (values : List Value) :
    Fragment.parameters (amongTest l negated values) =
      (Predicate.among c negated values).payloads s := by
  cases values with
  | nil => simp [amongTest, Predicate.payloads]
  | cons v rest =>
    have single : ∀ w, Fragment.parameters [l.parameter w] = [s.pairFor c w] := fun w => by
      simp [LeftSide.parameter_eq left]
    simp [amongTest, Predicate.payloads,
      Fragment.parameters_separated_map ", " _ single (v :: rest), -List.map_cons]

theorem parameters_betweenTest {d : Dialect} {s : Scope} {c : Column} {l : LeftSide}
    {low high : Value} {f : Fragment} (left : LeftSide.ofColumn d s c = .ok l)
    (h : betweenTest l low high = .ok f) :
    Fragment.parameters f = (Predicate.between c low high).payloads s := by
  rcases betweenTest_eq_ok h with ⟨noLow, noHigh, rfl⟩ | ⟨someLow, someHigh, rfl⟩
  · simp [Predicate.payloads, noLow, noHigh]
  · simp [Predicate.payloads, someLow, LeftSide.parameter_eq left]

/-- The select list carries no values. -/
theorem parameters_selectHead {d : Dialect} {s : Scope} {options : SelectOptions}
    {distinct : Bool} {columns : List Column} {f : Fragment}
    (h : selectHead d s options distinct columns = .ok f) : Fragment.parameters f = [] := by
  unfold selectHead at h
  split at h
  · cases h
    rfl
  · simp only [bind_eq_ok, pure_eq_ok, selectList] at h
    obtain ⟨list, written, rfl⟩ := h
    have bare : Fragment.parameters list = [] := by
      split at written
      · cases written
        rfl
      · obtain ⟨texts, _, rfl⟩ := map_eq_ok.1 written
        exact Fragment.parameters_separatedTexts _ _
    cases options.extraColumn <;> simp [bare]

theorem parameters_groupClause {d : Dialect} {s : Scope} {columns : List Column} {f : Fragment}
    (h : groupClause d s columns = .ok f) : Fragment.parameters f = [] := by
  unfold groupClause at h
  split at h
  · cases h
    rfl
  · obtain ⟨texts, _, rfl⟩ := map_eq_ok.1 h
    simp

theorem parameters_finalOrder {d : Dialect} {s : Scope} {options : SelectOptions}
    {terms : List Ordered} {f : Fragment} (h : finalOrder d s options terms = .ok f) :
    Fragment.parameters f = [] := by
  unfold finalOrder at h
  split at h
  · cases h
    rfl
  · obtain ⟨clause, _, rfl⟩ := map_eq_ok.1 h
    rfl

mutual
/-- **The parameters of a query are its payloads**, whatever the dialect and the options. -/
theorem Query.parameters_render {d : Dialect} : ∀ (q : Query) {s : Scope}
    {options : SelectOptions} {f : Fragment}, q.render d s options = .ok f →
      Fragment.parameters f = q.payloads s
  | ⟨none, _, _, _, _, _, _, _, _, _, _⟩, s, options, f, h => by
    obtain ⟨t, _, _, _, _, _, _, _, absent, _⟩ := Query.render_eq_ok_iff.1 h
    cases absent
  | ⟨some t, joins, _, _, filter, _, having, _, _, _, _⟩, s, options, f, h => by
    obtain ⟨_, head, first, others, condition, groups, groupCondition, order, same, hh, hf, ho, hc,
      hg, hv, hr, rfl⟩ := Query.render_eq_ok_iff.1 h
    cases same
    simp [Query.payloads, parameters_selectHead hh, parameters_groupClause hg,
      parameters_finalOrder hr, Table.parameters_render t hf, Join.parameters_renderAll joins ho,
      Node.parameters_renderAll filter hc, Node.parameters_renderAll having hv]

theorem Table.parameters_render {d : Dialect} : ∀ (t : Table) {s : Scope} {f : Fragment},
    t.render d s = .ok f → Fragment.parameters f = t.payloads s
  | ⟨_, source⟩, s, f, h => by
    obtain ⟨g, written, rfl⟩ := Table.render_eq_ok_iff.1 h
    simp [Table.payloads, TableSource.parameters_render source written]

theorem TableSource.parameters_render {d : Dialect} : ∀ (t : TableSource) {s : Scope}
    {f : Fragment}, t.render d s = .ok f → Fragment.parameters f = t.payloads s
  | .entity _, s, f, h => by
    cases h
    rfl
  | .named _, s, f, h => by
    cases h
    rfl
  | .subQuery q, s, f, h => by
    obtain ⟨inner, body, scope, written, rfl⟩ := TableSource.render_subQuery_eq_ok_iff.1 h
    simp [TableSource.payloads, scope, Query.parameters_render q written]

theorem Join.parameters_render {d : Dialect} : ∀ (j : Join) {s : Scope} {f : Fragment},
    j.render d s = .ok f → Fragment.parameters f = j.payloads s
  | ⟨kind, table, on⟩, s, f, h => by
    obtain ⟨t, condition, ht, hc, rfl⟩ := Join.render_eq_ok_iff.1 h
    have tables := Table.parameters_render table ht
    have conditions := Node.parameters_renderAll on hc
    cases on with
    | nil => simp [Join.payloads, tables, Node.allPayloads]
    | cons n ns => simp [Join.payloads, tables, conditions]

theorem Join.parameters_renderAll {d : Dialect} : ∀ (js : List Join) {s : Scope} {f : Fragment},
    Join.renderAll d s js = .ok f → Fragment.parameters f = Join.allPayloads s js
  | [], s, f, h => by
    cases h
    rfl
  | j :: js, s, f, h => by
    obtain ⟨first, rest, hf, hr, rfl⟩ := Join.renderAll_cons_eq_ok_iff.1 h
    simp [Join.allPayloads, Join.parameters_render j hf, Join.parameters_renderAll js hr]

theorem Node.parameters_render {d : Dialect} : ∀ (n : Node) {s : Scope} {f : Fragment},
    n.render d s = .ok f → Fragment.parameters f = n.payloads s
  | .predicate _ p, s, f, h => by
    rw [Node.render_predicate] at h
    simp [Node.payloads, Predicate.parameters_render p h]
  | .nested _ nodes, s, f, h => by
    obtain ⟨members, written, rfl⟩ := Node.render_nested_eq_ok_iff.1 h
    simp [Node.payloads, Node.parameters_renderAll nodes written]
  | .group _ members, s, f, h => by
    obtain ⟨fs, written, rfl⟩ := Node.render_group_eq_ok_iff.1 h
    simp [Node.payloads, Predicate.parameters_renderAll members written]

theorem Node.parameters_renderAll {d : Dialect} : ∀ (ns : List Node) {s : Scope}
    {fs : List (Connective × Fragment)}, Node.renderAll d s ns = .ok fs →
      fs.flatMap (fun node => Fragment.parameters node.2) = Node.allPayloads s ns
  | [], s, fs, h => by
    cases h
    rfl
  | n :: ns, s, fs, h => by
    obtain ⟨first, rest, hf, hr, rfl⟩ := Node.renderAll_cons_eq_ok_iff.1 h
    simp [Node.allPayloads, Node.parameters_render n hf, Node.parameters_renderAll ns hr]

theorem Predicate.parameters_render {d : Dialect} : ∀ (p : Predicate) {s : Scope} {f : Fragment},
    p.render d s = .ok f → Fragment.parameters f = p.payloads s
  | .compare c k operand, s, f, h => by
    obtain ⟨l, left, written⟩ := Predicate.render_compare_eq_ok_iff.1 h
    exact parameters_compareTest left written
  | .like c place negated part, s, f, h => by
    obtain ⟨l, text, _, found, rfl⟩ := Predicate.render_like_eq_ok_iff.1 h
    simp [Predicate.payloads, partText_eq found]
  | .among c negated values, s, f, h => by
    obtain ⟨l, left, rfl⟩ := Predicate.render_among_eq_ok_iff.1 h
    exact parameters_amongTest left negated values
  | .isNull _ _, s, f, h => by
    obtain ⟨l, _, rfl⟩ := Predicate.render_isNull_eq_ok_iff.1 h
    rfl
  | .isEmpty _ _, s, f, h => by
    obtain ⟨l, _, rfl⟩ := Predicate.render_isEmpty_eq_ok_iff.1 h
    rfl
  | .between c low high, s, f, h => by
    obtain ⟨l, left, written⟩ := Predicate.render_between_eq_ok_iff.1 h
    exact parameters_betweenTest left written
  | .hasRows _ q, s, f, h => by
    obtain ⟨inner, body, scope, written, rfl⟩ := Predicate.render_hasRows_eq_ok_iff.1 h
    simp [Predicate.payloads, scope, Query.parameters_render q written]

theorem Predicate.parameters_renderAll {d : Dialect} : ∀ (ps : List Predicate) {s : Scope}
    {fs : List Fragment}, Predicate.renderAll d s ps = .ok fs →
      fs.flatMap Fragment.parameters = Predicate.allPayloads s ps
  | [], s, fs, h => by
    cases h
    rfl
  | p :: ps, s, fs, h => by
    obtain ⟨first, rest, hf, hr, rfl⟩ := Predicate.renderAll_cons_eq_ok_iff.1 h
    simp [Predicate.allPayloads, Predicate.parameters_render p hf,
      Predicate.parameters_renderAll ps hr]
end

/-- The parameters of a condition are its payloads. -/
theorem Condition.parameters_render {d : Dialect} {s : Scope} {c : Condition} {f : Fragment}
    (h : Condition.render d s c = .ok f) : Fragment.parameters f = Node.allPayloads s c := by
  obtain ⟨nodes, written, rfl⟩ := Condition.render_eq_ok_iff.1 h
  simp [Node.parameters_renderAll c written]

end EntitySql
