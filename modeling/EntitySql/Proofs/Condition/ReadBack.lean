import EntitySql.Proofs.Condition.Tests

/-!
# Conditions read back

The model of a condition is a disjunction of runs, cut at the nodes that follow by `OR`. A nested
condition is a tree of its own and a group joins its members by one connective (`Node.tree`). The
text of a condition reads as exactly these runs (`Node.readsAll`, `Condition.readCondition_eq`),
when nothing in it is dropped or empty and its wordings are legible.

Tests are told apart by their texts, and in one dialect a text shows the numbers of its parameters.
So trees are built along the text, with the number of parameters before each node.
-/

namespace EntitySql

set_option autoImplicit false

open Outcome

/-! ## The model as a tree -/

/-- The runs of trees that one connective joins. -/
def Connective.join : Connective → List TestTree → List (List TestTree)
  | and, ts => [ts]
  | or, ts => ts.map fun t => [t]

/-- How many parameters were written. -/
def writtenCount : Except Error Fragment → Nat
  | .ok f => f.parameters.length
  | .error _ => 0

/-- The trees of predicates, with `n` parameters before them. -/
def Predicate.trees (d : Dialect) (s : Scope) : Nat → List Predicate → List TestTree
  | _, [] => []
  | n, p :: ps =>
    p.tree d s n :: Predicate.trees d s (n + writtenCount (p.render d s)) ps

mutual
/-- The tree of a node, with `n` parameters before it. -/
def Node.tree (d : Dialect) (s : Scope) : Nat → Node → TestTree
  | n, .predicate _ p => p.tree d s n
  | n, .nested _ nodes => .group (assemble (Node.trees d s n nodes))
  | n, .group c members => .group (c.inner.join (Predicate.trees d s n members))
  termination_by structural _ node => node

/-- The trees of nodes with the connectives before them. -/
def Node.trees (d : Dialect) (s : Scope) : Nat → List Node → List (Connective × TestTree)
  | _, [] => []
  | n, node :: nodes =>
    (node.composition.outer, node.tree d s n) ::
      Node.trees d s (n + writtenCount (node.render d s)) nodes
  termination_by structural _ nodes => nodes
end

/-- The disjunction of runs that a condition is. -/
def Condition.runs (d : Dialect) (s : Scope) (n : Nat) (c : Condition) : List (List TestTree) :=
  assemble (Node.trees d s n c)

mutual
/-- What the node writes verbatim leaves its text legible. -/
def Node.Legible (d : Dialect) : Node → Prop
  | .predicate _ p => p.Legible d
  | .nested _ nodes => Node.AllLegible d nodes
  | .group _ members => ∀ p ∈ members, p.Legible d
  termination_by structural node => node

/-- The nodes are legible. -/
def Node.AllLegible (d : Dialect) : List Node → Prop
  | [] => True
  | node :: nodes => node.Legible d ∧ Node.AllLegible d nodes
  termination_by structural nodes => nodes
end

/-! ## Chains of fragments -/

namespace Fragment

variable {d : Dialect}

/-- The texts of fragments with their connectives, with `n` parameters before them. -/
def textsFrom (d : Dialect) : Nat → List (Connective × Fragment) → List (Connective × List Char)
  | _, [] => []
  | n, (c, f) :: rest =>
    (c, (f.sqlFrom d n).toList) :: textsFrom d (n + f.parameters.length) rest

/-- Fragments that all write something are chained by their texts. -/
theorem toList_chainedAfter {nodes : List (Connective × Fragment)}
    (h : ∀ node ∈ nodes, node.2.writesNothing = false) (n : Nat) :
    ((chainedAfter true nodes).sqlFrom d n).toList = chainAfter (textsFrom d n nodes) := by
  induction nodes generalizing n with
  | nil => rfl
  | cons node rest ih =>
    obtain ⟨c, f⟩ := node
    have something : f.writesNothing = false := h (c, f) List.mem_cons_self
    have others := ih fun node member => h node (List.mem_cons_of_mem _ member)
    rw [chainedAfter, something, if_neg Bool.false_ne_true, if_pos rfl, sqlFrom_append,
      String.toList_append, others]
    simp [textsFrom, chainAfter]

theorem toList_chained {nodes : List (Connective × Fragment)}
    (h : ∀ node ∈ nodes, node.2.writesNothing = false) (n : Nat) :
    ((chained nodes).sqlFrom d n).toList = chainText (textsFrom d n nodes) := by
  cases nodes with
  | nil => rfl
  | cons node rest =>
    obtain ⟨c, f⟩ := node
    have something : f.writesNothing = false := h (c, f) List.mem_cons_self
    have others := toList_chainedAfter (d := d) fun node member =>
      h node (List.mem_cons_of_mem _ member)
    rw [chained, chainedAfter, something, if_neg Bool.false_ne_true, if_neg Bool.false_ne_true,
      sqlFrom_append, String.toList_append, others]
    rfl

/-- What writes something stands in parentheses. -/
theorem toList_parenthesized {f : Fragment} (h : f.writesNothing = false) (n : Nat) :
    (f.parenthesized.sqlFrom d n).toList = '(' :: ((f.sqlFrom d n).toList ++ [')']) := by
  rw [parenthesized, h, if_neg Bool.false_ne_true]
  simp [sqlFrom_append]

/-- Fragments in parentheses read as the group of their trees. -/
theorem reads_parenthesized {nodes : List (Connective × Fragment)}
    {trees : List (Connective × TestTree)} {n : Nat} (notEmpty : nodes ≠ [])
    (write : ∀ node ∈ nodes, node.2.writesNothing = false)
    (reading : ReadsEach d (textsFrom d n nodes) trees) :
    Reads d ((chained nodes).parenthesized.sqlFrom d n).toList (.group (assemble trees)) := by
  rw [toList_parenthesized (writesNothing_chained notEmpty write), toList_chained write]
  obtain ⟨node, rest, rfl⟩ := List.exists_cons_of_ne_nil notEmpty
  exact Reads.group reading (List.cons_ne_nil _ _)

end Fragment

theorem assembleAfter_and (ts run : List TestTree) :
    assembleAfter run (ts.map fun t => (.and, t)) = [run ++ ts] := by
  induction ts generalizing run with
  | nil =>
    rw [List.append_nil]
    rfl
  | cons t ts ih =>
    rw [List.map_cons, assembleAfter, ih, List.append_assoc]
    rfl

theorem assembleAfter_or (ts run : List TestTree) :
    assembleAfter run (ts.map fun t => (.or, t)) = run :: ts.map fun t => [t] := by
  induction ts generalizing run with
  | nil => rfl
  | cons t ts ih =>
    rw [List.map_cons, assembleAfter, ih]
    rfl

/-- Trees after one connective are a run, or runs of one tree each. -/
theorem assemble_map (c : Connective) {ts : List TestTree} (notEmpty : ts ≠ []) :
    assemble (ts.map fun t => (c, t)) = c.join ts := by
  obtain ⟨t, ts, rfl⟩ := List.exists_cons_of_ne_nil notEmpty
  cases c with
  | and => exact assembleAfter_and ts [t]
  | or => exact assembleAfter_or ts [t]

/-! ## Nodes read back -/

variable {d : Dialect} {s : Scope}

/-- The members of a group read as their trees. -/
theorem Predicate.readsAll (c : Connective) {ps : List Predicate} {fs : List Fragment}
    (h : Predicate.renderAll d s ps = .ok fs) (kept : ∀ p ∈ ps, p.isDropped = false)
    (legible : ∀ p ∈ ps, p.Legible d) (scope : ∀ w ∈ s.wordings, w.KeywordFree d) (n : Nat) :
    ReadsEach d (Fragment.textsFrom d n (fs.map fun f => (c, f)))
      ((Predicate.trees d s n ps).map fun t => (c, t)) := by
  induction ps generalizing fs n with
  | nil =>
    rw [renderAll_nil_eq_ok_iff.1 h]
    exact .nil
  | cons p ps ih =>
    obtain ⟨first, rest, one, others, rfl⟩ := renderAll_cons_eq_ok_iff.1 h
    have head := reads one (kept p List.mem_cons_self) (legible p List.mem_cons_self) scope n
    rw [List.map_cons, Fragment.textsFrom, trees, List.map_cons, one]
    exact .cons ⟨rfl, head⟩ (ih others (fun q member => kept q (List.mem_cons_of_mem _ member))
      (fun q member => legible q (List.mem_cons_of_mem _ member)) _)

mutual
/-- **The text of a node reads as its tree.** -/
theorem Node.reads : ∀ (node : Node) {f : Fragment}, node.render d s = .ok f →
    node.isFull = true → node.Legible d → (∀ w ∈ s.wordings, w.KeywordFree d) →
      ∀ n, Reads d (f.sqlFrom d n).toList (node.tree d s n)
  | .predicate _ p, f, h, full, legible, scope => by
    intro n
    rw [Node.render_predicate] at h
    rw [Node.isFull, Bool.not_eq_true'] at full
    rw [Node.Legible] at legible
    rw [Node.tree]
    exact Predicate.reads h full legible scope n
  | .nested _ nodes, f, h, full, legible, scope => by
    intro n
    obtain ⟨members, written, rfl⟩ := Node.render_nested_eq_ok_iff.1 h
    rw [Node.isFull, Bool.and_eq_true, Bool.not_eq_true', List.isEmpty_eq_false_iff] at full
    rw [Node.Legible] at legible
    rw [Node.tree]
    exact Fragment.reads_parenthesized (Node.renderAll_ne_nil written full.1)
      (Node.renderAll_writes nodes written full.2)
      (Node.readsAll nodes written full.2 legible scope n)
  | .group c members, f, h, full, legible, scope => by
    intro n
    obtain ⟨fs, written, rfl⟩ := Node.render_group_eq_ok_iff.1 h
    rw [Node.isFull, Bool.and_eq_true, Bool.not_eq_true', List.isEmpty_eq_false_iff,
      List.all_eq_true] at full
    rw [Node.Legible] at legible
    have kept : ∀ p ∈ members, p.isDropped = false := fun p member => by
      simpa using full.2 p member
    have write := Predicate.renderAll_writes written kept
    have joined : ∀ node ∈ fs.map fun f => (c.inner, f), node.2.writesNothing = false := by
      intro node member
      obtain ⟨f, used, rfl⟩ := List.mem_map.1 member
      exact write f used
    have notEmpty : Predicate.trees d s n members ≠ [] := by
      obtain ⟨p, ps, rfl⟩ := List.exists_cons_of_ne_nil full.1
      exact List.cons_ne_nil _ _
    rw [Fragment.separated_eq_chained write, Node.tree, ← assemble_map c.inner notEmpty]
    refine Fragment.reads_parenthesized ?_ joined
      (Predicate.readsAll c.inner written kept legible scope n)
    simpa using Predicate.renderAll_ne_nil written full.1

/-- **The texts of nodes read as their trees.** -/
theorem Node.readsAll : ∀ (nodes : List Node) {fs : List (Connective × Fragment)},
    Node.renderAll d s nodes = .ok fs → Node.allFull nodes = true → Node.AllLegible d nodes →
      (∀ w ∈ s.wordings, w.KeywordFree d) →
        ∀ n, ReadsEach d (Fragment.textsFrom d n fs) (Node.trees d s n nodes)
  | [], fs, h, _, _, _ => by
    intro n
    rw [Node.renderAll_nil_eq_ok_iff.1 h]
    exact .nil
  | node :: nodes, fs, h, full, legible, scope => by
    intro n
    obtain ⟨first, rest, one, others, rfl⟩ := Node.renderAll_cons_eq_ok_iff.1 h
    rw [Node.allFull, Bool.and_eq_true] at full
    rw [Node.AllLegible] at legible
    rw [Fragment.textsFrom, Node.trees, one]
    exact .cons ⟨rfl, Node.reads node one full.1 legible.1 scope n⟩
      (Node.readsAll nodes others full.2 legible.2 scope _)
end

/-- **The text of a condition reads as the runs of its model.** -/
theorem Condition.readCondition_eq {c : Condition} {f : Fragment}
    (h : Condition.render d s c = .ok f)
    (full : Node.allFull c = true) (legible : Node.AllLegible d c)
    (scope : ∀ w ∈ s.wordings, w.KeywordFree d) (n : Nat) :
    readCondition d (f.sqlFrom d n).toList = some (Condition.runs d s n c) := by
  obtain ⟨nodes, written, rfl⟩ := Condition.render_eq_ok_iff.1 h
  rw [Fragment.toList_chained (Node.renderAll_writes c written full)]
  exact readCondition_chain (Node.readsAll c written full legible scope n)

end EntitySql
