import EntitySql.Proofs.Condition.Layout

/-!
# Conditions without dropped predicates

Pruning removes the dropped predicates of a condition and, at every depth, the groups and nested
conditions that are empty then. A pruned condition is full.

A condition is written like its pruned one but for one thing. The separator inside a group is
written before a member as soon as the member before it wrote something. So a group that keeps a
member and drops its last one ends with a separator (`Predicate.leavesSeparator`). The text of a
condition is longer than that of its pruned one by these separators, and is the same text exactly
when there are none (`Condition.render_pruned`).
-/

namespace EntitySql

set_option autoImplicit false

open Outcome

variable {d : Dialect} {s : Scope}

/-! ## Pruning -/

namespace Predicate

/-- The predicates that are not dropped. -/
def kept (ps : List Predicate) : List Predicate := ps.filter fun p => !p.isDropped

/-- A predicate is kept and the last one is dropped. -/
def leavesSeparator (ps : List Predicate) : Bool :=
  !(kept ps).isEmpty && ps.getLast?.any isDropped

end Predicate

mutual
/-- The node without dropped predicates and what they leave empty, if anything is left. -/
def Node.prune : Node → Option Node
  | .predicate c p => if p.isDropped then none else some (.predicate c p)
  | .nested c nodes =>
    if (Node.pruneAll nodes).isEmpty then none else some (.nested c (Node.pruneAll nodes))
  | .group c members =>
    if (Predicate.kept members).isEmpty then none else some (.group c (Predicate.kept members))
  termination_by structural node => node

/-- What is left of nodes. -/
def Node.pruneAll : List Node → List Node
  | [] => []
  | node :: nodes => node.prune.toList ++ Node.pruneAll nodes
  termination_by structural nodes => nodes
end

/-- The condition without dropped predicates and what they leave empty. -/
def Condition.pruned (c : Condition) : Condition := Node.pruneAll c

mutual
/-- The length of the separators left at the ends of groups. -/
def Node.leftover : Node → Nat
  | .predicate _ _ => 0
  | .nested _ nodes => Node.allLeftover nodes
  | .group c members =>
    if Predicate.leavesSeparator members then c.inner.spaced.length else 0
  termination_by structural node => node

/-- The length of the separators left at the ends of the groups of nodes. -/
def Node.allLeftover : List Node → Nat
  | [] => 0
  | node :: nodes => node.leftover + Node.allLeftover nodes
  termination_by structural nodes => nodes
end

mutual
/-- What is left of a node is full. -/
theorem Node.isFull_prune : ∀ (node : Node) {m : Node}, node.prune = some m → m.isFull = true
  | .predicate c p, m, h => by
    rw [Node.prune] at h
    split at h
    · cases h
    · rename_i present
      cases h
      rw [Node.isFull, Bool.not_eq_true', Bool.eq_false_iff]
      exact present
  | .nested c nodes, m, h => by
    rw [Node.prune] at h
    split at h
    · cases h
    · rename_i present
      cases h
      rw [Bool.not_eq_true] at present
      rw [Node.isFull, present, Node.allFull_pruneAll nodes]
      rfl
  | .group c members, m, h => by
    rw [Node.prune] at h
    split at h
    · cases h
    · rename_i present
      cases h
      rw [Bool.not_eq_true] at present
      rw [Node.isFull, present, Bool.not_false, Bool.true_and, List.all_eq_true]
      intro p member
      exact (List.mem_filter.1 member).2

/-- **A pruned condition is full.** -/
theorem Node.allFull_pruneAll : ∀ nodes : List Node, Node.allFull (Node.pruneAll nodes) = true
  | [] => rfl
  | node :: nodes => by
    have others := Node.allFull_pruneAll nodes
    rw [Node.pruneAll]
    cases left : node.prune with
    | none => exact others
    | some m =>
      have one := Node.isFull_prune node left
      rw [Option.toList_some, List.singleton_append, Node.allFull, one, others]
      rfl
end

/-! ## Fragments with more text -/

/-- One fragment has the parameters of another and so many characters more; without any it is the
same. -/
structure Fragment.Exceeds (d : Dialect) (k : Nat) (f g : Fragment) : Prop where
  parameters : f.parameters = g.parameters
  writes : f.writesNothing = g.writesNothing
  length : ∀ n, (f.sqlFrom d n).length = (g.sqlFrom d n).length + k
  same : k = 0 → f = g

namespace Fragment.Exceeds

variable {f g h i : Fragment} {k l : Nat}

theorem refl (f : Fragment) : Exceeds d 0 f f := ⟨rfl, rfl, fun _ => rfl, fun _ => rfl⟩

theorem append (first : Exceeds d k f g) (second : Exceeds d l h i) :
    Exceeds d (k + l) (f ++ h) (g ++ i) := by
  refine ⟨?_, ?_, ?_, ?_⟩
  · rw [parameters_append, parameters_append, first.parameters, second.parameters]
  · rw [writesNothing_append, writesNothing_append, first.writes, second.writes]
  · intro n
    rw [sqlFrom_append, sqlFrom_append, String.length_append, String.length_append, first.length,
      first.parameters, second.length]
    omega
  · intro none
    rw [first.same (by omega), second.same (by omega)]

theorem text (word : String) (rest : Exceeds d k f g) :
    Exceeds d k (.text word :: f) (.text word :: g) := by
  have whole := (refl (d := d) [.text word]).append rest
  rw [Nat.zero_add] at whole
  exact whole

theorem parenthesized (inside : Exceeds d k f g) (something : g.writesNothing = false) :
    Exceeds d k f.parenthesized g.parenthesized := by
  have own := inside.writes
  rw [something] at own
  rw [Fragment.parenthesized, Fragment.parenthesized, own, something, if_neg Bool.false_ne_true,
    if_neg Bool.false_ne_true]
  exact text "(" (inside.append (refl [.text ")"]))

/-- A member with its connective and what follows it. -/
theorem chainedAfter {c : Connective} {fs gs : List (Connective × Fragment)} (started : Bool)
    (member : Exceeds d k f g) (something : g.writesNothing = false)
    (others : Exceeds d l (chainedAfter true fs) (chainedAfter true gs)) :
    Exceeds d (k + l) (Fragment.chainedAfter started ((c, f) :: fs))
      (Fragment.chainedAfter started ((c, g) :: gs)) := by
  have own := member.writes
  rw [something] at own
  rw [Fragment.chainedAfter, Fragment.chainedAfter, own, something, if_neg Bool.false_ne_true,
    if_neg Bool.false_ne_true]
  refine append ?_ others
  split
  · exact text c.spaced member
  · exact member

end Fragment.Exceeds

/-! ## Groups -/

/-- What follows something starts with the separator. -/
theorem Fragment.separatedAfter_true (separator : String) {members : List Fragment}
    (notEmpty : members ≠ []) :
    separatedAfter separator true members = .text separator :: separated separator members := by
  obtain ⟨f, rest, rfl⟩ := List.exists_cons_of_ne_nil notEmpty
  rfl

namespace Predicate

theorem leavesSeparator_of_isDropped {p : Predicate} (dropped : p.isDropped = true)
    (ps : List Predicate) : leavesSeparator (p :: ps) = leavesSeparator ps := by
  have same : kept (p :: ps) = kept ps := by simp [kept, dropped]
  cases ps with
  | nil => simp [leavesSeparator, kept, dropped]
  | cons q qs => rw [leavesSeparator, leavesSeparator, same, List.getLast?_cons_cons]

theorem leavesSeparator_of_kept {p : Predicate} (present : p.isDropped = false)
    (ps : List Predicate) :
    leavesSeparator (p :: ps) = ps.getLast?.any isDropped := by
  have some : (kept (p :: ps)).isEmpty = false := by simp [kept, present]
  cases ps with
  | nil => simp [leavesSeparator, present]
  | cons q qs => rw [leavesSeparator, some, List.getLast?_cons_cons, Bool.not_false, Bool.true_and]

/-- **The members of a group are written like the kept ones,** with one more separator when the
last member is dropped after a kept one. -/
theorem separated_kept (separator : String) {ps : List Predicate} {fs : List Fragment}
    (h : renderAll d s ps = .ok fs) :
    ∃ gs, renderAll d s (kept ps) = .ok gs ∧
      Fragment.separated separator fs = Fragment.separated separator gs ++
        if leavesSeparator ps then [.text separator] else [] := by
  induction ps generalizing fs with
  | nil =>
    rw [renderAll_nil_eq_ok_iff.1 h]
    exact ⟨[], rfl, rfl⟩
  | cons p ps ih =>
    obtain ⟨first, rest, one, others, rfl⟩ := renderAll_cons_eq_ok_iff.1 h
    obtain ⟨gs, left, same⟩ := ih others
    cases dropped : p.isDropped with
    | true =>
      refine ⟨gs, by simpa [kept, dropped] using left, ?_⟩
      rw [leavesSeparator_of_isDropped dropped, ← same, render_of_isDropped one dropped]
      rfl
    | false =>
      have something : first.writesNothing = false := by rw [writesNothing_render one, dropped]
      have start : ∀ members, Fragment.separated separator (first :: members) =
          first ++ Fragment.separatedAfter separator true members := by
        intro members
        rw [Fragment.separated, Fragment.separatedAfter, something]
        rfl
      refine ⟨first :: gs, ?_, ?_⟩
      · have keeps : kept (p :: ps) = p :: kept ps := by simp [kept, dropped]
        rw [keeps]
        exact renderAll_cons_eq_ok_iff.2 ⟨first, gs, one, left, rfl⟩
      · rw [start, start, leavesSeparator_of_kept dropped]
        by_cases last : ps = []
        · subst last
          rw [renderAll_nil_eq_ok_iff.1 others, renderAll_nil_eq_ok_iff.1 left]
          simp [Fragment.separatedAfter]
        · rw [Fragment.separatedAfter_true separator (renderAll_ne_nil others last), same]
          by_cases none : kept ps = []
          · -- the first member is the only one that is kept
            have allDropped : ps.getLast?.any isDropped = true := by
              have final := List.filter_eq_nil_iff.1 none _ (List.getLast_mem last)
              rw [List.getLast?_eq_some_getLast last]
              simpa using final
            rw [none] at left
            rw [renderAll_nil_eq_ok_iff.1 left, leavesSeparator, none, allDropped]
            simp [Fragment.separated, Fragment.separatedAfter]
          · have unchanged : leavesSeparator ps = ps.getLast?.any isDropped := by
              rw [leavesSeparator, List.isEmpty_eq_false_iff.2 none, Bool.not_false, Bool.true_and]
            rw [Fragment.separatedAfter_true separator (renderAll_ne_nil left none), unchanged]
            simp

end Predicate

/-! ## Nodes -/

/-- A group whose kept members are written is written like the group of these. -/
theorem Fragment.exceeds_group {c : Connective} {ps : List Predicate} {fs gs : List Fragment}
    (something : (separated c.spaced gs).writesNothing = false)
    (same : separated c.spaced fs = separated c.spaced gs ++
      if Predicate.leavesSeparator ps then [.text c.spaced] else []) :
    Exceeds d (if Predicate.leavesSeparator ps then c.spaced.length else 0)
      (separated c.spaced fs).parenthesized (separated c.spaced gs).parenthesized := by
  refine Exceeds.parenthesized ?_ something
  rw [same]
  split
  · refine ⟨?_, ?_, ?_, ?_⟩
    · rw [parameters_append, parameters_text, parameters_nil, List.append_nil]
    · rw [writesNothing_append, something, Bool.false_and]
    · intro n
      rw [sqlFrom_append, String.length_append, sqlFrom_text, sqlFrom_nil, String.append_empty]
    · intro none
      cases c <;> exact absurd none (by decide)
  · rw [List.append_nil]
    exact .refl _

mutual
/-- **A node is written like what is left of it,** or as nothing when nothing is. -/
theorem Node.render_prune : ∀ (node : Node) {f : Fragment}, node.render d s = .ok f →
    (node.prune = none ∧ f = [] ∧ node.leftover = 0) ∨
      ∃ m g, node.prune = some m ∧ m.composition = node.composition ∧ m.render d s = .ok g ∧
        f.Exceeds d node.leftover g
  | .predicate c p, f, h => by
    rw [Node.prune, Node.leftover]
    cases dropped : p.isDropped with
    | true =>
      rw [Node.render_predicate] at h
      exact .inl ⟨rfl, Predicate.render_of_isDropped h dropped, rfl⟩
    | false => exact .inr ⟨_, f, rfl, rfl, h, .refl f⟩
  | .nested c nodes, f, h => by
    obtain ⟨members, written, rfl⟩ := Node.render_nested_eq_ok_iff.1 h
    obtain ⟨left, again, none, exceeds⟩ := Node.renderAll_pruneAll nodes written
    rw [Node.prune, Node.leftover]
    by_cases empty : Node.pruneAll nodes = []
    · rw [empty] at again
      have nothing := (exceeds false).same (none empty)
      rw [Node.renderAll_nil_eq_ok_iff.1 again] at nothing
      refine .inl ⟨by rw [empty]; rfl, ?_, none empty⟩
      rw [Fragment.chained, nothing]
      rfl
    · have full := Node.allFull_pruneAll nodes
      have something := Fragment.writesNothing_chained (Node.renderAll_ne_nil again empty)
        (Node.renderAll_writes _ again full)
      refine .inr ⟨.nested c (Node.pruneAll nodes), (Fragment.chained left).parenthesized, ?_, rfl,
        Node.render_nested_eq_ok_iff.2 ⟨left, again, rfl⟩, (exceeds false).parenthesized something⟩
      rw [List.isEmpty_eq_false_iff.2 empty]
      rfl
  | .group c members, f, h => by
    obtain ⟨fs, written, rfl⟩ := Node.render_group_eq_ok_iff.1 h
    obtain ⟨gs, again, same⟩ := Predicate.separated_kept c.inner.spaced written
    rw [Node.prune, Node.leftover]
    by_cases empty : Predicate.kept members = []
    · have ended : Predicate.leavesSeparator members = false := by
        rw [Predicate.leavesSeparator, empty]
        rfl
      rw [empty] at again
      rw [Predicate.renderAll_nil_eq_ok_iff.1 again, ended] at same
      refine .inl ⟨by rw [empty]; rfl, ?_, by rw [ended]; rfl⟩
      rw [same]
      rfl
    · have something : (Fragment.separated c.inner.spaced gs).writesNothing = false := by
        have write := Predicate.renderAll_writes again fun p member => by
          simpa using (List.mem_filter.1 member).2
        rw [Fragment.separated_eq_chained write]
        exact Fragment.writesNothing_joined (Predicate.renderAll_ne_nil again empty) write
      refine .inr ⟨.group c (Predicate.kept members), _, ?_, rfl,
        Node.render_group_eq_ok_iff.2 ⟨gs, again, rfl⟩, Fragment.exceeds_group something same⟩
      rw [List.isEmpty_eq_false_iff.2 empty]
      rfl

/-- **Nodes are chained like what is left of them.** -/
theorem Node.renderAll_pruneAll : ∀ (nodes : List Node) {fs : List (Connective × Fragment)},
    Node.renderAll d s nodes = .ok fs →
      ∃ gs, Node.renderAll d s (Node.pruneAll nodes) = .ok gs ∧
        (Node.pruneAll nodes = [] → Node.allLeftover nodes = 0) ∧
        ∀ started, (Fragment.chainedAfter started fs).Exceeds d (Node.allLeftover nodes)
          (Fragment.chainedAfter started gs)
  | [], fs, h => by
    rw [Node.renderAll_nil_eq_ok_iff.1 h]
    exact ⟨[], rfl, fun _ => rfl, fun _ => .refl _⟩
  | node :: nodes, fs, h => by
    obtain ⟨first, rest, one, others, rfl⟩ := Node.renderAll_cons_eq_ok_iff.1 h
    obtain ⟨gs, again, none, exceeds⟩ := Node.renderAll_pruneAll nodes others
    rw [Node.pruneAll, Node.allLeftover]
    rcases Node.render_prune node one with ⟨gone, nothing, zero⟩ | ⟨m, g, left, same, written, more⟩
    · rw [gone, nothing, zero, Nat.zero_add]
      exact ⟨gs, again, none, exceeds⟩
    · rw [left, Option.toList_some, List.singleton_append]
      refine ⟨(node.composition.outer, g) :: gs,
        Node.renderAll_cons_eq_ok_iff.2 ⟨g, gs, written, again, by rw [same]⟩, nofun, ?_⟩
      intro started
      exact .chainedAfter started more (Node.render_writes m written (Node.isFull_prune node left))
        (exceeds true)
end

/-! ## Conditions -/

theorem Condition.pruned_eq_nil_iff {c : Condition} {g : Fragment}
    (h : Condition.render d s c.pruned = .ok g) (n : Nat) :
    g.sqlFrom d n = "" ↔ c.pruned = [] := by
  obtain ⟨gs, written, rfl⟩ := Condition.render_eq_ok_iff.1 h
  rw [Fragment.sqlFrom_eq_empty_iff]
  constructor
  · intro nothing
    by_contra left
    have something := Fragment.writesNothing_chained (Node.renderAll_ne_nil written left)
      (Node.renderAll_writes _ written (Node.allFull_pruneAll c))
    rw [something] at nothing
    cases nothing
  · intro none
    rw [none] at written
    rw [Node.renderAll_nil_eq_ok_iff.1 written]
    rfl

/-- A connective of a pruned condition stands between two operands. -/
theorem Condition.glue_between_pruned {c : Condition} {k : Connective}
    {xs ys : List ConditionPart} (h : Condition.parts c.pruned = xs ++ .glue k :: ys) :
    (∃ a, xs.getLast? = some a ∧ a.endsOperand = true) ∧
      ∃ b, ys.head? = some b ∧ b.startsOperand = true := by
  have notEmpty : c.pruned ≠ [] := by
    intro empty
    rw [empty, Condition.parts, Node.allParts] at h
    exact List.append_ne_nil_of_right_ne_nil xs (List.cons_ne_nil _ ys) h.symm
  have turns := Condition.alternates_parts (Node.allFull_pruneAll c) notEmpty
  rw [← Condition.pruned, h] at turns
  exact ConditionPart.glue_between turns

/-- **A condition is written like its pruned one,** with the same parameters and, unless a group
keeps a member and drops its last one, with the same text. The pruned condition is written as parts
in which every connective stands between two operands; nothing is written when nothing is left. -/
theorem Condition.render_pruned {c : Condition} {f : Fragment}
    (h : Condition.render d s c = .ok f) :
    ∃ g, Condition.render d s c.pruned = .ok g ∧
      f.parameters = g.parameters ∧
      (∀ n, f.sqlFrom d n = g.sqlFrom d n ↔ Node.allLeftover c = 0) ∧
      (∀ n, (f.sqlFrom d n).length = (g.sqlFrom d n).length + Node.allLeftover c) ∧
      (∀ n, f.sqlFrom d n = "" ↔ c.pruned = []) ∧
      ConditionPart.renderAll d s (Condition.parts c.pruned) = .ok g ∧
      ∀ xs k ys, Condition.parts c.pruned = xs ++ .glue k :: ys →
        (∃ a, xs.getLast? = some a ∧ a.endsOperand = true) ∧
          ∃ b, ys.head? = some b ∧ b.startsOperand = true := by
  obtain ⟨fs, written, rfl⟩ := Condition.render_eq_ok_iff.1 h
  obtain ⟨gs, again, _, exceeds⟩ := Node.renderAll_pruneAll c written
  have more := exceeds false
  have pruned : Condition.render d s c.pruned = .ok (Fragment.chained gs) :=
    Condition.render_eq_ok_iff.2 ⟨gs, again, rfl⟩
  refine ⟨_, pruned, more.parameters, ?_, more.length, ?_,
    Condition.renderAll_parts pruned (Node.allFull_pruneAll c),
    fun xs k ys split => Condition.glue_between_pruned split⟩
  · intro n
    constructor
    · intro same
      have lengths := more.length n
      rw [← Fragment.chained, ← Fragment.chained, same] at lengths
      omega
    · intro none
      rw [Fragment.chained, more.same none, Fragment.chained]
  · intro n
    rw [← Condition.pruned_eq_nil_iff pruned n, Fragment.sqlFrom_eq_empty_iff,
      Fragment.sqlFrom_eq_empty_iff, Fragment.chained, more.writes, Fragment.chained]

/-- A range without bounds. -/
def openRange (name : String) : Predicate := .between (.ofName name) .null .null

/-- Dropped ranges first and in the middle of a group, alone in a nested condition, and last. -/
def sparseSample : Condition :=
  let one : Value := .int .int32 (some (.clamp .int32 1))
  [.nested .and [.predicate .and (openRange "A"), .group .or [openRange "B", openRange "C"]],
    .group .orAnd [openRange "D", .compare (.ofName "E") .equal (.value one), openRange "F",
      .isNull (.ofName "G") true],
    .predicate .or (openRange "H")]

theorem Condition.render_pruned_sparseSample :
    ∃ f, Condition.render .postgres soleTable sparseSample = .ok f ∧
      f.sql .postgres = "(E = $1 AND G IS NOT NULL)" ∧ Node.allLeftover sparseSample = 0 ∧
      ∃ g, Condition.render .postgres soleTable sparseSample.pruned = .ok g ∧
        f.parameters = g.parameters ∧ f.sql .postgres = g.sql .postgres := by
  have none : Node.allLeftover sparseSample = 0 := by decide
  obtain ⟨g, pruned, parameters, same, _⟩ :=
    Condition.render_pruned (d := .postgres) (s := soleTable) (c := sparseSample) (Eq.refl _)
  exact ⟨_, rfl, by decide +kernel, none, g, pruned, parameters, (same 0).2 none⟩

/-- A group that drops its last member. -/
def danglingSample : Condition :=
  [.group .andOr [.compare (.ofName "A") .equal (.value (.int .int32 (some (.clamp .int32 1)))),
    openRange "B"]]

/-- The separator before a dropped last member stays in the text. -/
theorem Condition.render_pruned_danglingSample :
    ∃ f g, Condition.render .generic soleTable danglingSample = .ok f ∧
      Condition.render .generic soleTable danglingSample.pruned = .ok g ∧
      f.sql .generic = "(A = ? OR )" ∧ g.sql .generic = "(A = ?)" ∧
      Node.allLeftover danglingSample = 4 := by
  refine ⟨_, _, rfl, rfl, ?_, ?_, ?_⟩ <;> decide +kernel

end EntitySql
