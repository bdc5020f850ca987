import EntitySql.Proofs.Condition.Dropped

/-!
# The layout of a condition

A full condition is written as a sequence of tests, parentheses and connectives
(`Condition.renderAll_parts`). Operands and connectives alternate in it: no connective stands at the
start or the end, next to the inner side of a parenthesis, or beside another one
(`ConditionPart.glue_between`).
-/

namespace EntitySql

set_option autoImplicit false

open Outcome

variable {d : Dialect} {s : Scope}

/-- What a condition is written with. -/
inductive ConditionPart where
  | opening
  | closing
  | glue (c : Connective)
  | test (p : Predicate)

namespace ConditionPart

/-- An operand starts with the part. -/
def startsOperand : ConditionPart → Bool
  | opening | test _ => true
  | closing | glue _ => false

/-- An operand ends with the part. -/
def endsOperand : ConditionPart → Bool
  | closing | test _ => true
  | opening | glue _ => false

/-- The part as it is written. -/
def render (d : Dialect) (s : Scope) : ConditionPart → Except Error Fragment
  | opening => .ok [.text "("]
  | closing => .ok [.text ")"]
  | glue c => .ok [.text c.spaced]
  | test p => p.render d s

/-- The parts one after the other. -/
def renderAll (d : Dialect) (s : Scope) : List ConditionPart → Except Error Fragment
  | [] => .ok []
  | part :: parts => do
    let first ← part.render d s
    let rest ← renderAll d s parts
    return first ++ rest

/-- Operands and connectives alternate; `ended` says whether an operand has just ended. -/
def alternates (ended : Bool) : List ConditionPart → Bool
  | [] => ended
  | part :: parts => (ended != part.startsOperand) && alternates part.endsOperand parts

theorem renderAll_append {xs ys : List ConditionPart} {f g : Fragment}
    (first : renderAll d s xs = .ok f) (second : renderAll d s ys = .ok g) :
    renderAll d s (xs ++ ys) = .ok (f ++ g) := by
  induction xs generalizing f with
  | nil =>
    cases first
    exact second
  | cons part xs ih =>
    simp only [renderAll, bind_eq_ok, pure_eq_ok] at first
    obtain ⟨head, one, rest, others, rfl⟩ := first
    simp only [List.cons_append, renderAll, bind_eq_ok, pure_eq_ok]
    exact ⟨head, one, rest ++ g, ih others, (List.append_assoc _ _ _).symm⟩

theorem renderAll_parens {xs : List ConditionPart} {f : Fragment}
    (inside : renderAll d s xs = .ok f) (something : f.writesNothing = false) :
    renderAll d s (.opening :: (xs ++ [.closing])) = .ok f.parenthesized := by
  have closed : renderAll d s (xs ++ [.closing]) = .ok (f ++ [.text ")"]) :=
    renderAll_append inside rfl
  rw [Fragment.parenthesized, something, if_neg Bool.false_ne_true]
  simp only [renderAll, bind_eq_ok, pure_eq_ok]
  exact ⟨[.text "("], rfl, _, closed, rfl⟩

/-- An operand has ended before a connective, and one has still to start behind it. -/
theorem alternates_glue {xs ys : List ConditionPart} {c : Connective} {ended : Bool}
    (h : alternates ended (xs ++ .glue c :: ys) = true) :
    (xs.getLast?.map endsOperand).getD ended = true ∧ alternates false ys = true := by
  induction xs generalizing ended with
  | nil =>
    rw [List.nil_append, alternates, Bool.and_eq_true] at h
    refine ⟨?_, h.2⟩
    cases ended with
    | true => rfl
    | false => exact absurd h.1 Bool.false_ne_true
  | cons a xs ih =>
    rw [List.cons_append, alternates, Bool.and_eq_true] at h
    obtain ⟨last, rest⟩ := ih h.2
    refine ⟨?_, rest⟩
    cases xs with
    | nil => exact last
    | cons b xs =>
      rw [List.getLast?_cons_cons]
      rw [List.getLast?_eq_some_getLast (List.cons_ne_nil b xs)] at last ⊢
      exact last

/-- **A connective stands between two operands,** where operands and connectives alternate. -/
theorem glue_between {xs ys : List ConditionPart} {c : Connective}
    (h : alternates false (xs ++ .glue c :: ys) = true) :
    (∃ a, xs.getLast? = some a ∧ a.endsOperand = true) ∧
      ∃ b, ys.head? = some b ∧ b.startsOperand = true := by
  obtain ⟨last, rest⟩ := alternates_glue h
  refine ⟨?_, ?_⟩
  · cases final : xs.getLast? with
    | none =>
      rw [final] at last
      cases last
    | some a =>
      rw [final] at last
      exact ⟨a, rfl, last⟩
  · cases ys with
    | nil => cases rest
    | cons b ys =>
      rw [alternates, Bool.and_eq_true] at rest
      refine ⟨b, rfl, ?_⟩
      cases starts : b.startsOperand with
      | true => rfl
      | false =>
        rw [starts] at rest
        exact absurd rest.1 Bool.false_ne_true

end ConditionPart

/-! ## The parts of a condition -/

/-- Predicates with a connective between them. -/
def Predicate.parts (c : Connective) : Bool → List Predicate → List ConditionPart
  | _, [] => []
  | started, p :: ps => (if started then [.glue c] else []) ++ .test p :: Predicate.parts c true ps

mutual
/-- The parts of a node. -/
def Node.parts : Node → List ConditionPart
  | .predicate _ p => [.test p]
  | .nested _ nodes => .opening :: (Node.allParts false nodes ++ [.closing])
  | .group c members => .opening :: (Predicate.parts c.inner false members ++ [.closing])
  termination_by structural node => node

/-- The parts of nodes, each with its connective before it unless it is the first one. -/
def Node.allParts : Bool → List Node → List ConditionPart
  | _, [] => []
  | started, node :: nodes =>
    (if started then [.glue node.composition.outer] else []) ++
      (node.parts ++ Node.allParts true nodes)
  termination_by structural _ nodes => nodes
end

/-- The parts of a condition. -/
def Condition.parts (c : Condition) : List ConditionPart := Node.allParts false c

/-! ## The parts are what is written -/

namespace ConditionPart

theorem renderAll_test {p : Predicate} {f : Fragment} (h : p.render d s = .ok f) :
    renderAll d s [.test p] = .ok f := by
  simp only [renderAll, render, bind_eq_ok, pure_eq_ok]
  exact ⟨f, h, [], rfl, List.append_nil f⟩

/-- A member with its connective and what follows it. -/
theorem renderAll_member (c : Connective) (started : Bool) {xs ys : List ConditionPart}
    {f g : Fragment} (member : renderAll d s xs = .ok f) (others : renderAll d s ys = .ok g) :
    renderAll d s ((if started then [.glue c] else []) ++ (xs ++ ys)) =
      .ok ((if started then .text c.spaced :: f else f) ++ g) := by
  have both := renderAll_append member others
  cases started with
  | false => exact both
  | true =>
    have glued : renderAll d s [.glue c] = .ok [.text c.spaced] := rfl
    have whole := renderAll_append glued both
    rw [if_pos rfl, if_pos rfl]
    exact whole

end ConditionPart

theorem Predicate.renderAll_parts (c : Connective) {ps : List Predicate} {fs : List Fragment}
    (h : Predicate.renderAll d s ps = .ok fs) (kept : ∀ p ∈ ps, p.isDropped = false)
    (started : Bool) : ConditionPart.renderAll d s (Predicate.parts c started ps) =
      .ok (Fragment.chainedAfter started (fs.map fun f => (c, f))) := by
  induction ps generalizing fs started with
  | nil =>
    rw [renderAll_nil_eq_ok_iff.1 h]
    rfl
  | cons p ps ih =>
    obtain ⟨first, rest, one, others, rfl⟩ := renderAll_cons_eq_ok_iff.1 h
    have something : first.writesNothing = false := by
      rw [writesNothing_render one, kept p List.mem_cons_self]
    have tail := ih others (fun q member => kept q (List.mem_cons_of_mem _ member)) true
    rw [List.map_cons, Fragment.chainedAfter, something, if_neg Bool.false_ne_true]
    exact ConditionPart.renderAll_member c started (ConditionPart.renderAll_test one) tail

mutual
/-- A full node is written as its parts. -/
theorem Node.render_parts : ∀ (node : Node) {f : Fragment}, node.render d s = .ok f →
    node.isFull = true → ConditionPart.renderAll d s node.parts = .ok f
  | .predicate _ p, f, h, _ => by
    rw [Node.render_predicate] at h
    rw [Node.parts]
    exact ConditionPart.renderAll_test h
  | .nested _ nodes, f, h, full => by
    obtain ⟨members, written, rfl⟩ := Node.render_nested_eq_ok_iff.1 h
    rw [Node.isFull, Bool.and_eq_true, Bool.not_eq_true', List.isEmpty_eq_false_iff] at full
    rw [Node.parts]
    exact ConditionPart.renderAll_parens (Node.renderAll_parts nodes written full.2 false)
      (Fragment.writesNothing_chained (Node.renderAll_ne_nil written full.1)
        (Node.renderAll_writes nodes written full.2))
  | .group c members, f, h, full => by
    obtain ⟨fs, written, rfl⟩ := Node.render_group_eq_ok_iff.1 h
    rw [Node.isFull, Bool.and_eq_true, Bool.not_eq_true', List.isEmpty_eq_false_iff,
      List.all_eq_true] at full
    have kept : ∀ p ∈ members, p.isDropped = false := fun p member => by
      simpa using full.2 p member
    have write := Predicate.renderAll_writes written kept
    rw [Node.parts, Fragment.separated_eq_chained write]
    exact ConditionPart.renderAll_parens (Predicate.renderAll_parts c.inner written kept false)
      (Fragment.writesNothing_joined (Predicate.renderAll_ne_nil written full.1) write)

/-- Full nodes are written as their parts. -/
theorem Node.renderAll_parts : ∀ (nodes : List Node) {fs : List (Connective × Fragment)},
    Node.renderAll d s nodes = .ok fs → Node.allFull nodes = true → ∀ started,
      ConditionPart.renderAll d s (Node.allParts started nodes) =
        .ok (Fragment.chainedAfter started fs)
  | [], fs, h, _, started => by
    rw [Node.renderAll_nil_eq_ok_iff.1 h]
    rfl
  | node :: nodes, fs, h, full, started => by
    obtain ⟨first, rest, one, others, rfl⟩ := Node.renderAll_cons_eq_ok_iff.1 h
    rw [Node.allFull, Bool.and_eq_true] at full
    rw [Fragment.chainedAfter, Node.render_writes node one full.1, if_neg Bool.false_ne_true,
      Node.allParts]
    exact ConditionPart.renderAll_member _ started (Node.render_parts node one full.1)
      (Node.renderAll_parts nodes others full.2 true)
end

/-- **A full condition is written as its parts.** -/
theorem Condition.renderAll_parts {c : Condition} {f : Fragment}
    (h : Condition.render d s c = .ok f) (full : Node.allFull c = true) :
    ConditionPart.renderAll d s (Condition.parts c) = .ok f := by
  obtain ⟨nodes, written, rfl⟩ := Condition.render_eq_ok_iff.1 h
  exact Node.renderAll_parts c written full false

/-! ## The parts alternate -/

open ConditionPart

theorem Predicate.alternates_parts (c : Connective) (ps : List Predicate)
    (rest : List ConditionPart) :
    alternates true (Predicate.parts c true ps ++ rest) = alternates true rest := by
  induction ps with
  | nil => rfl
  | cons p ps ih => exact ih

mutual
/-- Where an operand is due, a full node is one. -/
theorem Node.alternates_parts : ∀ (node : Node), node.isFull = true → ∀ rest,
    alternates false (node.parts ++ rest) = alternates true rest
  | .predicate _ p, _, rest => by
    rw [Node.parts]
    rfl
  | .nested _ [], full, _ => by
    cases full
  | .nested _ (node :: others), full, rest => by
    rw [Node.isFull, Node.allFull, Bool.and_eq_true, Bool.and_eq_true] at full
    have first := Node.alternates_parts node full.2.1
      (Node.allParts true others ++ .closing :: rest)
    rw [Node.alternates_allParts others full.2.2] at first
    rw [Node.parts, Node.allParts, if_neg Bool.false_ne_true, List.nil_append, List.cons_append,
      List.append_assoc, List.append_assoc]
    exact first
  | .group c members, full, rest => by
    rw [Node.isFull, Bool.and_eq_true, Bool.not_eq_true', List.isEmpty_eq_false_iff] at full
    obtain ⟨p, ps, rfl⟩ := List.exists_cons_of_ne_nil full.1
    rw [Node.parts, List.cons_append, List.append_assoc]
    exact Predicate.alternates_parts c.inner ps (.closing :: rest)

/-- Nodes after an operand are operands with connectives before them. -/
theorem Node.alternates_allParts : ∀ (nodes : List Node), Node.allFull nodes = true → ∀ rest,
    alternates true (Node.allParts true nodes ++ rest) = alternates true rest
  | [], _, rest => rfl
  | node :: nodes, full, rest => by
    rw [Node.allFull, Bool.and_eq_true] at full
    rw [Node.allParts, if_pos rfl, List.append_assoc, List.append_assoc]
    have own := Node.alternates_parts node full.1 (Node.allParts true nodes ++ rest)
    rw [Node.alternates_allParts nodes full.2 rest] at own
    exact own
end

/-- **Operands and connectives alternate in a full condition.** -/
theorem Condition.alternates_parts {c : Condition} (full : Node.allFull c = true)
    (notEmpty : c ≠ []) : alternates false (Condition.parts c) = true := by
  obtain ⟨node, nodes, rfl⟩ := List.exists_cons_of_ne_nil notEmpty
  rw [Node.allFull, Bool.and_eq_true] at full
  have after := Node.alternates_allParts nodes full.2 []
  rw [List.append_nil] at after
  rw [Condition.parts, Node.allParts, if_neg Bool.false_ne_true, List.nil_append,
    Node.alternates_parts node full.1, after]
  rfl

end EntitySql
