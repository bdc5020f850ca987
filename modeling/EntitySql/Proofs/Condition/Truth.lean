import EntitySql.Proofs.Condition.ReadBack

/-!
# The truth of conditions

The tests of a condition are numbered in the order of its text, and `v k` is the truth of the
`k`-th one. From this a text has a truth, by the runs that a reader finds in it (`textHolds`), and a
model has one, node by node (`Node.holds`). They agree, and they still do where the text stands
between parentheses with one more condition after it (`Condition.read_render`).
-/

namespace EntitySql

set_option autoImplicit false

/-! ## The truth of a text -/

mutual
/-- The number of tests in a tree. -/
def TestTree.size : TestTree → Nat
  | .test _ => 1
  | .group runs => TestTree.runsSize runs
  termination_by structural t => t

/-- The number of tests in runs. -/
def TestTree.runsSize : List (List TestTree) → Nat
  | [] => 0
  | run :: runs => TestTree.runSize run + TestTree.runsSize runs
  termination_by structural runs => runs

/-- The number of tests in a run. -/
def TestTree.runSize : List TestTree → Nat
  | [] => 0
  | t :: ts => t.size + TestTree.runSize ts
  termination_by structural ts => ts
end

mutual
/-- The truth of a tree with `k` tests before it. -/
def TestTree.holds (v : Nat → Bool) : Nat → TestTree → Bool
  | k, .test _ => v k
  | k, .group runs => TestTree.runsHold v k runs
  termination_by structural _ t => t

/-- One of the runs holds. -/
def TestTree.runsHold (v : Nat → Bool) : Nat → List (List TestTree) → Bool
  | _, [] => false
  | k, run :: runs =>
    TestTree.runHolds v k run || TestTree.runsHold v (k + TestTree.runSize run) runs
  termination_by structural _ runs => runs

/-- Every member of the run holds. -/
def TestTree.runHolds (v : Nat → Bool) : Nat → List TestTree → Bool
  | _, [] => true
  | k, t :: ts => t.holds v k && TestTree.runHolds v (k + t.size) ts
  termination_by structural _ ts => ts
end

/-- The truth of the condition a text is, if it is one; without tests it holds. -/
def textHolds (d : Dialect) (v : Nat → Bool) (cs : List Char) : Option Bool :=
  (readCondition d cs).map fun runs => runs.isEmpty || TestTree.runsHold v 0 runs

/-! ## The truth of a model -/

/-- Truths joined by one connective. -/
def Connective.holds : Connective → List Bool → Bool
  | and, bs => bs.all id
  | or, bs => bs.any id

/-- Truths that follow a run of truths. -/
def joinedAfter (run : Bool) : List (Connective × Bool) → Bool
  | [] => run
  | (.and, b) :: rest => joinedAfter (run && b) rest
  | (.or, b) :: rest => run || joinedAfter b rest

/-- Truths with the connectives before them, where `and` binds tighter than `or`; the connective
of the first one does not count. -/
def joined : List (Connective × Bool) → Bool
  | [] => true
  | (_, b) :: rest => joinedAfter b rest

namespace Predicate

/-- The number of tests a predicate is. -/
def tests (d : Dialect) (p : Predicate) : Nat :=
  match d, p with
  | .oracle, _ => 1
  | _, .isEmpty _ _ => 2
  | _, _ => 1

/-- The truth of a predicate with `k` tests before it. A value is empty when it is the empty text
or null. -/
def holds (d : Dialect) (v : Nat → Bool) (k : Nat) (p : Predicate) : Bool :=
  match d, p with
  | .oracle, _ => v k
  | _, .isEmpty _ negated => if negated then v k && v (k + 1) else v k || v (k + 1)
  | _, _ => v k

/-- The number of tests that predicates are. -/
def allTests (d : Dialect) : List Predicate → Nat
  | [] => 0
  | p :: ps => p.tests d + allTests d ps

/-- The truths of predicates one by one. -/
def truths (d : Dialect) (v : Nat → Bool) : Nat → List Predicate → List Bool
  | _, [] => []
  | k, p :: ps => p.holds d v k :: truths d v (k + p.tests d) ps

end Predicate

mutual
/-- The number of tests in a node. -/
def Node.tests (d : Dialect) : Node → Nat
  | .predicate _ p => p.tests d
  | .nested _ nodes => Node.allTests d nodes
  | .group _ members => Predicate.allTests d members
  termination_by structural node => node

/-- The number of tests in nodes. -/
def Node.allTests (d : Dialect) : List Node → Nat
  | [] => 0
  | node :: nodes => node.tests d + Node.allTests d nodes
  termination_by structural nodes => nodes
end

mutual
/-- The truth of a node with `k` tests before it. -/
def Node.holds (d : Dialect) (v : Nat → Bool) : Nat → Node → Bool
  | k, .predicate _ p => p.holds d v k
  | k, .nested _ nodes => joined (Node.truths d v k nodes)
  | k, .group c members => c.inner.holds (Predicate.truths d v k members)
  termination_by structural _ node => node

/-- The truths of nodes with the connectives before them. -/
def Node.truths (d : Dialect) (v : Nat → Bool) : Nat → List Node → List (Connective × Bool)
  | _, [] => []
  | k, node :: nodes =>
    (node.composition.outer, node.holds d v k) :: Node.truths d v (k + node.tests d) nodes
  termination_by structural _ nodes => nodes
end

/-- The truth of a condition. -/
def Condition.holds (d : Dialect) (v : Nat → Bool) (c : Condition) : Bool :=
  joined (Node.truths d v 0 c)

/-! ## The truth of assembled trees -/

namespace TestTree

variable {v : Nat → Bool}

/-- The number of tests in trees with their connectives. -/
def chainSize : List (Connective × TestTree) → Nat
  | [] => 0
  | (_, t) :: rest => t.size + chainSize rest

/-- The truths of trees with their connectives. -/
def chainTruths (v : Nat → Bool) : Nat → List (Connective × TestTree) → List (Connective × Bool)
  | _, [] => []
  | k, (c, t) :: rest => (c, t.holds v k) :: chainTruths v (k + t.size) rest

theorem runSize_append (a b : List TestTree) : runSize (a ++ b) = runSize a + runSize b := by
  induction a with
  | nil => simp [runSize]
  | cons t a ih =>
    rw [List.cons_append, runSize, runSize, ih]
    omega

theorem runHolds_append (a b : List TestTree) (k : Nat) :
    runHolds v k (a ++ b) = (runHolds v k a && runHolds v (k + runSize a) b) := by
  induction a generalizing k with
  | nil => simp [runHolds, runSize]
  | cons t a ih =>
    have shift : k + t.size + runSize a = k + runSize (t :: a) := by
      rw [runSize]
      omega
    rw [List.cons_append, runHolds, runHolds, ih, shift, Bool.and_assoc]

theorem runsSize_assembleAfter (trees : List (Connective × TestTree)) (run : List TestTree) :
    runsSize (assembleAfter run trees) = runSize run + chainSize trees := by
  induction trees generalizing run with
  | nil => simp [assembleAfter, runsSize, chainSize]
  | cons tree rest ih =>
    obtain ⟨c, t⟩ := tree
    cases c with
    | and =>
      rw [assembleAfter, ih, runSize_append, chainSize, runSize, runSize]
      omega
    | or =>
      rw [assembleAfter, runsSize, ih, chainSize, runSize, runSize]
      omega

/-- **Assembling keeps the truth:** cutting at `or` first and joining the runs by `and` is what the
connectives mean. -/
theorem runsHold_assembleAfter (trees : List (Connective × TestTree)) (run : List TestTree)
    (k : Nat) : runsHold v k (assembleAfter run trees) =
      joinedAfter (runHolds v k run) (chainTruths v (k + runSize run) trees) := by
  induction trees generalizing run k with
  | nil => simp [assembleAfter, runsHold, chainTruths, joinedAfter]
  | cons tree rest ih =>
    obtain ⟨c, t⟩ := tree
    cases c with
    | and =>
      have shift : k + runSize (run ++ [t]) = k + runSize run + t.size := by
        rw [runSize_append, runSize, runSize]
        omega
      rw [assembleAfter, ih, chainTruths, joinedAfter, runHolds_append, shift]
      simp [runHolds]
    | or =>
      rw [assembleAfter, runsHold, ih, chainTruths, joinedAfter]
      simp [runHolds, runSize]

theorem runsSize_singletons (ts : List TestTree) :
    runsSize (ts.map fun t => [t]) = runSize ts := by
  induction ts with
  | nil => rfl
  | cons t ts ih => rw [List.map_cons, runsSize, runSize, ih, runSize, runSize, Nat.add_zero]

theorem runsSize_assemble (trees : List (Connective × TestTree)) :
    runsSize (assemble trees) = chainSize trees := by
  cases trees with
  | nil => rfl
  | cons tree rest =>
    obtain ⟨c, t⟩ := tree
    rw [assemble, runsSize_assembleAfter, chainSize, runSize, runSize, Nat.add_zero]

theorem runsHold_assemble {trees : List (Connective × TestTree)} (notEmpty : trees ≠ [])
    (k : Nat) : runsHold v k (assemble trees) = joined (chainTruths v k trees) := by
  cases trees with
  | nil => exact absurd rfl notEmpty
  | cons tree rest =>
    obtain ⟨c, t⟩ := tree
    rw [assemble, runsHold_assembleAfter, chainTruths, joined]
    simp [runHolds, runSize]

end TestTree

/-! ## Text and model agree -/

variable {d : Dialect} {s : Scope} {v : Nat → Bool}

theorem Predicate.size_tree (n : Nat) (p : Predicate) : (p.tree d s n).size = p.tests d := by
  cases d with
  | oracle => rfl
  | generic | mysql | postgres | h2 | sqlServer =>
    cases p with
    | isEmpty c negated => cases negated <;> rfl
    | _ => rfl

theorem Predicate.holds_tree (n k : Nat) (p : Predicate) :
    (p.tree d s n).holds v k = p.holds d v k := by
  have pair : ∀ {c : Column} {negated : Bool}, TestTree.holds v k (.group (assemble
      ((emptyTests (c.expression d s) negated).map fun test => (test.1, .test (trim test.2))))) =
        if negated then v k && v (k + 1) else v k || v (k + 1) := by
    intro c negated
    cases negated <;>
      simp [emptyTests, assemble, assembleAfter, TestTree.holds, TestTree.runsHold,
        TestTree.runHolds, TestTree.runSize, TestTree.size]
  cases d with
  | oracle => rfl
  | generic | mysql | postgres | h2 | sqlServer =>
    cases p with
    | isEmpty c negated => exact pair
    | _ => rfl

/-- The members of a group have their tests and truths in their trees. -/
theorem Predicate.trees_agree (ps : List Predicate) (n : Nat) :
    TestTree.runSize (Predicate.trees d s n ps) = Predicate.allTests d ps ∧
      (∀ k, TestTree.runHolds v k (Predicate.trees d s n ps) =
        (Predicate.truths d v k ps).all id) ∧
      ∀ k, TestTree.runsHold v k ((Predicate.trees d s n ps).map fun t => [t]) =
        (Predicate.truths d v k ps).any id := by
  induction ps generalizing n with
  | nil => exact ⟨rfl, fun _ => rfl, fun _ => rfl⟩
  | cons p ps ih =>
    obtain ⟨size, every, one⟩ := ih (n + writtenCount (p.render d s))
    refine ⟨?_, ?_, ?_⟩
    · rw [Predicate.trees, TestTree.runSize, Predicate.allTests, size, Predicate.size_tree]
    · intro k
      rw [Predicate.trees, TestTree.runHolds, every, Predicate.truths, List.all_cons,
        Predicate.size_tree, Predicate.holds_tree]
      rfl
    · intro k
      rw [Predicate.trees, List.map_cons, TestTree.runsHold, one, Predicate.truths, List.any_cons]
      simp [TestTree.runHolds, TestTree.runSize, Predicate.size_tree, Predicate.holds_tree]

/-- A group has the tests and the truth of its members. -/
theorem Connective.join_agree (c : Connective) (ps : List Predicate) (n : Nat) :
    TestTree.runsSize (c.join (Predicate.trees d s n ps)) = Predicate.allTests d ps ∧
      ∀ k, TestTree.runsHold v k (c.join (Predicate.trees d s n ps)) =
        c.holds (Predicate.truths d v k ps) := by
  obtain ⟨size, every, one⟩ := Predicate.trees_agree (s := s) (v := v) ps n
  cases c with
  | and =>
    refine ⟨?_, ?_⟩
    · rw [Connective.join, TestTree.runsSize, TestTree.runsSize, size, Nat.add_zero]
    · intro k
      rw [Connective.join, TestTree.runsHold, TestTree.runsHold, every, Bool.or_false]
      rfl
  | or =>
    refine ⟨?_, one⟩
    rw [Connective.join, TestTree.runsSize_singletons, size]

mutual
/-- **The tree of a node has the truth of the node.** -/
theorem Node.tree_agree : ∀ (node : Node), node.isFull = true → ∀ n,
    (node.tree d s n).size = node.tests d ∧
      ∀ k, (node.tree d s n).holds v k = node.holds d v k
  | .predicate _ p, _, n => by
    rw [Node.tree, Node.tests, Predicate.size_tree]
    refine ⟨rfl, ?_⟩
    intro k
    rw [Node.holds, Predicate.holds_tree]
  | .nested _ nodes, full, n => by
    rw [Node.isFull, Bool.and_eq_true, Bool.not_eq_true', List.isEmpty_eq_false_iff] at full
    obtain ⟨size, truths⟩ := Node.trees_agree nodes full.2 n
    obtain ⟨node, rest, rfl⟩ := List.exists_cons_of_ne_nil full.1
    have notEmpty : Node.trees d s n (node :: rest) ≠ [] := List.cons_ne_nil _ _
    refine ⟨?_, ?_⟩
    · rw [Node.tree, TestTree.size, TestTree.runsSize_assemble, size, Node.tests]
    · intro k
      rw [Node.tree, TestTree.holds, TestTree.runsHold_assemble notEmpty, truths, Node.holds]
  | .group c members, _, n => by
    obtain ⟨size, truth⟩ := Connective.join_agree (d := d) (s := s) (v := v) c.inner members n
    refine ⟨?_, ?_⟩
    · rw [Node.tree, TestTree.size, size, Node.tests]
    · intro k
      rw [Node.tree, TestTree.holds, truth, Node.holds]

/-- The trees of nodes have the truths of the nodes. -/
theorem Node.trees_agree : ∀ (nodes : List Node), Node.allFull nodes = true → ∀ n,
    TestTree.chainSize (Node.trees d s n nodes) = Node.allTests d nodes ∧
      ∀ k, TestTree.chainTruths v k (Node.trees d s n nodes) = Node.truths d v k nodes
  | [], _, _ => ⟨rfl, fun _ => rfl⟩
  | node :: nodes, full, n => by
    rw [Node.allFull, Bool.and_eq_true] at full
    obtain ⟨size, truth⟩ := Node.tree_agree node full.1 n
    obtain ⟨sizes, truths⟩ := Node.trees_agree nodes full.2 (n + writtenCount (node.render d s))
    refine ⟨?_, ?_⟩
    · rw [Node.trees, TestTree.chainSize, size, sizes, Node.allTests]
    · intro k
      rw [Node.trees, TestTree.chainTruths, size, truth, truths, Node.truths]
end

/-! ## The text of a condition -/

/-- A condition bounded by one more test: its runs are a group before that test. -/
def boundedRuns (bound : List Char) (runs : List (List TestTree)) : List (List TestTree) :=
  if runs.isEmpty then [[.test (trim bound)]] else [[.group runs, .test (trim bound)]]

theorem isEmpty_assembleAfter (run : List TestTree) (rest : List (Connective × TestTree)) :
    (assembleAfter run rest).isEmpty = false := by
  induction rest generalizing run with
  | nil => rfl
  | cons tree rest ih =>
    obtain ⟨c, t⟩ := tree
    cases c with
    | and => exact ih _
    | or => rfl

theorem isEmpty_assemble (trees : List (Connective × TestTree)) :
    (assemble trees).isEmpty = trees.isEmpty := by
  cases trees with
  | nil => rfl
  | cons tree rest => exact isEmpty_assembleAfter _ rest

/-- Runs that a reader finds have the truth of the condition. -/
theorem Condition.runs_agree {c : Condition} (full : Node.allFull c = true) (n : Nat) :
    ((Condition.runs d s n c).isEmpty || TestTree.runsHold v 0 (Condition.runs d s n c)) =
        Condition.holds d v c ∧
      TestTree.runsSize (Condition.runs d s n c) = Node.allTests d c := by
  obtain ⟨size, truths⟩ := Node.trees_agree (s := s) (v := v) c full n
  refine ⟨?_, by rw [Condition.runs, TestTree.runsSize_assemble, size]⟩
  rw [Condition.runs, isEmpty_assemble]
  by_cases empty : c = []
  · subst empty
    rfl
  · obtain ⟨node, rest, rfl⟩ := List.exists_cons_of_ne_nil empty
    have notEmpty : Node.trees d s n (node :: rest) ≠ [] := List.cons_ne_nil _ _
    rw [List.isEmpty_eq_false_iff.2 notEmpty, Bool.false_or, TestTree.runsHold_assemble notEmpty,
      truths]
    rfl

/-- The bound on the row number is a test. -/
theorem solid_bound (m : Nat) : Solid d ("ROWNUM <= " ++ toString m).toList := by
  have words : Solid d "ROWNUM <=".toList := by cases d <;> decide +kernel
  have digits : KeywordFree d (toString m).toList :=
    keywordFree_number ((consists_toString_nat m).mono fun _ => isNumberChar_of_isDigit)
  have whole := words.blank_before digits
  simpa using whole

/-- A condition before one more test reads as the group of its runs and that test. -/
theorem Condition.readCondition_whereClause {c : Condition} {f : Fragment} {bound : String}
    (h : Condition.render d s c = .ok f) (full : Node.allFull c = true)
    (legible : Node.AllLegible d c) (scope : ∀ w ∈ s.wordings, w.KeywordFree d)
    (test : Solid d bound.toList) (n : Nat) :
    ∃ t, (whereClause f (some bound)).sqlFrom d n = " WHERE " ++ t ∧
      readCondition d t.toList = some (boundedRuns bound.toList (Condition.runs d s n c)) := by
  obtain ⟨nodes, written, rfl⟩ := Condition.render_eq_ok_iff.1 h
  by_cases empty : c = []
  · subst empty
    rw [Node.renderAll_nil_eq_ok_iff.1 written]
    refine ⟨bound, by simp [whereClause, Fragment.chained, Fragment.chainedAfter,
      Fragment.writesNothing], ?_⟩
    have alone : ReadsEach d [(.and, bound.toList)] [(.and, .test (trim bound.toList))] :=
      .cons ⟨rfl, test.reads⟩ .nil
    have found := readCondition_chain alone
    have runs : boundedRuns bound.toList (Condition.runs d s n []) =
        assemble [(.and, .test (trim bound.toList))] := rfl
    rw [runs, ← found]
    simp [chainText, chainAfter]
  · have write := Node.renderAll_writes c written full
    have something := Fragment.writesNothing_chained (Node.renderAll_ne_nil written empty) write
    have inner := Fragment.reads_parenthesized (Node.renderAll_ne_nil written empty) write
      (Node.readsAll c written full legible scope n)
    rw [Fragment.toList_parenthesized something] at inner
    have pair : ReadsEach d
        [(.and, '(' :: (((Fragment.chained nodes).sqlFrom d n).toList ++ [')'])),
          (.and, bound.toList)]
        [(.and, .group (Condition.runs d s n c)), (.and, .test (trim bound.toList))] :=
      .cons ⟨rfl, inner⟩ (.cons ⟨rfl, test.reads⟩ .nil)
    have found := readCondition_chain pair
    have notEmpty : (Condition.runs d s n c).isEmpty = false := by
      obtain ⟨node, rest, rfl⟩ := List.exists_cons_of_ne_nil empty
      rw [Condition.runs, isEmpty_assemble]
      rfl
    refine ⟨"(" ++ (Fragment.chained nodes).sqlFrom d n ++ ") AND " ++ bound, ?_, ?_⟩
    · simp only [whereClause, something, Bool.false_eq_true, if_false, Fragment.sqlFrom_text,
        Fragment.sqlFrom_append, Fragment.sqlFrom_nil]
      apply String.toList_injective
      simp
    · rw [boundedRuns, notEmpty, if_neg Bool.false_ne_true]
      simpa [chainText, chainAfter, Connective.spaced, assemble, assembleAfter] using found

/-- **The text of a condition reads back as its model and has its truth,** also where it stands
before the bound of a page. -/
theorem Condition.read_render {c : Condition} {f : Fragment} (h : Condition.render d s c = .ok f)
    (full : Node.allFull c = true) (legible : Node.AllLegible d c)
    (scope : ∀ w ∈ s.wordings, w.KeywordFree d) (n : Nat) :
    readCondition d (f.sqlFrom d n).toList = some (Condition.runs d s n c) ∧
      (∀ v, textHolds d v (f.sqlFrom d n).toList = some (Condition.holds d v c)) ∧
      ∀ m : Nat, ∃ t, (whereClause f (some ("ROWNUM <= " ++ toString m))).sqlFrom d n =
          " WHERE " ++ t ∧
        readCondition d t.toList =
          some (boundedRuns ("ROWNUM <= " ++ toString m).toList (Condition.runs d s n c)) ∧
        ∀ v, textHolds d v t.toList =
          some (Condition.holds d v c && v (Node.allTests d c)) := by
  have text := Condition.readCondition_eq h full legible scope n
  refine ⟨text, ?_, ?_⟩
  · intro v
    rw [textHolds, text, Option.map_some, (Condition.runs_agree full n).1]
  · intro m
    obtain ⟨t, written, found⟩ :=
      Condition.readCondition_whereClause h full legible scope (solid_bound m) n
    refine ⟨t, written, found, ?_⟩
    intro v
    obtain ⟨truth, size⟩ := Condition.runs_agree (d := d) (s := s) (v := v) full n
    rw [textHolds, found, Option.map_some, ← truth, ← size]
    unfold boundedRuns
    split
    · rename_i empty
      rw [empty, List.isEmpty_iff.1 empty]
      simp [TestTree.runsHold, TestTree.runHolds, TestTree.holds, TestTree.runsSize]
    · rename_i notEmpty
      rw [Bool.not_eq_true] at notEmpty
      rw [notEmpty]
      simp [TestTree.runsHold, TestTree.runHolds, TestTree.holds, TestTree.size]

/-- A range and a test for an empty text in a group, and two tests of one column in a nested
condition. -/
def mixedSample : Condition :=
  let one : Value := .int .int32 (some (.clamp .int32 1))
  [.predicate .and (.compare (.ofName "A") .equal (.value one)),
    .group .orAnd [.between (.ofName "B") one one, .isEmpty (.ofName "C") false],
    .nested .and [.predicate .and (.like (.ofName "D") .start true (.varchar (some "x"))),
      .predicate .or (.isNull (.ofName "D") false)]]

theorem Condition.read_render_mixedSample :
    ∃ f, Condition.render .postgres soleTable mixedSample = .ok f ∧
      f.sql .postgres = "A = $1 OR (B BETWEEN $2 AND $3 AND (C = '' OR C IS NULL)) AND " ++
        "(D NOT LIKE $4 OR D IS NULL)" ∧
      readCondition .postgres (f.sql .postgres).toList =
        some (Condition.runs .postgres soleTable 0 mixedSample) ∧
      ∀ v, textHolds .postgres v (f.sql .postgres).toList =
        some (v 0 || v 1 && (v 2 || v 3) && (v 4 || v 5)) := by
  have legible : Node.AllLegible .postgres mixedSample := by
    refine ⟨?_, ?_, ⟨?_, ?_, trivial⟩, trivial⟩ <;>
    · simp only [Node.Legible]
      decide +kernel
  have read := Condition.read_render (d := .postgres) (s := soleTable) (c := mixedSample)
    (Eq.refl _) (by decide) legible (by decide +kernel) 0
  refine ⟨_, rfl, by decide +kernel, read.1, ?_⟩
  intro v
  have truth : Condition.holds .postgres v mixedSample =
      (v 0 || v 1 && (v 2 || v 3) && (v 4 || v 5)) := by
    simp [Condition.holds, mixedSample, Node.truths, Node.holds, Node.tests,
      Predicate.holds, Predicate.tests, Predicate.allTests, Predicate.truths, joined, joinedAfter,
      Composition.outer, Composition.inner, Connective.holds, Node.composition]
  rw [← truth]
  exact read.2.1 v

/-- A test for an empty text. -/
def emptyTextSample : Condition := [.predicate .and (.isEmpty (.ofName "A") false)]

/-- A comparison with the empty text and a test for null, in a group. -/
def spelledOutSample : Condition :=
  [.group .andOr [.compare (.ofName "A") .equal (.column (.ofLiteral (.varchar (some "")))),
    .isNull (.ofName "A") false]]

/-- One test on a column. -/
def testSample (c : Column) : Condition :=
  [.predicate .and (.compare c .equal (.value (.int .int32 (some (.clamp .int32 1)))))]

/-- A single test may read as two. One for an empty text is written as a pair of tests, just like a
group of that pair. Functions and aliases are written as they are, so a connective in them takes a
test apart: a reader finds two runs, and the second may hold alone. -/
theorem Condition.read_render_splitTests :
    (∃ f g, Condition.render .generic soleTable emptyTextSample = .ok f ∧
      Condition.render .generic soleTable spelledOutSample = .ok g ∧
      Node.allFull emptyTextSample = true ∧ Node.allFull spelledOutSample = true ∧
      f.sql .generic = "(A = '' OR A IS NULL)" ∧ g.sql .generic = f.sql .generic ∧
      (readCondition .generic (f.sql .generic).toList).map TestTree.runsSize = some 2) ∧
    ∀ c ∈ [{ Column.ofName "A" with function := some "X OR Y" },
        { Column.ofName "A" with qualifier := "X OR Y" }],
      ∃ f, Condition.render .generic soleTable (testSample c) = .ok f ∧
        Node.allFull (testSample c) = true ∧
        f.sql .generic = (if c.qualifier = "" then "X OR Y(A) = ?" else "X OR Y.A = ?") ∧
        (readCondition .generic (f.sql .generic).toList).map List.length = some 2 ∧
        (Condition.runs .generic soleTable 0 (testSample c)).length = 1 ∧
        textHolds .generic (fun k => k == 1) (f.sql .generic).toList = some true ∧
        Condition.holds .generic (fun k => k == 1) (testSample c) = false := by
  refine ⟨⟨_, _, rfl, rfl, ?_⟩, List.forall_mem_cons.2 ⟨⟨_, rfl, ?_⟩,
    List.forall_mem_singleton.2 ⟨_, rfl, ?_⟩⟩⟩
  · decide +kernel
  · decide +kernel
  · decide +kernel

end EntitySql
