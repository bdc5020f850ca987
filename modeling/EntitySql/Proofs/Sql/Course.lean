import EntitySql.Proofs.Condition.Dropped
import EntitySql.Proofs.Sql.Steps
import EntitySql.Proofs.Text.Occurrences

/-!
# Writing follows the steps

An outcome follows a list of steps (`Follows`) when it fails with the first step that fails, and
when else the texts of the references among the steps occur in the result, in the order of the
steps. The parts of a query follow their steps one after the other, so the writing of a query does
(`Query.follows_render`).

So the steps of a query tree tell whether it is compiled, what the first error is and which
references the text has (`Query.follows_compile`).
-/

namespace EntitySql

set_option autoImplicit false

open Outcome

variable {d : Dialect} {path : List Query}

/-! ## Runs of steps -/

namespace Step

theorem run_append (steps others : List Step) :
    run d (steps ++ others) = run d steps >>= fun _ => run d others := List.forM_append

theorem texts_append (steps others : List Step) :
    texts d (steps ++ others) = texts d steps ++ texts d others := List.filterMap_append

/-- A run succeeds when all its steps do. -/
theorem run_eq_ok_iff {steps : List Step} :
    run d steps = .ok () ↔ ∀ step ∈ steps, step.outcome d = .ok () := by
  induction steps with
  | nil => exact ⟨fun _ => List.forall_mem_nil _, fun _ => rfl⟩
  | cons step rest ih =>
    have unfolded : run d (step :: rest) = step.outcome d >>= fun _ => run d rest :=
      List.forM_cons
    rw [unfolded, bind_eq_ok, List.forall_mem_cons, ← ih]
    exact ⟨fun ⟨(), first, others⟩ => ⟨first, others⟩, fun ⟨first, others⟩ => ⟨(), first, others⟩⟩

/-- **A run fails with the first of its steps that fails.** -/
theorem run_eq_error_iff {steps : List Step} {e : Error} :
    run d steps = .error e ↔ ∃ before step after, steps = before ++ step :: after ∧
      (∀ earlier ∈ before, earlier.outcome d = .ok ()) ∧ step.outcome d = .error e := by
  induction steps with
  | nil =>
    constructor
    · intro h
      cases h
    · rintro ⟨before, step, after, same, _⟩
      simp at same
  | cons first rest ih =>
    have unfolded : run d (first :: rest) = first.outcome d >>= fun _ => run d rest :=
      List.forM_cons
    rw [unfolded]
    cases here : first.outcome d with
    | error e' =>
      constructor
      · intro h
        cases h
        exact ⟨[], first, rest, rfl, List.forall_mem_nil _, here⟩
      · rintro ⟨before, step, after, same, earlier, failed⟩
        cases before with
        | nil =>
          cases same
          rw [here] at failed
          exact failed
        | cons b before =>
          cases same
          have succeeded := earlier _ List.mem_cons_self
          rw [here] at succeeded
          cases succeeded
    | ok =>
      show run d rest = .error e ↔ _
      rw [ih]
      constructor
      · rintro ⟨before, step, after, rfl, earlier, failed⟩
        exact ⟨first :: before, step, after, rfl, List.forall_mem_cons.2 ⟨here, earlier⟩, failed⟩
      · rintro ⟨before, step, after, same, earlier, failed⟩
        cases before with
        | nil =>
          cases same
          rw [here] at failed
          cases failed
        | cons b before =>
          cases same
          exact ⟨before, step, after, rfl, (List.forall_mem_cons.1 earlier).2, failed⟩

end Step

/-- The outcome fails as the run of the steps does; a result shows the texts of the steps. -/
structure Follows {α : Type} (d : Dialect) (steps : List Step) (shows : List String → α → Prop)
    (x : Except Error α) : Prop where
  outcome : x.map (fun _ => ()) = Step.run d steps
  shown : ∀ a, x = .ok a → shows (Step.texts d steps) a

namespace Follows

variable {α β : Type} {steps others : List Step} {shows : List String → α → Prop}
  {displays : List String → β → Prop} {x : Except Error α}

theorem pure {a : α} (h : shows [] a) : Follows d [] shows (.ok a) where
  outcome := rfl
  shown := by
    rintro _ ⟨⟩
    exact h

/-- The outcome of one step. -/
theorem ofStep {step : Step} (outcome : x.map (fun _ => ()) = step.outcome d)
    (shown : ∀ a, x = .ok a → shows (step.text? d).toList a) : Follows d [step] shows x where
  outcome := by
    have run : Step.run d [step] = step.outcome d >>= fun _ => .ok () := List.forM_cons
    rw [run, outcome]
    cases step.outcome d <;> rfl
  shown := by
    have texts : Step.texts d [step] = (step.text? d).toList := by
      cases here : step.text? d <;> simp [Step.texts, here]
    rw [texts]
    exact shown

/-- The steps of the first outcome come before those of the second one. -/
theorem bind {f : α → Except Error β} (first : Follows d steps shows x)
    (next : ∀ a, shows (Step.texts d steps) a →
      Follows d others (fun texts => displays (Step.texts d steps ++ texts)) (f a)) :
    Follows d (steps ++ others) displays (x >>= f) := by
  have same := first.outcome
  cases x with
  | error e =>
    constructor
    · rw [Step.run_append, ← same]
      rfl
    · intro b h
      cases h
  | ok a =>
    have second := next a (first.shown a rfl)
    constructor
    · rw [Step.run_append, ← same]
      exact second.outcome
    · intro b h
      rw [Step.texts_append]
      exact second.shown b h

theorem map {f : α → β} (first : Follows d steps shows x)
    (next : ∀ a, shows (Step.texts d steps) a → displays (Step.texts d steps) (f a)) :
    Follows d steps displays (x.map f) := by
  constructor
  · rw [← first.outcome]
    cases x <;> rfl
  · intro b h
    obtain ⟨a, result, rfl⟩ := map_eq_ok.1 h
    exact next a (first.shown a result)

/-- The last outcome of a sequence. -/
theorem last {f : α → β} (first : Follows d steps shows x)
    (next : ∀ a, shows (Step.texts d steps) a → displays (Step.texts d steps) (f a)) :
    Follows d steps displays (x >>= fun a => Pure.pure (f a)) := by
  rw [bind_pure_eq_map]
  exact first.map next

theorem mapM {f : α → Except Error β} {steps : α → List Step}
    (each : ∀ a, Follows d (steps a) displays (f a)) (as : List α) :
    Follows d (as.flatMap steps) (Spread displays) (as.mapM f) := by
  induction as with
  | nil => exact .pure .nil
  | cons a as ih =>
    rw [List.mapM_cons, List.flatMap_cons]
    refine (each a).bind fun b first => ih.last fun bs rest => ?_
    exact .cons first rest

end Follows

/-! ## Fragments -/

/-- The texts occur in the text of the fragment in their order. -/
def Fragment.Shows (d : Dialect) (texts : List String) (f : Fragment) : Prop :=
  ∀ n, InOrder texts (f.sqlFrom d n)

namespace Fragment.Shows

variable {texts others : List String} {f g : Fragment}

theorem none (f : Fragment) : Shows d [] f := fun _ => trivial

theorem single {t : String} (h : InOrder texts t) : Shows d texts [.text t] := by
  intro n
  rw [sqlFrom_text, sqlFrom_nil]
  exact h.behind ""

theorem append (first : Shows d texts f) (second : Shows d others g) :
    Shows d (texts ++ others) (f ++ g) := by
  intro n
  rw [sqlFrom_append]
  exact (first n).append (second _)

theorem before (g : Fragment) (h : Shows d texts f) : Shows d texts (g ++ f) := (none g).append h

theorem behind (g : Fragment) (h : Shows d texts f) : Shows d texts (f ++ g) := by
  have both := h.append (none g)
  rwa [List.append_nil] at both

/-- What a fragment shows that writes nothing is shown by the empty one. -/
theorem of_writesNothing (h : Shows d texts f) (nothing : f.writesNothing = true) :
    Shows d texts [] := by
  intro n
  have here := h n
  rwa [(sqlFrom_eq_empty_iff n).2 nothing] at here

/-- A fragment that is left out if it writes nothing. -/
theorem choice (h : Shows d texts f) {whole : Fragment} (written : Shows d texts whole) :
    Shows d texts (if f.writesNothing then [] else whole) := by
  split
  · rename_i nothing
    exact h.of_writesNothing nothing
  · exact written

theorem parenthesized (h : Shows d texts f) : Shows d texts f.parenthesized :=
  h.choice ((h.behind [.text ")"]).before [.text "("])

theorem after (keyword : String) (h : Shows d texts f) : Shows d texts (f.after keyword) :=
  h.choice (h.before [.text keyword])

theorem whereClause (h : Shows d texts f) (extra : Option String) :
    Shows d texts (whereClause f extra) := by
  cases extra with
  | none => exact h.after " WHERE "
  | some e =>
    show Shows d texts (if f.writesNothing then [.text (" WHERE " ++ e)]
      else .text " WHERE (" :: (f ++ [.text (") AND " ++ e)]))
    split
    · rename_i nothing
      exact (h.of_writesNothing nothing).behind [.text (" WHERE " ++ e)]
    · exact (h.behind [.text (") AND " ++ e)]).before [.text " WHERE ("]

-- What was written before decides on the separators only, so the induction is over both states.
theorem separatedAfter {fs : List Fragment} (h : Spread (Shows d) texts fs) (separator : String)
    (wrote : Bool) : Shows d texts (separatedAfter separator wrote fs) := by
  obtain ⟨split, rfl, each⟩ := h
  induction each generalizing wrote with
  | nil => exact none []
  | @cons part f parts fs here later ih =>
    rw [List.flatten_cons, Fragment.separatedAfter]
    refine append ?_ (ih _)
    cases wrote with
    | true => exact here.before [.text separator]
    | false => exact here

theorem separated {fs : List Fragment} (h : Spread (Shows d) texts fs) (separator : String) :
    Shows d texts (separated separator fs) := separatedAfter h separator false

theorem chainedAfter {nodes : List (Connective × Fragment)}
    (h : Spread (fun texts node => Shows d texts node.2) texts nodes) (started : Bool) :
    Shows d texts (chainedAfter started nodes) := by
  obtain ⟨split, rfl, each⟩ := h
  induction each generalizing started with
  | nil => exact none []
  | @cons part node parts nodes here later ih =>
    obtain ⟨c, f⟩ := node
    rw [List.flatten_cons, Fragment.chainedAfter]
    split
    · rename_i nothing
      exact (here.of_writesNothing nothing).append (ih started)
    · refine append ?_ (ih true)
      cases started with
      | true => exact here.before [.text c.spaced]
      | false => exact here

theorem chained {nodes : List (Connective × Fragment)}
    (h : Spread (fun texts node => Shows d texts node.2) texts nodes) :
    Shows d texts (chained nodes) := chainedAfter h false

end Fragment.Shows

/-! ## Columns -/

namespace Column

/-- A base is the text of its reference, if it is shown. -/
theorem follows_base (c : Column) (shown : Bool) :
    Follows d [.column path c shown] InOrder (c.base d (Scope.along path)) := by
  refine .ofStep rfl fun t written => ?_
  cases shown with
  | false => trivial
  | true =>
    rw [Step.text?, written]
    split
    · exact .single t
    · trivial

theorem inOrder_applied {texts : List String} {t : String} (function : Option String)
    (h : InOrder texts t) : InOrder texts (applied function t) := by
  cases function with
  | none => exact h
  | some f => exact (h.before (f ++ "(")).behind ")"

/-- An operator is applied to one operand, or to both. -/
theorem render_operation {s : Scope} (function : Option String)
    (qualifier name label : String) (value : Option Value) (raw : Bool) (op : BitOp)
    (other : Column) :
    render d s ⟨function, qualifier, name, label, value, raw, some (op, other)⟩ =
      base d s ⟨function, qualifier, name, label, value, raw, some (op, other)⟩ >>= fun a =>
        if op.isUnary then .ok (applied function (d.complement a))
        else (render d s other).map fun b => applied function (d.binary op a b) := by
  have operation : ∀ a b, d.operation op a (some b) = .ok (d.binary op a b) := by
    intro a b
    cases op <;> rfl
  rw [render]
  refine congrArg _ (funext fun a => ?_)
  cases unary : op.isUnary with
  | true =>
    cases beq_iff_eq.1 unary
    rfl
  | false =>
    cases other.render d s with
    | error e => rfl
    | ok b =>
      show (d.operation op a (some b) >>= fun combined => Pure.pure (applied function combined)) = _
      rw [operation]
      rfl

/-- **A column is written by its steps:** its base first, its second operand then. -/
theorem follows_render (path : List Query) (shown : Bool) : ∀ c : Column,
    Follows d (c.steps path shown) InOrder (c.render d (Scope.along path))
  | ⟨function, qualifier, name, label, value, raw, none⟩ => by
    rw [render, steps, operands, List.map_singleton]
    exact (follows_base _ shown).last fun t text => inOrder_applied function text
  | ⟨function, qualifier, name, label, value, raw, some (op, other)⟩ => by
    rw [render_operation, steps, operands, List.map_cons]
    refine (follows_base _ shown).bind fun a left => ?_
    cases unary : op.isUnary with
    | true =>
      cases beq_iff_eq.1 unary
      refine .pure ?_
      rw [List.append_nil]
      exact inOrder_applied function (Dialect.inOrder_complement left)
    | false =>
      exact (follows_render path shown other).map fun b right =>
        inOrder_applied function (Dialect.inOrder_binary op unary left right)

theorem follows_renderLabeled (c : Column) :
    Follows d (c.labeledSteps path) InOrder (c.renderLabeled d (Scope.along path)) := by
  have label : Follows d [.label c] (fun texts _ => texts = []) ((Step.label c).outcome d) :=
    .ofStep (by cases (Step.label c).outcome d <;> rfl) fun _ _ => rfl
  have same : c.renderLabeled d (Scope.along path) =
      (Step.label c).outcome d >>= fun _ => (c.render d (Scope.along path)).map fun expression =>
        if c.label = "" then expression else expression ++ " AS " ++ d.identifier c.label := by
    simp only [renderLabeled, Step.outcome]
    split
    · rfl
    · cases c.render d (Scope.along path) <;> rfl
  rw [same, labeledSteps]
  refine label.bind fun _ none => ?_
  rw [none]
  refine (follows_render path true c).map fun t text => ?_
  split
  · exact text
  · exact (text.behind " AS ").behind (d.identifier c.label)

end Column

/-! ## Clauses of columns -/

/-- Texts are shown by what they are separated to. -/
theorem Fragment.Shows.separatedTexts {texts ts : List String} (h : Spread InOrder texts ts)
    (separator : String) : Shows d texts (separatedTexts separator ts) := by
  obtain ⟨split, rfl, each⟩ := h
  refine separated ⟨split, rfl, ?_⟩ separator
  rw [List.forall₂_map_right_iff]
  exact each.imp fun _ _ here => .single here

theorem follows_selectHead (options : SelectOptions) (distinct : Bool) (columns : List Column) :
    Follows d (if options.count then [] else columns.flatMap (Column.labeledSteps path))
      (Fragment.Shows d) (selectHead d (Scope.along path) options distinct columns) := by
  have list : Follows d (columns.flatMap (Column.labeledSteps path)) (Fragment.Shows d)
      (selectList d (Scope.along path) columns) := by
    unfold selectList
    cases columns with
    | nil => exact .pure (.none _)
    | cons c cs =>
      exact (Follows.mapM Column.follows_renderLabeled (c :: cs)).map fun _ texts =>
        .separatedTexts texts ", "
  unfold selectHead
  cases options.count with
  | true => exact .pure (.none _)
  | false => exact list.last fun f shows => (shows.behind _).before [.text _]

theorem follows_groupClause (columns : List Column) :
    Follows d (columns.flatMap (Column.steps path true)) (Fragment.Shows d)
      (groupClause d (Scope.along path) columns) := by
  unfold groupClause
  cases columns with
  | nil => exact .pure (.none _)
  | cons c cs =>
    exact (Follows.mapM (Column.follows_render path true) (c :: cs)).map fun _ texts =>
      (Fragment.Shows.separatedTexts texts ", ").before [.text " GROUP BY "]

theorem follows_finalOrder (options : SelectOptions) (terms : List Ordered) :
    Follows d (if options.unordered || options.count then []
        else terms.flatMap fun o => o.column.steps path true)
      (Fragment.Shows d) (finalOrder d (Scope.along path) options terms) := by
  unfold finalOrder
  cases left : options.unordered || options.count with
  | true => exact .pure (.none _)
  | false =>
    cases terms with
    | nil => exact .pure (.none _)
    | cons o os =>
      have each : ∀ o : Ordered, Follows d (o.column.steps path true) InOrder
          (o.render d (Scope.along path)) := fun o =>
        (Column.follows_render path true o.column).map fun t text => text.behind o.direction.word
      have clause : Follows d ((o :: os).flatMap fun o => o.column.steps path true) InOrder
          (orderClause d (Scope.along path) (o :: os)) :=
        (Follows.mapM each (o :: os)).map fun _ texts => (texts.intercalate ", ").before "ORDER BY "
      exact clause.map fun t text => .single (text.before " ")

/-! ## Tests -/

namespace Column

/-- A reference is written with the qualifier found for it. -/
theorem base_of_isReference {s : Scope} {c : Column} (reference : c.isReference = true) :
    c.base d s = (s.qualifierOf c).map (c.reference d s) := by
  simp only [isReference, Bool.and_eq_true, Bool.not_eq_true', Option.isNone_iff_eq_none,
    bne_iff_ne] at reference
  obtain ⟨⟨raw, literal⟩, named⟩ := reference
  simp only [base, raw, literal, named, Bool.false_eq_true, if_false]

/-- A column whose base is not written is not written. -/
theorem render_of_base_error {s : Scope} {c : Column} {e : Error} (h : c.base d s = .error e) :
    c.render d s = .error e := by
  obtain ⟨function, qualifier, name, label, value, raw, operation⟩ := c
  cases operation with
  | none =>
    rw [render, h]
    rfl
  | some operation =>
    obtain ⟨op, other⟩ := operation
    rw [render_operation, h]
    rfl

end Column

namespace LeftSide

/-- **The left side of a test** is found where its column is written, and fails as that does. -/
theorem follows_ofColumn (shown : Bool) (c : Column) :
    Follows d (c.steps path shown) (fun texts l => InOrder texts l.expression)
      (ofColumn d (Scope.along path) c) := by
  have written := Column.follows_render (d := d) path shown c
  cases found : (Scope.along path).columnDefOf c with
  | error e =>
    have failed : c.render d (Scope.along path) = .error e := by
      unfold Scope.columnDefOf at found
      split at found
      · cases found
      · rename_i named
        have reference : c.isReference = true := by
          simp only [Bool.or_eq_true, not_or, Bool.not_eq_true, Bool.not_eq_false'] at named
          exact named.1
        refine Column.render_of_base_error ?_
        rw [Column.base_of_isReference reference]
        cases qualifier : (Scope.along path).qualifierOf c with
        | error e' =>
          rw [qualifier] at found
          cases found
          rfl
        | ok name =>
          rw [qualifier] at found
          cases found
    have same : ofColumn d (Scope.along path) c = .error e := by
      rw [ofColumn, found]
      rfl
    rw [failed] at written
    rw [same]
    exact ⟨written.outcome, fun _ h => by cases h⟩
  | ok column =>
    have same : ofColumn d (Scope.along path) c =
        (c.render d (Scope.along path)).map fun expression => ⟨column, expression⟩ := by
      rw [ofColumn, found]
      cases c.render d (Scope.along path) <;> rfl
    rw [same]
    exact written.map fun t text => text

end LeftSide

namespace Predicate

variable {p : Predicate}

/-- A predicate is written from what has been looked up for it. -/
theorem follows_test {α : Type} {steps : List Step} {shows : List String → α → Prop}
    {x : Except Error α} {f : α → Except Error Fragment} (first : Follows d steps shows x)
    (same : p.render d (Scope.along path) = x >>= f)
    (written : ∀ a g, shows (Step.texts d steps) a → f a = .ok g →
      Fragment.Shows d (Step.texts d steps) g) :
    Follows d (steps ++ [.test path p]) (Fragment.Shows d) (p.render d (Scope.along path)) := by
  have looked := first.outcome
  cases x with
  | error e =>
    have failed : p.render d (Scope.along path) = .error e := same
    constructor
    · rw [Step.run_append, ← looked, failed]
      rfl
    · intro g h
      rw [failed] at h
      cases h
  | ok a =>
    have result : p.render d (Scope.along path) = f a := same
    have test : Follows d [.test path p] (fun texts _ => texts = [])
        (p.render d (Scope.along path)) := .ofStep rfl fun _ _ => rfl
    constructor
    · rw [Step.run_append, ← looked]
      exact test.outcome
    · intro g h
      rw [Step.texts_append, test.shown g h, List.append_nil]
      exact written a g (first.shown a rfl) (result ▸ h)

/-- A test on one column is written after it. -/
theorem follows_left {c : Column} {shown : Bool} {f : LeftSide → Except Error Fragment}
    (noRows : p.queries = []) (columns : p.columns = [(c, shown)])
    (same : p.render d (Scope.along path) = LeftSide.ofColumn d (Scope.along path) c >>= f)
    (written : ∀ texts l g, (shown = false → texts = []) → InOrder texts l.expression →
      f l = .ok g → Fragment.Shows d texts g) :
    Follows d (p.ownSteps path) (Fragment.Shows d) (p.render d (Scope.along path)) := by
  rw [ownSteps_eq noRows, columns, List.flatMap_singleton]
  refine follows_test (LeftSide.follows_ofColumn shown c) same fun l g left h =>
    written _ l g ?_ left h
  rintro rfl
  rw [Step.texts, Column.steps, List.filterMap_eq_nil_iff]
  intro step member
  obtain ⟨_, _, rfl⟩ := List.mem_map.1 member
  rfl

/-- Two columns that are compared are written one after the other. -/
theorem follows_compareColumns (c : Column) (k : Comparison) (other : Column) :
    Follows d ((compare c k (.column other)).ownSteps path) (Fragment.Shows d)
      ((compare c k (.column other)).render d (Scope.along path)) := by
  have sides : Follows d (c.steps path true ++ other.steps path true)
      (fun texts sides => InOrder texts (sides.1 ++ " " ++ k.symbol ++ " " ++ sides.2))
      (LeftSide.ofColumn d (Scope.along path) c >>= fun l =>
        (other.render d (Scope.along path)).map fun right => (l.expression, right)) :=
    (LeftSide.follows_ofColumn true c).bind fun l left =>
      (Column.follows_render path true other).map fun right text =>
        (((left.behind " ").behind k.symbol).behind " ").append text
  have same : (compare c k (.column other)).render d (Scope.along path) =
      (LeftSide.ofColumn d (Scope.along path) c >>= fun l =>
        (other.render d (Scope.along path)).map fun right => (l.expression, right)) >>=
      fun sides => .ok [.text (sides.1 ++ " " ++ k.symbol ++ " " ++ sides.2)] := by
    rw [render]
    cases LeftSide.ofColumn d (Scope.along path) c with
    | error e => rfl
    | ok l =>
      show (other.render d (Scope.along path)).map _ = _
      cases other.render d (Scope.along path) <;> rfl
  have both : [(c, true), (other, true)].flatMap (fun c => c.1.steps path c.2) =
      c.steps path true ++ other.steps path true := by
    rw [List.flatMap_cons, List.flatMap_singleton]
  rw [ownSteps_eq rfl, columns, both]
  refine follows_test sides same fun a g here h => ?_
  cases h
  exact .single here

/-- **A test on columns is written by its own steps.** -/
theorem follows_ownSteps (noRows : p.queries = []) :
    Follows d (p.ownSteps path) (Fragment.Shows d) (p.render d (Scope.along path)) := by
  cases p with
  | hasRows negated q => cases noRows
  | compare c k operand =>
    cases operand with
    | value v =>
      refine follows_left rfl rfl (by rw [render]) fun texts l g _ left h => ?_
      rcases compareTest_eq_ok h with ⟨_, _, _, rfl⟩ | ⟨_, _, _, rfl⟩ | ⟨_, _, same, _⟩
      · exact .single (left.behind _)
      · exact (Fragment.Shows.single (((left.behind " ").behind k.symbol).behind " ")).behind _
      · cases same
    | column other => exact follows_compareColumns c k other
  | like c place negated part =>
    refine follows_left rfl rfl (by rw [render]) fun texts l g _ left h => ?_
    obtain ⟨text, _, rfl⟩ := map_eq_ok.1 h
    exact (Fragment.Shows.single (((left.behind " ").behind (negation negated)).behind
      "LIKE ")).behind _
  | among c negated values =>
    refine follows_left rfl rfl (by rw [render]) fun texts l g hidden left h => ?_
    cases pure_eq_ok.1 h
    unfold amongTest
    split
    · rename_i empty
      rw [hidden (by rw [empty]; rfl)]
      exact .none _
    · exact (Fragment.Shows.single (((left.behind " ").behind (negation negated)).behind
        "IN (")).behind _
  | isNull c negated =>
    refine follows_left rfl rfl (by rw [render]) fun texts l g _ left h => ?_
    cases pure_eq_ok.1 h
    exact .single (((left.behind " IS ").behind (negation negated)).behind "NULL")
  | isEmpty c negated =>
    refine follows_left rfl rfl (by rw [render]) fun texts l g _ left h => ?_
    cases pure_eq_ok.1 h
    exact .single (Dialect.inOrder_emptyTest negated left)
  | between c low high =>
    refine follows_left rfl rfl (by rw [render]) fun texts l g hidden left h => ?_
    rcases betweenTest_eq_ok h with ⟨lowNull, highNull, rfl⟩ | ⟨_, _, rfl⟩
    · rw [hidden (by rw [lowNull, highNull]; rfl)]
      exact .none _
    · exact (Fragment.Shows.single (left.behind " BETWEEN ")).behind _

end Predicate

/-! ## Queries -/

/-- Nodes are shown one by one. -/
abbrev Node.ShowsAll (d : Dialect) : List String → List (Connective × Fragment) → Prop :=
  Spread fun texts node => Fragment.Shows d texts node.2

theorem Node.follows_chained {steps : List Step} {x : Except Error (List (Connective × Fragment))}
    (nodes : Follows d steps (Node.ShowsAll d) x) :
    Follows d steps (Fragment.Shows d) (x.map Fragment.chained) :=
  nodes.map fun _ members => Fragment.Shows.chained members

theorem Predicate.follows_of_noRows {p : Predicate} (noRows : p.queries = []) :
    Follows d (p.steps path) (Fragment.Shows d) (p.render d (Scope.along path)) := by
  rw [Predicate.steps_eq, noRows, List.flatMap_nil, List.append_nil]
  exact Predicate.follows_ownSteps noRows

/-- A query inside is entered first. -/
theorem Scope.follows_inside (q : Query) :
    Follows d [.enter path q] (fun texts inner => texts = [] ∧ q.table.isSome = true ∧
      inner = along (q :: path)) ((along path).inside q) :=
  .ofStep rfl fun _ entered => ⟨rfl, inside_along entered⟩

mutual
/-- **A query that selects from a table is written by its steps.** -/
theorem Query.follows_render (path : List Query) (options : SelectOptions) : ∀ q : Query,
    q.table.isSome = true →
      Follows d (q.steps path options) (Fragment.Shows d)
        (q.render d (Scope.along path) options)
  | ⟨none, _, _, _, _, _, _, _, _, _, _⟩, present => by cases present
  | ⟨some t, joins, columns, distinct, filter, groupBy, having, orderBy, _, _, _⟩, _ => by
    unfold Query.steps Query.render
    refine (follows_selectHead options distinct _).bind fun head list => ?_
    refine (Table.follows_render path t).bind fun first source => ?_
    refine (Join.follows_renderAll path joins).bind fun others joined => ?_
    refine (Node.follows_chained (Node.follows_renderAll path filter)).bind
      fun condition filtered => ?_
    refine (follows_groupClause groupBy).bind fun groups grouped => ?_
    refine (Node.follows_chained (Node.follows_renderAll path having)).bind
      fun groupCondition kept => ?_
    refine (follows_finalOrder options orderBy).last fun order ordered => ?_
    have tables := source.append joined
    have grouping := (tables.append (filtered.whereClause options.extraCondition)).append grouped
    have body := (grouping.append (kept.after " HAVING ")).append ordered
    have whole := list.append (body.before [.text " FROM "])
    simp only [List.append_assoc] at whole ⊢
    exact whole

theorem Table.follows_render (path : List Query) : ∀ t : Table,
    Follows d (t.steps path) (Fragment.Shows d) (t.render d (Scope.along path))
  | ⟨aliasName, source⟩ => by
    rw [Table.steps, Table.render]
    exact (TableSource.follows_render path source).last fun f shows => shows.behind _

theorem TableSource.follows_render (path : List Query) : ∀ t : TableSource,
    Follows d (t.steps path) (Fragment.Shows d) (t.render d (Scope.along path))
  | .entity _ => .pure (.none _)
  | .named _ => .pure (.none _)
  | .subQuery q => by
    rw [TableSource.steps, TableSource.render]
    refine (Scope.follows_inside q).bind ?_
    rintro _ ⟨none, present, rfl⟩
    rw [none]
    exact (Query.follows_render (q :: path) .standard q present).last fun f shows =>
      (shows.behind [.text ")"]).before [.text "("]

theorem Join.follows_render (path : List Query) : ∀ j : Join,
    Follows d (j.steps path) (Fragment.Shows d) (j.render d (Scope.along path))
  | ⟨kind, table, on⟩ => by
    rw [Join.steps, Join.render]
    refine (Table.follows_render path table).bind fun t source => ?_
    refine (Node.follows_chained (Node.follows_renderAll path on)).last fun condition tested => ?_
    have on : Fragment.Shows d (Step.texts d (Node.allSteps path on))
        (if on.isEmpty then [] else .text " ON " :: condition) := by
      cases on with
      | nil => exact .none _
      | cons n ns => exact tested.before [.text " ON "]
    exact (source.append on).before [.text (" " ++ kind.words ++ " ")]

theorem Join.follows_renderAll (path : List Query) : ∀ js : List Join,
    Follows d (Join.allSteps path js) (Fragment.Shows d) (Join.renderAll d (Scope.along path) js)
  | [] => .pure (.none _)
  | j :: js => by
    rw [Join.allSteps, Join.renderAll]
    exact (Join.follows_render path j).bind fun first shows =>
      (Join.follows_renderAll path js).last fun rest others => shows.append others

theorem Node.follows_render (path : List Query) : ∀ n : Node,
    Follows d (n.steps path) (Fragment.Shows d) (n.render d (Scope.along path))
  | .predicate _ p => by
    rw [Node.steps, Node.render]
    exact Predicate.follows_render path p
  | .nested _ nodes => by
    rw [Node.steps, Node.render]
    exact (Node.follows_renderAll path nodes).last fun _ members =>
      (Fragment.Shows.chained members).parenthesized
  | .group c members => by
    rw [Node.steps, Node.render]
    exact (Predicate.follows_renderAll path members).last fun _ fs =>
      (Fragment.Shows.separated fs c.inner.spaced).parenthesized

theorem Node.follows_renderAll (path : List Query) : ∀ ns : List Node,
    Follows d (Node.allSteps path ns) (Node.ShowsAll d) (Node.renderAll d (Scope.along path) ns)
  | [] => .pure .nil
  | n :: ns => by
    rw [Node.allSteps, Node.renderAll]
    exact (Node.follows_render path n).bind fun first shows =>
      (Node.follows_renderAll path ns).last fun rest others => .cons shows others

theorem Predicate.follows_render (path : List Query) : ∀ p : Predicate,
    Follows d (p.steps path) (Fragment.Shows d) (p.render d (Scope.along path))
  | .hasRows negated q => by
    rw [Predicate.steps, Predicate.render]
    refine (Scope.follows_inside q).bind ?_
    rintro _ ⟨none, present, rfl⟩
    rw [none]
    exact (Query.follows_render (q :: path) .standard q present).last fun f shows =>
      (shows.behind [.text ")"]).before [.text _]
  | .compare .. | .like .. | .among .. | .isNull .. | .isEmpty .. | .between .. =>
    Predicate.follows_of_noRows rfl

theorem Predicate.follows_renderAll (path : List Query) : ∀ ps : List Predicate,
    Follows d (Predicate.allSteps path ps) (Spread (Fragment.Shows d))
      (Predicate.renderAll d (Scope.along path) ps)
  | [] => .pure .nil
  | p :: ps => by
    rw [Predicate.allSteps, Predicate.renderAll]
    exact (Predicate.follows_render path p).bind fun first shows =>
      (Predicate.follows_renderAll path ps).last fun rest others => .cons shows others
end

/-! ## Statements -/

namespace Query

/-- **A query that stands alone is written by the steps of its tree.** -/
theorem follows_allSteps (q : Query) (options : SelectOptions) :
    Follows d (q.allSteps options) (Fragment.Shows d)
      (Scope.ofQuery q >>= fun s => q.render d s options) := by
  rw [Scope.ofQuery_eq]
  refine (Scope.follows_inside q).bind ?_
  rintro _ ⟨none, present, rfl⟩
  rw [none]
  exact follows_render [q] options q present

/-- **The selection of a query is compiled by the steps of its tree,** and its text has their
references in their order. -/
theorem follows_compile (q : Query) :
    Follows d (q.allSteps .standard) (fun texts st => InOrder texts st.sql)
      (q.compile d none) := by
  have same : q.compile d none = (Scope.ofQuery q >>= fun s => q.render d s .standard).map
      fun body => ⟨d, body, q.shape, selected q.columns q.orderBy⟩ := by
    rw [compile]
    cases Scope.ofQuery q with
    | error e => rfl
    | ok s => exact bind_pure_eq_map _ _
  rw [same]
  exact (follows_allSteps q .standard).map fun body shows => shows 0

end Query

end EntitySql
