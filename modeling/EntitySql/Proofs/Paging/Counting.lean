import EntitySql.Proofs.Paging.Forms
import EntitySql.Proofs.Sql.Changes
import Mathlib.Data.Finset.Card

/-!
# The number of rows

The count of a query is written from the same parts as the query itself. A distinct or grouped
query is counted around its text, any other one by putting the count in place of what it selects.
In both texts the order of the rows is left out and nothing else, so the parameters are those of the
query (`Query.compileCount_counts`).

**Meaning.** Counting around the text gives the number of rows of the query. Counting in place
gives the size of each group that passes, which is the number of rows as long as no row stands for a
group: a condition on groups without grouping is counted wrong unless exactly one row is kept and
passes.

**Order.** A term to order by that no selected column stands for is selected as well. So new terms
change the text of a count at most at the end of what it selects inside, and the number it gives at
most for a distinct query, where it never gets smaller (`Query.compileCount_addOrderBy`).
-/

namespace EntitySql

set_option autoImplicit false

open Outcome

/-! ## What a count gives -/

namespace SelectRun

variable {σ κ ρ ρ' : Type} [DecidableEq κ] [DecidableEq ρ] [DecidableEq ρ']

/-- The rows of the count of a query. The count around its text has one row with their number; the
count in place is an aggregate selected from the same clauses. -/
def counted (e : SelectRun σ κ ρ) (q : Query) : List Nat :=
  if q.countsDerived then [(e.rows q).length]
  else (e.reselect true List.length).rows q

variable {e : SelectRun σ κ ρ} {q : Query}

theorem rows_of_countsDerived_eq_false (h : q.countsDerived = false) :
    e.rows q = ((if q.testsGroups || e.aggregates then [e.kept] else e.kept.map fun a => [a]).filter
      fun g => !q.testsGroups || e.passes g).map e.project := by
  obtain ⟨plain, ungrouped⟩ : q.distinct = false ∧ q.groupBy = [] := by
    simpa [Query.countsDerived] using h
  simp [rows, passing, groups, plain, ungrouped]

/-- **The count is the number of rows** around the text of the query always, in place when no row
stands for a group of several or none. -/
theorem counted_eq_iff :
    e.counted q = [(e.rows q).length] ↔
      q.countsDerived = true ∨
      q.testsGroups = false ∧ (e.aggregates = true → e.kept.length = 1) ∨
      q.testsGroups = true ∧ e.passes e.kept = true ∧ e.kept.length = 1 := by
  cases derived : q.countsDerived with
  | true => simp [counted, derived]
  | false =>
    have counts : e.counted q = (([e.kept]).filter
        fun g => !q.testsGroups || e.passes g).map List.length := by
      simp [counted, derived, rows_of_countsDerived_eq_false, reselect, kept]
    rw [counts, rows_of_countsDerived_eq_false derived]
    cases tests : q.testsGroups with
    | false => cases aggregate : e.aggregates <;> simp
    | true => cases passed : e.passes e.kept <;> simp [passed]

end SelectRun

/-! ## The text of a count -/

namespace Query

variable {d : Dialect} {s : Scope} {q : Query} {p : SelectParts}

/-- The query without its order. -/
def unorderedOptions : SelectOptions := { SelectOptions.standard with unordered := true }

/-- What follows the keyword for the tables in a count and in the query without its order. -/
def tail (p : SelectParts) : Fragment := p.source ++ whereClause p.condition none ++ p.groups

theorem write_unordered (p : SelectParts) :
    p.write unorderedOptions = p.head ++ .text " FROM " :: tail p := by
  cases order : p.order <;>
    simp [SelectParts.write, SelectParts.columnText, SelectParts.orderText, order, tail,
      unorderedOptions, SelectOptions.standard]

/-- The order is the last part of a query. -/
theorem write_standard (p : SelectParts) :
    p.write .standard = p.write unorderedOptions ++ SelectParts.orderText false p.order := by
  cases order : p.order <;>
    simp [SelectParts.write, SelectParts.columnText, SelectParts.orderText, order,
      unorderedOptions, SelectOptions.standard]

/-- The count in place is written from the parts that follow what is selected. -/
theorem render_count (h : q.parts d s = .ok p) :
    q.render d s { SelectOptions.standard with count := true } =
      .ok (.text "SELECT COUNT(*)" :: .text " FROM " :: tail p) := by
  obtain ⟨t, list, first, others, condition, grouping, having, clause, table, _, hf, ho, hc, hg,
    hv, _, rfl⟩ := parts_eq_ok_iff.1 h
  obtain ⟨nodes, hn, rfl⟩ := map_eq_ok.1 hc
  obtain ⟨tests, ht, rfl⟩ := map_eq_ok.1 hv
  refine render_eq_ok_iff.2 ⟨t, [.text "SELECT COUNT(*)"], first, others, nodes, grouping, tests,
    [], table, rfl, hf, ho, hn, hg, ht, rfl, ?_⟩
  simp [tail, SelectOptions.standard]

/-- A query with parts is counted from them. -/
theorem compileCount_eq (scope : Scope.ofQuery q = .ok s) (h : q.parts d s = .ok p) :
    q.compileCount d = .ok ⟨d,
      if q.countsDerived then
        .text "SELECT COUNT(*) FROM (" :: (p.write unorderedOptions ++ [.text ") c_"])
      else .text "SELECT COUNT(*)" :: .text " FROM " :: tail p,
      .scalar, [Column.countAll]⟩ := by
  have around : q.render d s { SelectOptions.standard with unordered := true } =
      .ok (p.write unorderedOptions) := render_eq_write h rfl
  unfold compileCount
  rw [scope]
  cases derived : q.countsDerived with
  | true => simp only [around, Bind.bind, Except.bind, Pure.pure, Except.pure, if_true]
  | false =>
    simp only [render_count h, Bind.bind, Except.bind, Pure.pure, Except.pure,
      Bool.false_eq_true, if_false]

/-- What is selected has a text without placeholders. -/
theorem head_of_parts (h : q.parts d s = .ok p) :
    ∃ list, selectList d s (selected q.columns q.orderBy) = .ok list ∧
      p.head = .text (if q.distinct then "SELECT DISTINCT " else "SELECT ") :: list ∧
      list.parameters = [] := by
  obtain ⟨t, list, first, others, condition, grouping, having, clause, _, written, _, _, _, _, _, _,
    rfl⟩ := parts_eq_ok_iff.1 h
  refine ⟨list, written, rfl, ?_⟩
  have head : selectHead d s .standard q.distinct (selected q.columns q.orderBy) =
      .ok (.text (if q.distinct then "SELECT DISTINCT " else "SELECT ") :: (list ++ [])) := by
    simp only [selectHead, SelectOptions.standard, Bool.false_eq_true, if_false, written]
    rfl
  simpa using parameters_selectHead head

/-- **The count of a query is written around or from its text without the order,** with the same
parameters. It gives the number of rows around a text always, in place exactly when no condition on
groups is written and an aggregate is selected from one row only, or such a condition is written and
one row is kept that passes. -/
theorem compileCount_counts {st : Statement} (h : q.compile d none = .ok st) :
    ∃ s count unordered order, Scope.ofQuery q = .ok s ∧ q.compileCount d = .ok count ∧
      count.parameters = st.parameters ∧
      st.sql = unordered ++ order ∧
      (q.orderBy = [] → order = "") ∧
      (q.orderBy ≠ [] → ∃ clause, orderClause d s q.orderBy = .ok clause ∧
        order = " " ++ clause) ∧
      (q.countsDerived = true → count.sql = "SELECT COUNT(*) FROM (" ++ unordered ++ ") c_") ∧
      (q.countsDerived = false → ∃ list tables,
        selectList d s (selected q.columns q.orderBy) = .ok list ∧
        unordered = "SELECT " ++ list.sql d ++ " FROM " ++ tables ∧
        count.sql = "SELECT COUNT(*) FROM " ++ tables) ∧
      ∀ {σ κ ρ : Type} [DecidableEq κ] [DecidableEq ρ] (e : SelectRun σ κ ρ),
        e.counted q = [(e.rows q).length] ↔
          q.countsDerived = true ∨
          q.testsGroups = false ∧ (e.aggregates = true → e.kept.length = 1) ∨
          q.testsGroups = true ∧ e.passes e.kept = true ∧ e.kept.length = 1 := by
  obtain ⟨s, body, scope, plain, rfl⟩ := compile_eq_ok_iff.1 h
  have written : q.render d s .standard = .ok body := plain
  obtain ⟨p, parts⟩ := exists_parts written
  rw [render_eq_write parts rfl] at written
  obtain ⟨list, selects, head, bare⟩ := head_of_parts parts
  obtain ⟨unordered, ordered⟩ := order_of_parts parts
  have body : body = p.write unorderedOptions ++ SelectParts.orderText false p.order := by
    rw [← write_standard, Except.ok.inj written]
  have noValues : Fragment.parameters (SelectParts.orderText false p.order) = [] := by
    cases p.order <;> rfl
  refine ⟨s, _, (p.write unorderedOptions).sql d,
    Fragment.sql d (SelectParts.orderText false p.order), scope, compileCount_eq scope parts, ?_,
    ?_, ?_, ?_, ?_, ?_, fun e => e.counted_eq_iff⟩
  · cases q.countsDerived <;>
      simp [Statement.parameters, body, noValues, write_unordered, head, bare]
  · rw [Statement.sql, body, Fragment.sql, Fragment.sqlFrom_append]
    cases p.order <;> rfl
  · intro none
    rw [unordered none]
    rfl
  · intro some
    obtain ⟨clause, written, same⟩ := ordered some
    exact ⟨clause, written, by simp [same, SelectParts.orderText, Fragment.sql]⟩
  · intro derived
    simp [Statement.sql, Fragment.sql, derived, Fragment.sqlFrom_append, String.append_assoc]
  · intro derived
    have plain : q.distinct = false := by
      rw [countsDerived, Bool.or_eq_false_iff] at derived
      exact derived.1
    refine ⟨list, (tail p).sql d, selects, ?_, ?_⟩
    · simp [write_unordered, head, plain, Fragment.sql, Fragment.sqlFrom_append, bare,
        String.append_assoc]
    · simp only [Statement.sql, Fragment.sql, derived, Bool.false_eq_true, if_false,
        Fragment.sqlFrom_text, ← String.append_assoc]
      rfl

/-- The cities with more than five users. -/
def crowdedSample : Query :=
  { Query.ofNamed 0 "USERS" with
    columns := [.ofName "CITY"]
    groupBy := [.ofName "CITY"]
    having := [.predicate .and (.compare .countAll .more
      (.value (.int .int32 (some (.clamp .int32 5)))))]
    orderBy := [⟨.ofName "CITY", .ascending⟩] }

theorem compileCount_counts_crowdedSample :
    ∃ count, crowdedSample.compileCount .postgres = .ok count ∧
      count.sql = "SELECT COUNT(*) FROM (SELECT CITY FROM USERS GROUP BY CITY " ++
        "HAVING COUNT(*) > $1) c_" ∧
      ∀ e : SelectRun String String String,
        e.counted crowdedSample = [(e.rows crowdedSample).length] := by
  obtain ⟨s, count, _, _, _, compiled, _, _, _, _, _, _, counts⟩ :=
    compileCount_counts (d := .postgres) (q := crowdedSample) (Eq.refl _)
  refine ⟨count, compiled, ?_, fun e => (counts e).2 (.inl rfl)⟩
  have text : (crowdedSample.compileCount .postgres).map Statement.sql =
      .ok ("SELECT COUNT(*) FROM (SELECT CITY FROM USERS GROUP BY CITY " ++
        "HAVING COUNT(*) > $1) c_") := by rfl
  rw [compiled] at text
  exact Except.ok.inj text

/-- The greatest age, if there are more than five users. -/
def greatestSample : Query :=
  { Query.ofNamed 0 "USERS" with
    columns := [{ Column.ofName "AGE" with function := some "MAX" }]
    having := [.predicate .and (.compare .countAll .more
      (.value (.int .int32 (some (.clamp .int32 5)))))] }

/-- Ages, of which the greatest is selected when there are more than five. -/
def greatestRun : SelectRun Nat Unit Nat :=
  ⟨[18, 25, 31, 40, 44, 50, 62], fun _ => true, fun _ => (), fun g => 5 < g.length, true,
    fun g => g.foldl max 0⟩

/-- A condition on groups without grouping is counted in place: the number is that of the rows in
the group, and not that of the groups. -/
theorem compileCount_counts_greatestSample :
    ∃ st count, greatestSample.compile .generic none = .ok st ∧
      greatestSample.compileCount .generic = .ok count ∧
      st.sql = "SELECT MAX(AGE) FROM USERS HAVING COUNT(*) > ?" ∧
      count.sql = "SELECT COUNT(*) FROM USERS HAVING COUNT(*) > ?" ∧
      count.sql ≠ "SELECT COUNT(*) FROM (" ++ st.sql ++ ") c_" ∧
      greatestRun.rows greatestSample = [62] ∧ greatestRun.counted greatestSample = [7] := by
  refine ⟨_, _, rfl, rfl, ?_, ?_, ?_, ?_, ?_⟩ <;> decide +kernel

/-! ## The order of what is counted -/

/-- The terms that no selected column stands for. -/
def addedTerms (columns : List Column) : List Ordered → List Column
  | [] => []
  | term :: rest =>
    if columns.any fun c => covers c term.column then addedTerms columns rest
    else term.column :: addedTerms (columns ++ [term.column]) rest

theorem withTerms_eq_append (columns : List Column) (terms : List Ordered) :
    withTerms columns terms = columns ++ addedTerms columns terms := by
  induction terms generalizing columns with
  | nil => simp [withTerms, addedTerms]
  | cons term rest ih =>
    rw [withTerms, addedTerms]
    split
    · exact ih columns
    · rw [ih, List.append_assoc, List.singleton_append]

theorem withTerms_append (columns : List Column) (terms later : List Ordered) :
    withTerms columns (terms ++ later) = withTerms (withTerms columns terms) later := by
  induction terms generalizing columns with
  | nil => rfl
  | cons term rest ih =>
    rw [List.cons_append, withTerms, withTerms]
    split <;> exact ih _

/-- Nothing is added when every term is covered already. -/
theorem addedTerms_eq_nil_iff {columns : List Column} {terms : List Ordered} :
    addedTerms columns terms = [] ↔
      ∀ o ∈ terms, (columns.any fun c => covers c o.column) = true := by
  induction terms with
  | nil => simp [addedTerms]
  | cons term rest ih =>
    rw [addedTerms, List.forall_mem_cons]
    split
    · rename_i covered
      rw [ih]
      exact ⟨fun others => ⟨covered, others⟩, fun all => all.2⟩
    · rename_i missing
      exact ⟨nofun, fun all => absurd all.1 missing⟩

/-- The columns that more terms add to what is selected. -/
def addedBy (q : Query) (terms : List Ordered) : List Column :=
  if q.columns.isEmpty || selectsAll q.columns then []
  else addedTerms (selected q.columns q.orderBy) terms

variable {terms : List Ordered}

theorem selected_append (q : Query) (terms : List Ordered) :
    selected q.columns (q.orderBy ++ terms) =
      selected q.columns q.orderBy ++ q.addedBy terms := by
  unfold addedBy selected
  split
  · exact (List.append_nil _).symm
  · rw [withTerms_append, withTerms_eq_append (withTerms q.columns q.orderBy)]

theorem addedBy_eq_nil_iff :
    q.addedBy terms = [] ↔ q.columns = [] ∨ selectsAll q.columns = true ∨
      ∀ o ∈ terms, ((selected q.columns q.orderBy).any fun c => covers c o.column) = true := by
  unfold addedBy
  split
  · rename_i every
    simp only [Bool.or_eq_true, List.isEmpty_iff] at every
    exact ⟨fun _ => every.imp_right .inl, fun _ => rfl⟩
  · rename_i chosen
    simp only [Bool.or_eq_true, List.isEmpty_iff, not_or] at chosen
    rw [addedTerms_eq_nil_iff]
    exact ⟨fun all => .inr (.inr all),
      fun cases => (cases.resolve_left chosen.1).resolve_left chosen.2⟩

/-- Columns added to others are written after them. -/
theorem selectList_append {columns added : List Column} {f : Fragment} (some : columns ≠ [])
    (h : selectList d s (columns ++ added) = .ok f) :
    ∃ texts more, columns.mapM (Column.renderLabeled d s) = .ok texts ∧
      added.mapM (Column.renderLabeled d s) = .ok more ∧
      f = separatedTexts ", " (texts ++ more) := by
  rw [selectList, if_neg (by simp [some])] at h
  obtain ⟨all, written, rfl⟩ := map_eq_ok.1 h
  obtain ⟨texts, more, first, others, rfl⟩ := mapM_append_eq_ok.1 written
  exact ⟨texts, more, first, others, rfl⟩

theorem selectList_of_mapM {columns : List Column} {texts : List String} (some : columns ≠ [])
    (h : columns.mapM (Column.renderLabeled d s) = .ok texts) :
    selectList d s columns = .ok (separatedTexts ", " texts) := by
  rw [selectList, if_neg (by simp [some]), h]
  rfl

/-- Where terms add columns, some are selected without them. -/
theorem selected_ne_nil (h : q.addedBy terms ≠ []) : selected q.columns q.orderBy ≠ [] := by
  intro none
  refine h (addedBy_eq_nil_iff.2 (.inl ?_))
  by_contra some
  unfold selected at none
  split at none
  · exact some none
  · rw [withTerms_eq_append] at none
    exact some (List.append_eq_nil_iff.1 none).1

/-- A query whose order with more terms can be written has parts without them. They differ in what
is selected and in the order. -/
theorem exists_parts_of_addOrderBy {p' : SelectParts}
    (h : (q.addOrderBy terms).parts d s = .ok p') :
    ∃ p, q.parts d s = .ok p ∧ tail p = tail p' ∧
      (q.addedBy terms = [] → p.head = p'.head) ∧
      (q.addedBy terms ≠ [] → ∃ texts more,
        (selected q.columns q.orderBy).mapM (Column.renderLabeled d s) = .ok texts ∧
        (q.addedBy terms).mapM (Column.renderLabeled d s) = .ok more ∧
        p.head = .text (if q.distinct then "SELECT DISTINCT " else "SELECT ") ::
          separatedTexts ", " texts ∧
        p'.head = .text (if q.distinct then "SELECT DISTINCT " else "SELECT ") ::
          separatedTexts ", " (texts ++ more)) := by
  obtain ⟨t, list, first, others, condition, grouping, having, clause, table, hl, hf, ho, hc, hg,
    hv, hr, rfl⟩ := parts_eq_ok_iff.1 h
  have selects : selectList d s (selected q.columns q.orderBy ++ q.addedBy terms) = .ok list := by
    rw [← selected_append]
    exact hl
  obtain ⟨order, ordered⟩ : ∃ order, orderPart d s q.orderBy = .ok order := by
    cases every : q.orderBy with
    | nil => exact ⟨none, rfl⟩
    | cons o os =>
      have all : orderPart d s (q.orderBy ++ terms) = .ok clause := hr
      rw [orderPart, if_neg (by simp [every])] at all
      obtain ⟨_, written, rfl⟩ := map_eq_ok.1 all
      obtain ⟨_, rendered, _⟩ := map_eq_ok.1 written
      obtain ⟨texts, _, own, _, _⟩ := mapM_append_eq_ok.1 rendered
      rw [every] at own
      exact ⟨_, map_eq_ok.2 ⟨_, map_eq_ok.2 ⟨texts, own, rfl⟩, rfl⟩⟩
  have parts : ∀ {own : Fragment}, selectList d s (selected q.columns q.orderBy) = .ok own →
      q.parts d s = .ok ⟨.text (if q.distinct then "SELECT DISTINCT " else "SELECT ") :: own,
        first ++ others, condition, grouping ++ having.after " HAVING ", order⟩ := fun own =>
    parts_eq_ok_iff.2 ⟨t, _, first, others, condition, grouping, having, order, table, own, hf, ho,
      hc, hg, hv, ordered, rfl⟩
  by_cases none : q.addedBy terms = []
  · rw [none, List.append_nil] at selects
    exact ⟨_, parts selects, rfl, fun _ => rfl, fun some => absurd none some⟩
  · obtain ⟨texts, more, own, added, rfl⟩ := selectList_append (selected_ne_nil none) selects
    exact ⟨_, parts (selectList_of_mapM (selected_ne_nil none) own), rfl,
      fun nothing => absurd nothing none, fun _ => ⟨texts, more, own, added, rfl, rfl⟩⟩

end Query

namespace SelectRun

variable {σ κ ρ ρ' : Type} [DecidableEq κ] [DecidableEq ρ] [DecidableEq ρ'] {q : Query}

/-- The number that a count gives does not depend on what is selected, unless the query is
distinct. -/
theorem counted_reselect (plain : q.distinct = false) (e : SelectRun σ κ ρ) (aggregates : Bool)
    (project : List σ → ρ') : (e.reselect aggregates project).counted q = e.counted q := by
  unfold counted
  split
  · rename_i derived
    have grouped : q.groupBy ≠ [] := by simpa [Query.countsDerived, plain] using derived
    have same : (e.reselect aggregates project).passing q = e.passing q := by
      unfold passing groups
      rw [if_pos grouped, if_pos grouped]
      rfl
    simp [rows, plain, same]
  · rfl

/-- Columns left out of a distinct query merge the rows that differ in them only. -/
theorem length_rows_reselect (distinct : q.distinct = true) (e : SelectRun σ κ ρ) (cut : ρ → ρ') :
    ((e.reselect e.aggregates (cut ∘ e.project)).rows q).length ≤ (e.rows q).length ∧
      (((e.reselect e.aggregates (cut ∘ e.project)).rows q).length = (e.rows q).length ↔
        ∀ a ∈ e.rows q, ∀ b ∈ e.rows q, cut a = cut b → a = b) := by
  have all : e.rows q = ((e.passing q).map e.project).dedup := by simp [rows, distinct]
  have cutRows : (e.reselect e.aggregates (cut ∘ e.project)).rows q =
      (((e.passing q).map e.project).map cut).dedup := by
    rw [rows, if_pos distinct, List.map_map]
    rfl
  have image : (((e.passing q).map e.project).map cut).toFinset =
      (((e.passing q).map e.project).toFinset).image cut := by
    ext
    simp
  rw [cutRows, all, ← List.card_toFinset, ← List.card_toFinset, image]
  refine ⟨Finset.card_image_le, ?_⟩
  rw [Finset.card_image_iff]
  simp [Set.InjOn]

end SelectRun

namespace Query

variable {d : Dialect} {s : Scope} {q : Query} {terms : List Ordered}

/-- **More terms to order by leave the parameters of a count as they are,** and its text too unless
the query is counted from outside and a term is covered by no selected column; then the text differs
by the columns added at the end of what is selected inside. The number the count gives stays the
same unless the query is distinct. For a distinct query it does not get smaller, and it stays the
same exactly when no two rows differ in the added columns only. -/
theorem compileCount_addOrderBy {st : Statement}
    (h : (q.addOrderBy terms).compile d none = .ok st) :
    ∃ s plain ordered, Scope.ofQuery q = .ok s ∧ q.compileCount d = .ok plain ∧
      (q.addOrderBy terms).compileCount d = .ok ordered ∧
      ordered.parameters = plain.parameters ∧
      selected q.columns (q.orderBy ++ terms) =
        selected q.columns q.orderBy ++ q.addedBy terms ∧
      (q.addedBy terms = [] ↔ q.columns = [] ∨ selectsAll q.columns = true ∨
        ∀ o ∈ terms, ((selected q.columns q.orderBy).any fun c => covers c o.column) = true) ∧
      (q.countsDerived = false ∨ q.addedBy terms = [] → ordered.sql = plain.sql) ∧
      (q.countsDerived = true → q.addedBy terms ≠ [] → ∃ keyword texts more tables,
        (selected q.columns q.orderBy).mapM (Column.renderLabeled d s) = .ok texts ∧
        (q.addedBy terms).mapM (Column.renderLabeled d s) = .ok more ∧
        plain.sql = "SELECT COUNT(*) FROM (" ++ keyword ++ (separatedTexts ", " texts).sql d ++
          " FROM " ++ tables ++ ") c_" ∧
        ordered.sql = "SELECT COUNT(*) FROM (" ++ keyword ++
          (separatedTexts ", " (texts ++ more)).sql d ++ " FROM " ++ tables ++ ") c_") ∧
      ∀ {σ κ ρ ρ' : Type} [DecidableEq κ] [DecidableEq ρ] [DecidableEq ρ'] (e : SelectRun σ κ ρ),
        (q.distinct = false → ∀ aggregates (project : List σ → ρ'),
          (e.reselect aggregates project).counted q = e.counted (q.addOrderBy terms)) ∧
        (q.distinct = true → ∀ cut : ρ → ρ', ∃ fewer more,
          (e.reselect e.aggregates (cut ∘ e.project)).counted q = [fewer] ∧
          e.counted (q.addOrderBy terms) = [more] ∧ fewer ≤ more ∧
          (fewer = more ↔ ∀ a ∈ e.rows q, ∀ b ∈ e.rows q, cut a = cut b → a = b)) := by
  obtain ⟨s, body, scope, plain, rfl⟩ := compile_eq_ok_iff.1 h
  have written : (q.addOrderBy terms).render d s .standard = .ok body := plain
  have outside : Scope.ofQuery q = .ok s := scope
  obtain ⟨p', parts'⟩ := exists_parts written
  obtain ⟨p, parts, tails, same, longer⟩ := exists_parts_of_addOrderBy parts'
  have derives : (q.addOrderBy terms).countsDerived = q.countsDerived := rfl
  obtain ⟨_, _, head, bare⟩ := head_of_parts parts
  obtain ⟨_, _, head', bare'⟩ := head_of_parts parts'
  refine ⟨s, _, _, outside, compileCount_eq outside parts, compileCount_eq scope parts', ?_,
    selected_append q terms, addedBy_eq_nil_iff, ?_, ?_, fun e => ⟨?_, ?_⟩⟩
  · cases derived : q.countsDerived <;>
      simp [Statement.parameters, derives, derived, write_unordered, tails, head, head', bare,
        bare']
  · rintro (direct | none)
    · simp [Statement.sql, derives, direct, tails]
    · simp [Statement.sql, derives, write_unordered, tails, same none]
  · intro derived some
    obtain ⟨texts, more, own, added, first, second⟩ := longer some
    refine ⟨if q.distinct then "SELECT DISTINCT " else "SELECT ", texts, more, (tail p').sql d, own,
      added, ?_, ?_⟩
    · simp [Statement.sql, Fragment.sql, derived, write_unordered, tails, first,
        Fragment.sqlFrom_append, String.append_assoc]
    · simp [Statement.sql, Fragment.sql, derives, derived, write_unordered, second,
        Fragment.sqlFrom_append, String.append_assoc]
  · intro plain aggregates project
    exact e.counted_reselect plain aggregates project
  · intro distinct cut
    have derived : q.countsDerived = true := by simp [countsDerived, distinct]
    obtain ⟨fewer, alike⟩ := e.length_rows_reselect distinct cut
    exact ⟨_, _, by rw [SelectRun.counted, if_pos derived], by
      rw [SelectRun.counted, derives, if_pos derived]; rfl, fewer, alike⟩

/-- Cities ordered by their numbers of users are as many as before. -/
theorem compileCount_addOrderBy_crowdedSample :
    ∃ plain ordered, crowdedSample.compileCount .postgres = .ok plain ∧
      (crowdedSample.addOrderBy [⟨.countAll, .descending⟩]).compileCount .postgres = .ok ordered ∧
      ordered.sql = "SELECT COUNT(*) FROM (SELECT CITY, COUNT(*) FROM USERS " ++
        "GROUP BY CITY HAVING COUNT(*) > $1) c_" ∧
      ordered.parameters = plain.parameters ∧
      ∀ (e : SelectRun String String (String × Nat)) (project : List String → String),
        (e.reselect true project).counted crowdedSample =
          e.counted (crowdedSample.addOrderBy [⟨.countAll, .descending⟩]) := by
  obtain ⟨s, plain, ordered, _, first, second, parameters, _, _, _, _, counts⟩ :=
    compileCount_addOrderBy (show
      (crowdedSample.addOrderBy [⟨.countAll, .descending⟩]).compile .postgres none = .ok _ from rfl)
  refine ⟨plain, ordered, first, second, ?_, parameters,
    fun e project => (counts e).1 rfl true project⟩
  have text : ((crowdedSample.addOrderBy [⟨.countAll, .descending⟩]).compileCount .postgres).map
      Statement.sql = .ok ("SELECT COUNT(*) FROM (SELECT CITY, COUNT(*) FROM USERS " ++
        "GROUP BY CITY HAVING COUNT(*) > $1) c_") := by rfl
  rw [second] at text
  exact Except.ok.inj text

/-- The names of users, each once. -/
def namesSample : Query :=
  { Query.ofNamed 0 "USERS" with columns := [.ofName "NAME"], distinct := true }

/-- Names with ages, and what is selected of them. -/
def namesRun {ρ : Type} (project : String × Nat → ρ) : SelectRun (String × Nat) Unit (List ρ) :=
  ⟨[("Ann", 30), ("Ann", 41)], fun _ => true, fun _ => (), fun _ => true, false,
    fun g => g.map project⟩

/-- Names ordered by age are counted with their ages. -/
theorem compileCount_addOrderBy_namesSample :
    ∃ st plain ordered,
      (namesSample.addOrderBy [⟨.ofName "AGE", .ascending⟩]).compile .generic none = .ok st ∧
      namesSample.compileCount .generic = .ok plain ∧
      (namesSample.addOrderBy [⟨.ofName "AGE", .ascending⟩]).compileCount .generic = .ok ordered ∧
      plain.sql = "SELECT COUNT(*) FROM (SELECT DISTINCT NAME FROM USERS) c_" ∧
      ordered.sql = "SELECT COUNT(*) FROM (SELECT DISTINCT NAME, AGE FROM USERS) c_" ∧
      ordered.sql ≠ plain.sql ∧
      (namesRun Prod.fst).counted namesSample = [1] ∧
      (namesRun id).counted (namesSample.addOrderBy [⟨.ofName "AGE", .ascending⟩]) = [2] := by
  refine ⟨_, _, _, rfl, rfl, rfl, ?_, ?_, ?_, ?_, ?_⟩ <;> decide +kernel

end Query

end EntitySql
