import EntitySql.Proofs.Condition.Patterns
import EntitySql.Proofs.Sql.Payloads

/-!
# Membership and equality

A test selects a row when its truth for the row is certain. In SQL the truth of a comparison with
null is unknown. Membership is equality with one of the values, also to a database; so it cannot
find null, neither in the row nor among the values. A comparison of the model finds it: equality
with null is written as a null test.

The truth of a test is told from its text and its parameters. A reader finds the form of the text
(`TestForm.read?`), and the form says how the truth follows from the row and the parameters.

A test for membership therefore agrees with the equalities it stands for as long as it has no null
among its values. With one, membership misses the rows of null, and its negation misses all rows
(`Predicate.render_membership`).
-/

namespace EntitySql

set_option autoImplicit false

open Outcome

/-! ## Truth -/

/-- The truth of a test in SQL. -/
inductive TruthValue where
  | holds
  | fails
  | unknown
deriving DecidableEq, Repr

namespace TruthValue

/-- A truth that is known. -/
def ofBool (b : Bool) : TruthValue := if b then holds else fails

/-- The truth of the negated test. -/
def not : TruthValue → TruthValue
  | holds => fails
  | fails => holds
  | unknown => unknown

/-- The truth of the test or of the negated one. -/
def notIf (negated : Bool) (t : TruthValue) : TruthValue := if negated then t.not else t

/-- The truth of a disjunction. -/
def or : TruthValue → TruthValue → TruthValue
  | holds, _ => holds
  | fails, t => t
  | unknown, holds => holds
  | unknown, _ => unknown

/-- The truth of a disjunction of many. -/
def any : List TruthValue → TruthValue
  | [] => fails
  | t :: ts => t.or (any ts)

theorem or_eq_holds_iff (t u : TruthValue) : t.or u = holds ↔ t = holds ∨ u = holds := by
  cases t <;> cases u <;> decide

theorem or_eq_fails_iff (t u : TruthValue) : t.or u = fails ↔ t = fails ∧ u = fails := by
  cases t <;> cases u <;> decide

@[simp] theorem any_singleton (t : TruthValue) : any [t] = t := by
  cases t <;> rfl

theorem not_eq_holds_iff (t : TruthValue) : t.not = holds ↔ t = fails := by
  cases t <;> decide

/-- A disjunction holds when one of its members does. -/
theorem any_eq_holds_iff (ts : List TruthValue) : any ts = holds ↔ holds ∈ ts := by
  induction ts with
  | nil => simp [any]
  | cons t ts ih => rw [any, or_eq_holds_iff, ih, List.mem_cons, eq_comm (a := t)]

/-- A disjunction fails when all of its members do. -/
theorem any_eq_fails_iff (ts : List TruthValue) : any ts = fails ↔ ∀ t ∈ ts, t = fails := by
  induction ts with
  | nil => simp [any]
  | cons t ts ih => rw [any, or_eq_fails_iff, ih, List.forall_mem_cons]

end TruthValue

/-- What a row has in a column: null, or content that is equal to some values by the rules of the
database. -/
inductive RowValue where
  | null
  | content (equals : Pair → Bool)

namespace RowValue

/-- The row has null. -/
def isNull : RowValue → Bool
  | null => true
  | content _ => false

/-- The truth of the equality with a parameter. -/
def equality (row : RowValue) (p : Pair) : TruthValue :=
  match row with
  | null => .unknown
  | content equals => if p.value.isNull then .unknown else .ofBool (equals p)

theorem known_of_equality (row : RowValue) (p : Pair) (known : row.equality p ≠ .unknown) :
    row.isNull = false ∧ p.value.isNull = false := by
  cases row with
  | null => exact absurd rfl known
  | content equals =>
    refine ⟨rfl, Bool.eq_false_iff.2 fun null => known ?_⟩
    rw [equality, null, if_pos rfl]

end RowValue

/-! ## The forms of tests -/

/-- The forms in which equality and membership are written. -/
inductive TestForm where
  /-- A test that has one truth for all rows. -/
  | constant (holds : Bool)
  | nullTest (negated : Bool)
  /-- The column beside one parameter. -/
  | equation (negated : Bool)
  /-- The column before parameters in parentheses. -/
  | membership (negated : Bool)
deriving DecidableEq

namespace TestForm

/-- All forms. -/
def all : List TestForm :=
  [constant true, constant false, nullTest false, nullTest true, equation false, equation true,
    membership false, membership true]

theorem mem_all (form : TestForm) : form ∈ all := by
  cases form with
  | constant b => cases b <;> decide
  | nullTest b => cases b <;> decide
  | equation b => cases b <;> decide
  | membership b => cases b <;> decide

/-- The left side of the form. -/
def lead (left : String) : TestForm → String
  | constant _ => ""
  | _ => left

/-- The words of the form, after its left side. -/
def words : TestForm → String
  | constant true => "1=1"
  | constant false => "1=0"
  | nullTest false => " IS NULL"
  | nullTest true => " IS NOT NULL"
  | equation false => " = "
  | equation true => " <> "
  | membership false => " IN ("
  | membership true => " NOT IN ("

/-- What stands after the words of the form, with `n` parameters before the test and `count` in
it. -/
def rest (d : Dialect) (n count : Nat) : TestForm → String
  | constant _ | nullTest _ => ""
  | equation _ => d.placeholder (n + 1)
  | membership _ => ", ".intercalate ((List.range' (n + 1) count).map d.placeholder) ++ ")"

/-- The text of the form. -/
def spell (d : Dialect) (left : String) (n count : Nat) (form : TestForm) : String :=
  form.lead left ++ (form.words ++ form.rest d n count)

/-- The form has as many parameters. -/
def takes (count : Nat) : TestForm → Bool
  | constant _ | nullTest _ => count == 0
  | equation _ => count == 1
  | membership _ => count != 0

/-- The form that a text is in. -/
def read? (d : Dialect) (left : String) (n count : Nat) (text : String) : Option TestForm :=
  all.find? fun form => form.takes count && form.spell d left n count == text

/-- The truth of a test of the form for a row. -/
def truth (row : RowValue) (ps : List Pair) : TestForm → TruthValue
  | constant holds => .ofBool holds
  | nullTest negated => .ofBool (row.isNull != negated)
  | equation negated => (TruthValue.any (ps.map row.equality)).notIf negated
  | membership negated => (TruthValue.any (ps.map row.equality)).notIf negated

/-- The words of a form do not start those of another one. -/
theorem eq_of_words_start {form other : TestForm}
    (same : form.words.toList <+: other.words.toList) : form = other := by
  have table : ∀ f ∈ all, ∀ g ∈ all, f.words.toList <+: g.words.toList → f = g := by decide
  exact table form form.mem_all other other.mem_all same

/-- A text that is a constant test is nothing else: null tests are longer, and all other tests have
parameters. -/
theorem lead_of_spell_constant {d : Dialect} {left : String} {n count : Nat} {b : Bool}
    {other : TestForm} (takes : (constant b).takes count = true)
    (takes' : other.takes count = true)
    (same : (constant b).spell d left n count = other.spell d left n count) :
    other.lead left = "" := by
  cases other with
  | constant b' => rfl
  | nullTest negated =>
    have short : ((constant b).spell d left n count).length = 3 := by
      show ("" ++ ((constant b).words ++ "")).length = 3
      rw [String.empty_append, String.append_empty]
      cases b <;> decide
    have words : 3 < (nullTest negated).words.length := by cases negated <;> decide
    rw [same, spell, String.length_append, String.length_append] at short
    omega
  | equation negated =>
    cases beq_iff_eq.1 takes
    cases takes'
  | membership negated =>
    cases beq_iff_eq.1 takes
    cases takes'

/-- **A text is in one form only.** -/
theorem spell_injective {d : Dialect} {left : String} {n count : Nat} {form other : TestForm}
    (takes : form.takes count = true) (takes' : other.takes count = true)
    (same : form.spell d left n count = other.spell d left n count) : form = other := by
  have aligned : form.lead left = other.lead left → form = other := by
    intro lead
    rw [spell, spell, lead, String.append_right_inj] at same
    have first := List.prefix_append form.words.toList (form.rest d n count).toList
    have second := List.prefix_append other.words.toList (other.rest d n count).toList
    rw [← String.toList_append] at first second
    rw [same] at first
    rcases List.prefix_or_prefix_of_prefix first second with shorter | longer
    · exact eq_of_words_start shorter
    · exact (eq_of_words_start longer).symm
  cases form with
  | constant b => exact aligned (lead_of_spell_constant takes takes' same).symm
  | nullTest negated | equation negated | membership negated =>
    cases other with
    | constant b => exact aligned (lead_of_spell_constant takes' takes same.symm)
    | nullTest b | equation b | membership b => exact aligned rfl

theorem read?_spell (d : Dialect) (left : String) (n : Nat) {count : Nat} {form : TestForm}
    (takes : form.takes count = true) :
    read? d left n count (form.spell d left n count) = some form := by
  cases found : read? d left n count (form.spell d left n count) with
  | none =>
    have other := List.find?_eq_none.1 found form form.mem_all
    simp [takes] at other
  | some other =>
    have fits := List.find?_some found
    rw [Bool.and_eq_true, beq_iff_eq] at fits
    exact congrArg some (spell_injective fits.1 takes fits.2)

end TestForm

/-! ## The rows a text selects -/

/-- The test selects the row: it is in a form whose truth for the row and the parameters is certain.
The test stands behind `n` parameters. -/
def Fragment.Selects (d : Dialect) (left : String) (n : Nat) (row : RowValue) (f : Fragment) :
    Prop :=
  ∃ form, TestForm.read? d left n f.parameters.length (f.sqlFrom d n) = some form ∧
    form.truth row f.parameters = .holds

section Selects

variable {d : Dialect} {n : Nat} {row : RowValue} {l : LeftSide}

theorem Fragment.selects_iff {left : String} {f : Fragment} (form : TestForm)
    (takes : form.takes f.parameters.length = true)
    (text : f.sqlFrom d n = form.spell d left n f.parameters.length) :
    f.Selects d left n row ↔ form.truth row f.parameters = .holds := by
  have read := TestForm.read?_spell d left n takes
  rw [← text] at read
  constructor
  · rintro ⟨other, found, certain⟩
    cases read.symm.trans found
    exact certain
  · intro certain
    exact ⟨form, read, certain⟩

/-- The parameter for a value compared with the column of a left side. -/
def LeftSide.pair (l : LeftSide) (v : Value) : Pair := Pair.forColumn? v l.column

theorem LeftSide.isNull_pair (l : LeftSide) (v : Value) : (l.pair v).value.isNull = v.isNull := by
  rw [pair, Pair.value_forColumn?]

/-- The comparison for equality, or the one for its negation. -/
def Comparison.equality (negated : Bool) : Comparison := if negated then notEqual else equal

/-- The text and the parameters of an equality. -/
def equalityTest (l : LeftSide) (negated : Bool) (v : Value) : Fragment :=
  if v.isNull then [.text (l.expression ++ (TestForm.nullTest negated).words)]
  else [.text (l.expression ++ (TestForm.equation negated).words), .parameter (l.pair v)]

theorem compareTest_equality (s : Scope) (negated : Bool) (v : Value) :
    compareTest d s l (.equality negated) (.value v) = .ok (equalityTest l negated v) := by
  rw [compareTest, equalityTest]
  cases v.isNull with
  | true => cases negated <;> rfl
  | false =>
    have shown : l.expression ++ " " ++ (Comparison.equality negated).symbol ++ " " =
        l.expression ++ (TestForm.equation negated).words := by
      cases negated <;> simp only [String.append_assoc] <;> rfl
    have above : (Comparison.equality negated).boundsAbove = false := by cases negated <;> rfl
    simp only [shown, above, Bool.and_false, Bool.false_eq_true, if_false]
    rfl

/-- Equality with null is a null test, equality with a value compares with it. -/
theorem selects_equalityTest (negated : Bool) (v : Value) :
    (equalityTest l negated v).Selects d l.expression n row ↔
      if v.isNull then (row.isNull != negated) = true
      else (row.equality (l.pair v)).notIf negated = .holds := by
  rw [equalityTest]
  cases v.isNull with
  | true =>
    rw [if_pos rfl, if_pos rfl, Fragment.selects_iff (.nullTest negated) rfl ?_]
    · show TruthValue.ofBool _ = _ ↔ _
      cases row.isNull != negated <;> decide
    · rw [Fragment.sqlFrom_text, Fragment.sqlFrom_nil, String.append_empty]
      show _ = l.expression ++ (_ ++ "")
      rw [String.append_empty]
  | false =>
    rw [if_neg Bool.false_ne_true, if_neg Bool.false_ne_true,
      Fragment.selects_iff (.equation negated) rfl ?_]
    · show (TruthValue.any [row.equality (l.pair v)]).notIf negated = _ ↔ _
      rw [TruthValue.any_singleton]
    · rw [Fragment.sqlFrom_text, Fragment.sqlFrom_parameter, Fragment.sqlFrom_nil,
        String.append_empty, String.append_assoc]
      rfl

/-- Parameters one by one are written as as many placeholders. -/
theorem texts_parameters (ps : List Pair) :
    Fragment.texts d n (ps.map fun p => [.parameter p]) =
      (List.range' (n + 1) ps.length).map d.placeholder := by
  induction ps generalizing n with
  | nil => rfl
  | cons p ps ih =>
    rw [List.map_cons, Fragment.texts, Fragment.sqlFrom_parameter, Fragment.sqlFrom_nil,
      String.append_empty, List.length_cons, List.range'_succ, List.map_cons]
    exact congrArg (_ :: ·) ih

/-- Membership is equality with one of the values, also where these are null. -/
theorem selects_amongTest (negated : Bool) (values : List Value) :
    (amongTest l negated values).Selects d l.expression n row ↔
      (TruthValue.any (values.map fun v => row.equality (l.pair v))).notIf negated = .holds := by
  cases values with
  | nil =>
    rw [Fragment.selects_iff (f := amongTest l negated []) (.constant negated) rfl ?_]
    · show TruthValue.ofBool negated = _ ↔ TruthValue.fails.notIf negated = _
      cases negated <;> decide
    · cases negated <;> rfl
  | cons v vs =>
    have members : (amongTest l negated (v :: vs)) =
        .text (l.expression ++ (TestForm.membership negated).words) ::
          (Fragment.separated ", " (((v :: vs).map l.pair).map fun p => [.parameter p]) ++
            [.text ")"]) := by
      have shown : l.expression ++ " " ++ negation negated ++ "IN (" =
          l.expression ++ (TestForm.membership negated).words := by
        cases negated <;> simp only [String.append_assoc] <;> rfl
      rw [amongTest, shown, List.map_map]
      rfl
    have single : ∀ p : Pair, Fragment.parameters [.parameter p] = [id p] := fun _ => rfl
    have bound : (amongTest l negated (v :: vs)).parameters = (v :: vs).map l.pair := by
      rw [members, Fragment.parameters_text, Fragment.parameters_append,
        Fragment.parameters_separated_map ", " _ single, List.map_id]
      exact List.append_nil _
    have filled : ∀ f ∈ ((v :: vs).map l.pair).map (fun p => [Piece.parameter p]),
        Fragment.writesNothing f = false := by
      intro f member
      obtain ⟨p, -, rfl⟩ := List.mem_map.1 member
      rfl
    rw [Fragment.selects_iff (.membership negated) ?_ ?_, bound]
    · show (TruthValue.any (((v :: vs).map l.pair).map row.equality)).notIf negated = _ ↔ _
      rw [List.map_map]
      rfl
    · rw [bound]
      rfl
    · rw [bound, members, Fragment.sqlFrom_text, Fragment.sqlFrom_append,
        Fragment.sqlFrom_separated d ", " filled, texts_parameters, String.append_assoc]
      rfl

/-- Equality is certain, one way or the other, for the values that are not null and whose test
selects the row. -/
theorem notIf_equality_eq_holds_iff (negated : Bool) (v : Value) :
    (row.equality (l.pair v)).notIf negated = .holds ↔
      v.isNull = false ∧ (equalityTest l negated v).Selects d l.expression n row := by
  rw [selects_equalityTest]
  constructor
  · intro certain
    have decided : row.equality (l.pair v) ≠ .unknown := fun same => by
      rw [same] at certain
      cases negated <;> cases certain
    have known := (row.known_of_equality (l.pair v) decided).2
    rw [l.isNull_pair] at known
    rw [known]
    exact ⟨rfl, certain⟩
  · rintro ⟨content, certain⟩
    rwa [content] at certain

/-- Equality holds for the values that are not null and select the row. -/
theorem equality_eq_holds_iff (v : Value) :
    row.equality (l.pair v) = .holds ↔
      v.isNull = false ∧ (equalityTest l false v).Selects d l.expression n row :=
  notIf_equality_eq_holds_iff false v

/-- It fails for the values that are not null and whose negated equality selects the row. -/
theorem equality_eq_fails_iff (v : Value) :
    row.equality (l.pair v) = .fails ↔
      v.isNull = false ∧ (equalityTest l true v).Selects d l.expression n row :=
  (TruthValue.not_eq_holds_iff _).symm.trans (notIf_equality_eq_holds_iff true v)

/-- Membership selects the rows that equality with a value other than null selects. -/
theorem selects_among_iff (d : Dialect) (n : Nat) (row : RowValue) (l : LeftSide)
    (values : List Value) :
    (amongTest l false values).Selects d l.expression n row ↔
      ∃ v ∈ values, v.isNull = false ∧
        (equalityTest l false v).Selects d l.expression n row := by
  rw [selects_amongTest]
  show TruthValue.any _ = _ ↔ _
  rw [TruthValue.any_eq_holds_iff, List.mem_map]
  simp only [equality_eq_holds_iff (d := d) (n := n)]

/-- Its negation selects the rows that the negated equality selects for all values, if none is
null. -/
theorem selects_notAmong_iff (d : Dialect) (n : Nat) (row : RowValue) (l : LeftSide)
    (values : List Value) :
    (amongTest l true values).Selects d l.expression n row ↔
      ∀ v ∈ values, v.isNull = false ∧
        (equalityTest l true v).Selects d l.expression n row := by
  rw [selects_amongTest]
  show (TruthValue.any _).not = _ ↔ _
  rw [TruthValue.not_eq_holds_iff, TruthValue.any_eq_fails_iff, List.forall_mem_map]
  simp only [equality_eq_fails_iff (d := d) (n := n)]

/-- Membership is one of its equalities, unless it is to find null in the row. -/
theorem among_agrees_iff (d : Dialect) (n : Nat) (row : RowValue) (l : LeftSide)
    (values : List Value) :
    ((amongTest l false values).Selects d l.expression n row ↔
        ∃ v ∈ values, (equalityTest l false v).Selects d l.expression n row) ↔
      ¬(row.isNull = true ∧ ∃ v ∈ values, v.isNull = true) := by
  rw [selects_among_iff]
  constructor
  · rintro agree ⟨nothing, v, member, null⟩
    have found : (equalityTest l false v).Selects d l.expression n row := by
      rw [selects_equalityTest, if_pos null, nothing]
      rfl
    obtain ⟨w, -, content, certain⟩ := agree.2 ⟨v, member, found⟩
    have equality := (equality_eq_holds_iff w).2 ⟨content, certain⟩
    have something := (row.known_of_equality (l.pair w) (by simp [equality])).1
    rw [nothing] at something
    cases something
  · intro apart
    refine ⟨fun ⟨v, member, _, certain⟩ => ⟨v, member, certain⟩, ?_⟩
    rintro ⟨v, member, certain⟩
    cases null : v.isNull with
    | false => exact ⟨v, member, null, certain⟩
    | true =>
      rw [selects_equalityTest, if_pos null, Bool.bne_false] at certain
      exact absurd ⟨certain, v, member, null⟩ apart

/-- Its negation is all of the negated equalities, unless these select the row in spite of a
null. -/
theorem notAmong_agrees_iff (d : Dialect) (n : Nat) (row : RowValue) (l : LeftSide)
    (values : List Value) :
    ((amongTest l true values).Selects d l.expression n row ↔
        ∀ v ∈ values, (equalityTest l true v).Selects d l.expression n row) ↔
      ¬((∃ v ∈ values, v.isNull = true) ∧
        ∀ v ∈ values, (equalityTest l true v).Selects d l.expression n row) := by
  rw [selects_notAmong_iff]
  constructor
  · rintro agree ⟨⟨v, member, null⟩, every⟩
    rw [(agree.2 every v member).1] at null
    cases null
  · intro apart
    refine ⟨fun every v member => (every v member).2, fun every v member => ⟨?_, every v member⟩⟩
    cases null : v.isNull with
    | false => rfl
    | true => exact absurd ⟨⟨v, member, null⟩, every⟩ apart

end Selects

/-- **Membership against equality.** The tests for membership and those for equality with single
values are written for the same columns, and they fail for the same reasons. Membership selects a
row when equality with one of the values does that is not null; its negation does when the negated
equality does for all values and none of them is null. So membership differs from the equalities
exactly at rows of null while there is a null among the values, and its negation exactly where all
negated equalities select the row while there is one. -/
theorem Predicate.render_membership (d : Dialect) (s : Scope) (c : Column) (values : List Value) :
    (∀ e, LeftSide.ofColumn d s c = .error e →
      (∀ negated, (Predicate.among c negated values).render d s = .error e) ∧
        ∀ v, (Predicate.compare c .equal (.value v)).render d s = .error e ∧
          (Predicate.compare c .notEqual (.value v)).render d s = .error e) ∧
    ∀ l, LeftSide.ofColumn d s c = .ok l →
      ∃ (isIn notIn : Fragment) (equal notEqual : Value → Fragment),
        (Predicate.among c false values).render d s = .ok isIn ∧
        (Predicate.among c true values).render d s = .ok notIn ∧
        (∀ v, (Predicate.compare c .equal (.value v)).render d s = .ok (equal v)) ∧
        (∀ v, (Predicate.compare c .notEqual (.value v)).render d s = .ok (notEqual v)) ∧
        ∀ (n : Nat) (row : RowValue),
          (isIn.Selects d l.expression n row ↔
            ∃ v ∈ values, v.isNull = false ∧ (equal v).Selects d l.expression n row) ∧
          (notIn.Selects d l.expression n row ↔
            ∀ v ∈ values, v.isNull = false ∧ (notEqual v).Selects d l.expression n row) ∧
          ((isIn.Selects d l.expression n row ↔
              ∃ v ∈ values, (equal v).Selects d l.expression n row) ↔
            ¬(row.isNull = true ∧ ∃ v ∈ values, v.isNull = true)) ∧
          ((notIn.Selects d l.expression n row ↔
              ∀ v ∈ values, (notEqual v).Selects d l.expression n row) ↔
            ¬((∃ v ∈ values, v.isNull = true) ∧
              ∀ v ∈ values, (notEqual v).Selects d l.expression n row)) := by
  constructor
  · intro e unwritten
    have fails : ∀ next : LeftSide → Except Error Fragment,
        (LeftSide.ofColumn d s c >>= next) = .error e := by
      intro next
      rw [unwritten]
      rfl
    exact ⟨fun _ => fails _, fun v => ⟨fails _, fails _⟩⟩
  intro l left
  have compared : ∀ negated v, (Predicate.compare c (.equality negated) (.value v)).render d s =
      .ok (equalityTest l negated v) := fun negated v =>
    Predicate.render_compare_eq_ok_iff.2 ⟨l, left, compareTest_equality s negated v⟩
  refine ⟨amongTest l false values, amongTest l true values, equalityTest l false,
    equalityTest l true, Predicate.render_among_eq_ok_iff.2 ⟨l, left, rfl⟩,
    Predicate.render_among_eq_ok_iff.2 ⟨l, left, rfl⟩, compared false, compared true, ?_⟩
  intro n row
  exact ⟨selects_among_iff d n row l values, selects_notAmong_iff d n row l values,
    among_agrees_iff d n row l values, notAmong_agrees_iff d n row l values⟩

/-- A test for membership of null alone misses a row of null, and its negation a row of something
else. The comparisons with null select them. -/
theorem Predicate.render_membership_null :
    ∃ isIn notIn equal notEqual,
      (Predicate.among (.ofName "CITY") false [.varchar none]).render .generic usersScope =
        .ok isIn ∧
      (Predicate.among (.ofName "CITY") true [.varchar none]).render .generic usersScope =
        .ok notIn ∧
      (Predicate.compare (.ofName "CITY") .equal (.value (.varchar none))).render .generic
        usersScope = .ok equal ∧
      (Predicate.compare (.ofName "CITY") .notEqual (.value (.varchar none))).render .generic
        usersScope = .ok notEqual ∧
      equal.Selects .generic "CITY" 0 .null ∧ ¬isIn.Selects .generic "CITY" 0 .null ∧
      notEqual.Selects .generic "CITY" 0 (.content fun _ => false) ∧
      ¬notIn.Selects .generic "CITY" 0 (.content fun _ => false) := by
  let l : LeftSide := ⟨none, "CITY"⟩
  refine ⟨amongTest l false [.varchar none], amongTest l true [.varchar none],
    equalityTest l false (.varchar none), equalityTest l true (.varchar none), rfl, rfl, rfl, rfl,
    (selects_equalityTest (l := l) false _).2 rfl, ?_,
    (selects_equalityTest (l := l) true _).2 rfl, ?_⟩
  · intro selects
    cases (selects_amongTest (l := l) false _).1 selects
  · intro selects
    cases (selects_amongTest (l := l) true _).1 selects

end EntitySql
