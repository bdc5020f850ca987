import EntitySql.Proofs.Condition.Dropped
import EntitySql.Proofs.Condition.Expressions

/-!
# Reading tests

The text of a predicate reads as one operand (`Predicate.reads`): as a test, or as the group of two
tests that looks for an empty text. For this the verbatim wordings of its columns have to be
keyword-free; those of a sub-query, which stands in parentheses, only have to be closed.
-/

namespace EntitySql

set_option autoImplicit false

open Outcome

variable {d : Dialect} {s : Scope} {f : Fragment}

/-- The text of what was written; empty if nothing could be. -/
def writtenText (d : Dialect) (n : Nat) : Except Error Fragment → List Char
  | .ok f => (f.sqlFrom d n).toList
  | .error _ => []

/-- The expression of the column; empty if there is none. -/
def Column.expression (d : Dialect) (s : Scope) (c : Column) : String :=
  match c.render d s with
  | .ok t => t
  | .error _ => ""

namespace Predicate

/-- The two tests that look for an empty text or null. -/
def emptyTests (expression : String) (negated : Bool) : List (Connective × List Char) :=
  if negated then
    [(.and, (expression ++ " <> ''").toList), (.and, (expression ++ " IS NOT NULL").toList)]
  else [(.and, (expression ++ " = ''").toList), (.or, (expression ++ " IS NULL").toList)]

/-- The test a predicate is, with `n` parameters before it. One for an empty text is a group of two
tests, except for the dialect that has no empty texts. -/
def tree (d : Dialect) (s : Scope) (n : Nat) (p : Predicate) : TestTree :=
  match d, p with
  | .oracle, p => .test (trim (writtenText .oracle n (p.render .oracle s)))
  | d, .isEmpty c negated =>
    .group (assemble ((emptyTests (c.expression d s) negated).map fun test =>
      (test.1, .test (trim test.2))))
  | d, p => .test (trim (writtenText d n (p.render d s)))

/-- What the predicate writes verbatim leaves its text legible. -/
def Legible (d : Dialect) : Predicate → Prop
  | .hasRows _ q => ∀ w ∈ q.wordings, w.Closed d
  | p => ∀ w ∈ p.wordings, w.KeywordFree d

instance (d : Dialect) (p : Predicate) : Decidable (p.Legible d) :=
  match p with
  | .hasRows _ q => inferInstanceAs (Decidable (∀ w ∈ q.wordings, w.Closed d))
  | .compare c k operand =>
    inferInstanceAs (Decidable (∀ w ∈ (compare c k operand).wordings, w.KeywordFree d))
  | .like c place negated part =>
    inferInstanceAs (Decidable (∀ w ∈ (like c place negated part).wordings, w.KeywordFree d))
  | .among c negated values =>
    inferInstanceAs (Decidable (∀ w ∈ (among c negated values).wordings, w.KeywordFree d))
  | .isNull c negated =>
    inferInstanceAs (Decidable (∀ w ∈ (isNull c negated).wordings, w.KeywordFree d))
  | .isEmpty c negated =>
    inferInstanceAs (Decidable (∀ w ∈ (isEmpty c negated).wordings, w.KeywordFree d))
  | .between c low high =>
    inferInstanceAs (Decidable (∀ w ∈ (between c low high).wordings, w.KeywordFree d))

end Predicate

/-! ## Parts of tests -/

/-- A solid text reads as a test. -/
theorem Solid.reads {cs : List Char} (h : Solid d cs) : Reads d cs (.test (trim cs)) := by
  obtain ⟨is, lexical, rfl, checked⟩ := lexesTo_iff.1 h
  obtain ⟨free, one⟩ := Bool.and_eq_true_iff.1 checked
  obtain ⟨l, member, makesTest⟩ := List.any_eq_true.1 one
  refine ⟨is, lexical, rfl, .of_keywordFree (keyword?_of_keywordFree free), ?_⟩
  rw [operand?_of_solid member makesTest, lexemes, flatMap_text_lexemesFrom, List.nil_append]

theorem keywordFree_placeholder (n : Nat) : KeywordFree d (d.placeholder n).toList := by
  have sign : ∀ e : Dialect, KeywordFree e "?".toList := fun e => by cases e <;> decide +kernel
  cases d with
  | postgres =>
    have digits : KeywordFree .postgres (toString n).toList :=
      keywordFree_number ((consists_toString_nat n).mono fun _ => isNumberChar_of_isDigit)
    have dollar : (Item.char '$').Lexical .postgres := by
      refine ⟨by decide, by decide, by decide⟩
    have whole := KeywordFree.nil.around digits dollar rfl
    simpa [Dialect.placeholder, Item.text] using whole
  | generic | mysql | h2 | sqlServer | oracle => exact sign _

/-- A range reads as one test: its `AND` belongs to it. -/
theorem reads_range {a b e cs : List Char} (first : KeywordFree d a) (second : KeywordFree d b)
    (third : KeywordFree d e)
    (text : cs =
      a ++ ' ' :: ("BETWEEN".toList ++ ' ' :: (b ++ ' ' :: ("AND".toList ++ ' ' :: e)))) :
    Reads d cs (.test (trim cs)) := by
  obtain ⟨xs, lexicalFirst, rfl, freeFirst⟩ := lexesTo_iff.1 first
  obtain ⟨ys, lexicalSecond, rfl, freeSecond⟩ := lexesTo_iff.1 second
  obtain ⟨zs, lexicalThird, rfl, freeThird⟩ := lexesTo_iff.1 third
  have words : ∀ w ∈ ["BETWEEN", "AND"],
      w.toList ≠ [] ∧ Consists isPlainChar w ∧ Consists isWordChar w := by
    decide
  obtain ⟨notEmptyBetween, plainBetween, lettersBetween⟩ := words "BETWEEN" (by decide)
  obtain ⟨notEmptyAnd, plainAnd, lettersAnd⟩ := words "AND" (by decide)
  obtain ⟨lexicalBetween, textBetween⟩ := Item.allLexical_chars (d := d) plainBetween
  obtain ⟨lexicalAnd, textAnd⟩ := Item.allLexical_chars (d := d) plainAnd
  let after := .char ' ' :: ("AND".toList.map .char ++ .char ' ' :: zs)
  let is := xs ++ .char ' ' :: ("BETWEEN".toList.map .char ++ .char ' ' :: (ys ++ after))
  have split : lexemes is = (lexemes xs ++ [.mark ' ']) ++ Lexeme.word "BETWEEN".toList ::
      ((.mark ' ' :: lexemes ys ++ [.mark ' ']) ++ Lexeme.word "AND".toList ::
        (.mark ' ' :: lexemes zs)) := by
    rw [lexemes_spaced lettersBetween notEmptyBetween, lexemes_spaced lettersAnd notEmptyAnd]
    simp
  have lexical : Item.AllLexical d is := by
    have blank : (Item.char ' ').Lexical d := lexical_blank
    refine Item.allLexical_append.2 ⟨lexicalFirst, blank, ?_⟩
    refine Item.allLexical_append.2 ⟨lexicalBetween, blank, ?_⟩
    refine Item.allLexical_append.2 ⟨lexicalSecond, blank, ?_⟩
    exact Item.allLexical_append.2 ⟨lexicalAnd, blank, lexicalThird⟩
  have same : Item.allText is = cs := by
    simp only [is, after, Item.allText_append, Item.allText, Item.text, textBetween, textAnd, text]
    rfl
  have free : ∀ ls, keywordFree ls = true → ∀ l ∈ ls, l.keyword? = none :=
    fun ls => keyword?_of_keywordFree
  refine ⟨is, lexical, same, ?_, ?_⟩
  · rw [split]
    refine Passes.range (free _ ?_) (free _ ?_) (free _ ?_) rfl rfl
    · rw [keywordFree_append, freeFirst]
      rfl
    · rw [keywordFree_append, keywordFree_cons, freeSecond]
      rfl
    · rw [keywordFree_cons, freeThird]
      rfl
  · have member : Lexeme.word "BETWEEN".toList ∈ lexemes is := by
      rw [split]
      simp
    rw [operand?_of_solid member rfl, lexemes, flatMap_text_lexemesFrom, List.nil_append, same]

/-! ## Predicates -/

namespace Predicate

/-- The tree of a predicate that is one test. -/
theorem tree_of_render {p : Predicate} (h : p.render d s = .ok f)
    (single : d = .oracle ∨ ∀ c negated, p ≠ .isEmpty c negated) (n : Nat) :
    p.tree d s n = .test (trim (f.sqlFrom d n).toList) := by
  unfold tree
  split
  · rw [h]
    rfl
  · rename_i c negated notOracle
    rcases single with oracle | other
    · exact absurd oracle notOracle
    · exact absurd rfl (other c negated)
  · rw [h]
    rfl

theorem tree_isEmpty {c : Column} {negated : Bool} (notOracle : d ≠ .oracle) (n : Nat) :
    (Predicate.isEmpty c negated).tree d s n =
      .group (assemble ((emptyTests (c.expression d s) negated).map fun test =>
        (test.1, .test (trim test.2)))) := by
  cases d with
  | oracle => exact absurd rfl notOracle
  | generic | mysql | postgres | h2 | sqlServer => rfl

/-- The text that looks for an empty text is a pair of parentheses around its two tests. -/
theorem toList_emptyTest (notOracle : d ≠ .oracle) (left : String) (negated : Bool) :
    (d.emptyTest left negated).toList =
      '(' :: (chainText (emptyTests left negated) ++ [')']) := by
  cases d with
  | oracle => exact absurd rfl notOracle
  | generic | mysql | postgres | h2 | sqlServer =>
    cases negated <;>
      simp [Dialect.emptyTest, emptyTests, chainText, chainAfter, Connective.spaced]

theorem readsEach_emptyTests {left : String} (free : KeywordFree d left.toList) (negated : Bool) :
    ReadsEach d (emptyTests left negated)
      ((emptyTests left negated).map fun test => (test.1, .test (trim test.2))) := by
  have each : ∀ word : String, Solid d word.toList →
      Reads d (left ++ (" " ++ word)).toList (.test (trim (left ++ (" " ++ word)).toList)) := by
    intro word makesTest
    have whole := (Solid.blank_after free makesTest).reads
    simpa using whole
  have words : ∀ word ∈ ["<> ''", "IS NOT NULL", "= ''", "IS NULL"], Solid d word.toList := by
    cases d <;> decide +kernel
  cases negated with
  | true =>
    exact .cons ⟨rfl, each "<> ''" (words _ (by decide))⟩
      (.cons ⟨rfl, each "IS NOT NULL" (words _ (by decide))⟩ .nil)
  | false =>
    exact .cons ⟨rfl, each "= ''" (words _ (by decide))⟩
      (.cons ⟨rfl, each "IS NULL" (words _ (by decide))⟩ .nil)

variable {c : Column} {l : LeftSide} {k : Comparison} {operand : Operand} {negated : Bool}

theorem keywordFree_expression (found : LeftSide.ofColumn d s c = .ok l)
    (own : ∀ w ∈ c.wordings, w.KeywordFree d) (scope : ∀ w ∈ s.wordings, w.KeywordFree d) :
    KeywordFree d l.expression.toList :=
  c.keywordFree_render (LeftSide.ofColumn_eq_ok_iff.1 found).2 own scope

/-- A comparison reads as one test, whether it is with null, a value or a column. -/
theorem reads_compareTest (expression : KeywordFree d l.expression.toList)
    (written : compareTest d s l k operand = .ok f)
    (operandFree : ∀ other right, operand = .column other → other.render d s = .ok right →
      KeywordFree d right.toList) (n : Nat) :
    Reads d (f.sqlFrom d n).toList (.test (trim (f.sqlFrom d n).toList)) := by
  have symbol : Solid d k.symbol.toList := by
    cases k <;> cases d <;> decide +kernel
  refine Solid.reads ?_
  rcases compareTest_eq_ok written with
    ⟨v, _, _, rfl⟩ | ⟨v, _, _, rfl⟩ | ⟨other, right, same, second, rfl⟩
  · have words : ∀ word ∈ ["IS NULL", "IS NOT NULL"], Solid d word.toList := by
      cases d <;> decide +kernel
    split
    · simpa using Solid.blank_after expression (words "IS NULL" (by decide))
    · simpa using Solid.blank_after expression (words "IS NOT NULL" (by decide))
  · have right := symbol.blank_before (keywordFree_placeholder (n + 1))
    simpa [LeftSide.parameter] using Solid.blank_after expression right
  · have right := symbol.blank_before (operandFree other right same second)
    simpa using Solid.blank_after expression right

/-- Membership reads as one test, also where the list is empty and a constant stands for it. -/
theorem reads_amongTest (expression : KeywordFree d l.expression.toList) (values : List Value)
    (n : Nat) :
    Reads d ((amongTest l negated values).sqlFrom d n).toList
      (.test (trim ((amongTest l negated values).sqlFrom d n).toList)) := by
  refine Solid.reads ?_
  unfold amongTest
  split
  · have constants : ∀ word ∈ ["1=1", "1=0"], Solid d word.toList := by
      cases d <;> decide +kernel
    cases negated with
    | true => simpa using constants "1=1" (by decide)
    | false => simpa using constants "1=0" (by decide)
  · have word : Solid d (negation negated ++ "IN ").toList := by
      cases negated <;> cases d <;> decide +kernel
    have members : Clause d (Wording.Closed d)
        (Fragment.separated ", " (values.map fun v => [l.parameter v])) := clause_members values
    have right := word.parens (members.closed_sqlFrom n)
    simpa [Fragment.sqlFrom_append] using Solid.blank_after expression right

/-- Looking for an empty text reads as one test in Oracle, and as a group of two elsewhere. -/
theorem reads_isEmpty (h : (isEmpty c negated).render d s = .ok f)
    (own : ∀ w ∈ c.wordings, w.KeywordFree d) (scope : ∀ w ∈ s.wordings, w.KeywordFree d)
    (n : Nat) : Reads d (f.sqlFrom d n).toList ((isEmpty c negated).tree d s n) := by
  obtain ⟨l, found, rfl⟩ := render_isEmpty_eq_ok_iff.1 h
  have expression := keywordFree_expression found own scope
  by_cases oracle : d = .oracle
  · rw [tree_of_render h (.inl oracle)]
    subst oracle
    have word : Solid .oracle ("IS " ++ negation negated ++ "NULL").toList := by
      cases negated <;> decide +kernel
    refine Solid.reads ?_
    simpa [Dialect.emptyTest] using Solid.blank_after expression word
  · have same : c.expression d s = l.expression := by
      rw [Column.expression, (LeftSide.ofColumn_eq_ok_iff.1 found).2]
    have group := Reads.group (readsEach_emptyTests expression negated) (by
      cases negated <;> exact List.cons_ne_nil _ _)
    have text : (Fragment.sqlFrom d n [.text (d.emptyTest l.expression negated)]).toList =
        '(' :: (chainText (emptyTests l.expression negated) ++ [')']) := by
      rw [← toList_emptyTest oracle]
      simp
    rw [text, tree_isEmpty oracle, same]
    exact group

/-- **The text of a predicate reads as its tree.** -/
theorem reads {p : Predicate} (h : p.render d s = .ok f) (kept : p.isDropped = false)
    (legible : p.Legible d) (scope : ∀ w ∈ s.wordings, w.KeywordFree d) (n : Nat) :
    Reads d (f.sqlFrom d n).toList (p.tree d s n) := by
  cases p with
  | compare c k operand =>
    obtain ⟨l, found, written⟩ := render_compare_eq_ok_iff.1 h
    rw [tree_of_render h (.inr (by simp))]
    simp only [Legible, wordings, List.mem_append] at legible
    have expression := keywordFree_expression found (fun w member => legible w (.inl member)) scope
    refine reads_compareTest expression written (fun other right same second => ?_) n
    subst same
    exact other.keywordFree_render second (fun w member => legible w (.inr member)) scope
  | like c place negated part =>
    obtain ⟨l, text, found, _, rfl⟩ := render_like_eq_ok_iff.1 h
    rw [tree_of_render h (.inr (by simp))]
    have word : Solid d (negation negated ++ "LIKE").toList := by
      cases negated <;> cases d <;> decide +kernel
    have right := word.blank_before (keywordFree_placeholder (n + 1))
    refine Solid.reads ?_
    simpa using Solid.blank_after (keywordFree_expression found legible scope) right
  | among c negated values =>
    obtain ⟨l, found, rfl⟩ := render_among_eq_ok_iff.1 h
    rw [tree_of_render h (.inr (by simp))]
    exact reads_amongTest (keywordFree_expression found legible scope) values n
  | isNull c negated =>
    obtain ⟨l, found, rfl⟩ := render_isNull_eq_ok_iff.1 h
    rw [tree_of_render h (.inr (by simp))]
    have word : Solid d ("IS " ++ negation negated ++ "NULL").toList := by
      cases negated <;> cases d <;> decide +kernel
    refine Solid.reads ?_
    simpa using Solid.blank_after (keywordFree_expression found legible scope) word
  | isEmpty c negated => exact reads_isEmpty h legible scope n
  | between c low high =>
    obtain ⟨l, found, written⟩ := render_between_eq_ok_iff.1 h
    rw [tree_of_render h (.inr (by simp))]
    rcases betweenTest_eq_ok written with ⟨lowNull, highNull, _⟩ | ⟨_, _, rfl⟩
    · simp [isDropped, lowNull, highNull] at kept
    · refine reads_range (keywordFree_expression found legible scope)
        (keywordFree_placeholder (n + 1)) (keywordFree_placeholder (n + 1 + 1)) ?_
      simp [LeftSide.parameter]
  | hasRows negated q =>
    obtain ⟨inner, body, entered, written, rfl⟩ := render_hasRows_eq_ok_iff.1 h
    rw [tree_of_render h (.inr (by simp))]
    have word : Solid d (negation negated ++ "EXISTS ").toList := by
      cases negated <;> cases d <;> decide +kernel
    have bodyClause : Clause d (Wording.Closed d) body :=
      Query.clause_render q written legible
        (Scope.admits_of_inside entered legible fun w member => (scope w member).closed)
        SelectOptions.standard_arePhrases
    refine Solid.reads ?_
    simpa [Fragment.sqlFrom_append] using word.parens (bodyClause.closed_sqlFrom n)

end Predicate

end EntitySql
