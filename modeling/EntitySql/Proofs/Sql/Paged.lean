import EntitySql.Proofs.Sql.Clause
import EntitySql.Proofs.Sql.Payloads
import EntitySql.Sql.Paging

/-!
# Paged queries

A paged query has the parameters of the query, and after them those of limit and offset in the
dialects that have these clauses. It is a clause like the query itself: the wrappers of the other
dialects add words and numbers, never a name of the model.
-/

namespace EntitySql

set_option autoImplicit false

open Outcome

variable {d : Dialect} {s : Scope} {q : Query} {w : PageWindow} {f : Fragment}

/-- The two parameters that page a query, where paging has parameters. -/
def Dialect.pagingPair (d : Dialect) (window : Option PageWindow) : List Pair :=
  match window, d.pagination with
  | some w, .limitOffset => [.ofValue (countValue w.size), .ofValue (countValue w.offset)]
  | _, _ => []

namespace Query

/-! ## Paged forms opened -/

theorem renderLimited_eq_ok_iff :
    q.renderLimited d s w = .ok f ↔ ∃ body, q.render d s .standard = .ok body ∧
      body ++ [.text " LIMIT ", .parameter (.ofValue (countValue w.size)),
        .text " OFFSET ", .parameter (.ofValue (countValue w.offset))] = f := by
  simp only [renderLimited, renderPlain, bind_eq_ok, pure_eq_ok]

/-- The expression that numbers rows in an order. -/
def numberColumn (order : String) : String := "ROW_NUMBER() OVER(" ++ order ++ ") AS rn_"

/-- A query of numbered rows has the numbers among its columns. -/
def numberOptions (order : String) : SelectOptions :=
  { SelectOptions.standard with extraColumn := some (numberColumn order), unordered := true }

/-- A distinct query is numbered from outside, any other one in itself. -/
theorem renderNumbered_eq_ok_iff :
    q.renderNumbered d s = .ok f ↔ ∃ order, q.numberingOrder d s = .ok order ∧
      ((q.distinct = true ∧ ∃ body,
          q.render d s { SelectOptions.standard with unordered := true } = .ok body ∧
          .text ("SELECT d_.*, " ++ numberColumn order ++ " FROM (") ::
            (body ++ [.text ") d_"]) = f) ∨
        (q.distinct = false ∧ q.render d s (numberOptions order) = .ok f)) := by
  cases distinct : q.distinct with
  | true =>
    simp only [renderNumbered, distinct, if_true, bind_eq_ok, pure_eq_ok, true_and,
      Bool.true_eq_false, false_and, or_false]
    rfl
  | false =>
    simp only [renderNumbered, distinct, Bool.false_eq_true, if_false, bind_eq_ok, true_and,
      false_and, false_or]
    rfl

theorem renderRowNumber_eq_ok_iff :
    q.renderRowNumber d s w = .ok f ↔ ∃ body, q.renderNumbered d s = .ok body ∧
      .text ("SELECT TOP " ++ toString w.size.toNat ++ " * FROM (") ::
        (body ++ [.text (") p_ WHERE rn_ > " ++ toString w.offset.toNat ++ " ORDER BY rn_")]) =
          f := by
  simp only [renderRowNumber, bind_eq_ok, pure_eq_ok]

theorem renderPseudoOrdered_eq_ok_iff :
    q.renderPseudoOrdered d s w = .ok f ↔ ∃ body, q.render d s .standard = .ok body ∧
      .text "SELECT * FROM (SELECT o_.*, ROWNUM AS rn_ FROM (" ::
        (body ++ [.text (") o_) WHERE rn_ > " ++ toString w.offset.toNat ++ " AND rn_ <= " ++
          toString w.last.toNat)]) = f := by
  simp only [renderPseudoOrdered, renderPlain, bind_eq_ok, pure_eq_ok]

/-- A query that reads the pseudo column itself has it among its columns and bounds it in its
condition. -/
def directOptions (w : PageWindow) : SelectOptions :=
  { SelectOptions.standard with
    extraColumn := some "ROWNUM AS rn_"
    extraCondition := some ("ROWNUM <= " ++ toString w.last.toNat) }

theorem renderPseudoDirect_eq_ok_iff :
    q.renderPseudoDirect d s w = .ok f ↔ ∃ body, q.render d s (directOptions w) = .ok body ∧
      .text "SELECT * FROM (" ::
        (body ++ [.text (") WHERE rn_ > " ++ toString w.offset.toNat)]) = f := by
  simp only [renderPseudoDirect, bind_eq_ok, pure_eq_ok]
  rfl

theorem renderPseudoWrapped_eq_ok_iff :
    q.renderPseudoWrapped d s w = .ok f ↔ ∃ body, q.render d s .standard = .ok body ∧
      .text "SELECT * FROM (SELECT b_.*, ROWNUM AS rn_ FROM (" ::
        (body ++ [.text (") b_ WHERE ROWNUM <= " ++ toString w.last.toNat ++
          ") WHERE rn_ > " ++ toString w.offset.toNat)]) = f := by
  simp only [renderPseudoWrapped, renderPlain, bind_eq_ok, pure_eq_ok]

/-! ## Parameters -/

theorem parameters_renderNumbered (h : q.renderNumbered d s = .ok f) :
    Fragment.parameters f = q.payloads s := by
  obtain ⟨order, _, ⟨_, body, written, rfl⟩ | ⟨_, written⟩⟩ := renderNumbered_eq_ok_iff.1 h
  · simp [q.parameters_render written]
  · exact q.parameters_render written

/-- **A paged query binds the values of the query,** then limit and offset where it has them. -/
theorem parameters_renderPaged {state : PageState} (h : q.renderPaged d s state = .ok f) :
    Fragment.parameters f = q.payloads s ++ d.pagingPair state.window? := by
  unfold renderPaged at h
  split at h
  · rename_i unpaged
    simp [unpaged, Dialect.pagingPair, q.parameters_render h]
  · rename_i w paged
    split at h
    · rename_i limited
      obtain ⟨body, written, rfl⟩ := renderLimited_eq_ok_iff.1 h
      simp [paged, limited, Dialect.pagingPair, q.parameters_render written]
    · rename_i numbered
      obtain ⟨body, written, rfl⟩ := renderRowNumber_eq_ok_iff.1 h
      simp [paged, numbered, Dialect.pagingPair, parameters_renderNumbered written]
    · rename_i pseudo
      have none : d.pagingPair state.window? = [] := by simp [paged, pseudo, Dialect.pagingPair]
      rw [none, List.append_nil]
      split at h
      · obtain ⟨body, written, rfl⟩ := renderPseudoOrdered_eq_ok_iff.1 h
        simp [q.parameters_render written]
      · split at h
        · obtain ⟨body, written, rfl⟩ := renderPseudoDirect_eq_ok_iff.1 h
          simp [q.parameters_render written]
        · obtain ⟨body, written, rfl⟩ := renderPseudoWrapped_eq_ok_iff.1 h
          simp [q.parameters_render written]

/-! ## Clauses -/

variable {admits : Wording → Prop}

theorem phrase_count (n : Nat) : Phrase d admits (toString n) :=
  .plain ((consists_toString_nat n).mono fun _ => isPlainChar_of_isDigit)

theorem phrase_numberColumn {order : String} (h : Phrase d admits order) :
    Phrase d admits (numberColumn order) := by
  have function : Phrase d admits ("ROW_NUMBER" ++ "(" ++ "" ++ ")") := .call (.word rfl rfl) .empty
  have window : Phrase d admits (" OVER" ++ "(" ++ order ++ ")") := .call (.word rfl rfl) h
  have label : Phrase d admits " AS rn_" := .word rfl rfl
  unfold numberColumn
  exact .of_toList (by simp) ((function.append window).append label)

/-- The order of the numbers is a phrase: its terms are labels or expressions of the query. -/
theorem phrase_numberingOrder {order : String} (h : q.numberingOrder d s = .ok order)
    (own : ∀ w ∈ q.wordings, admits w) (scope : ∀ w ∈ s.wordings, admits w) :
    Phrase d admits order := by
  have terms : ∀ o ∈ q.orderBy, ∀ w ∈ o.column.wordings, admits w :=
    fun o member w mentioned => own w (mem_wordings_of_term mentioned member)
  unfold numberingOrder at h
  split at h
  · cases h
    have constant : Phrase d admits ("(" ++ "SELECT 0" ++ ")") := .parens (.word rfl rfl)
    have keyword : Phrase d admits "ORDER BY " := .word rfl rfl
    exact keyword.append constant
  · split at h
    · obtain ⟨texts, rendered, rfl⟩ := map_eq_ok.1 h
      refine (Phrase.word rfl rfl).append (.intercalate (by decide) _
        (forall_of_mapM rendered fun o member t text => ?_))
      unfold derivedTerm at text
      split at text
      · rename_i c found
        cases text
        have label : admits (.identifier c.label) :=
          own _ (mem_wordings_of_selected c.identifier_label_mem (List.mem_of_find?_eq_some found))
        refine (Phrase.identifier label).append (.plain ?_)
        cases o.direction <;> decide
      · exact Ordered.phrase_render text (terms o member) scope
    · exact phrase_orderClause h terms scope

theorem clause_renderNumbered (h : q.renderNumbered d s = .ok f)
    (own : ∀ w ∈ q.wordings, admits w) (scope : ∀ w ∈ s.wordings, admits w) :
    Clause d admits f := by
  obtain ⟨order, found, form⟩ := renderNumbered_eq_ok_iff.1 h
  have column := phrase_numberColumn (phrase_numberingOrder found own scope)
  rcases form with ⟨_, body, written, rfl⟩ | ⟨_, written⟩
  · have clause := q.clause_render written own scope ⟨nofun, nofun⟩
    have before : Phrase d admits ("SELECT d_.*, " ++ numberColumn order ++ " FROM ") :=
      ((Phrase.word rfl rfl).append column).append (.word rfl rfl)
    exact clause.enclosed _ " d_" before (.word rfl rfl) rfl (by simp) (by simp)
  · refine q.clause_render written own scope ⟨?_, nofun⟩
    rintro _ ⟨⟩
    exact column

/-- A bound on row numbers. -/
theorem phrase_bound {words : String} (n : Nat) {cs : List Char}
    (same : words = String.ofList cs) (h : cs.all isPlainChar = true) :
    Phrase d admits (words ++ toString n) :=
  (Phrase.word same h).append (phrase_count n)

theorem clause_renderPlain (h : q.render d s .standard = .ok f)
    (own : ∀ w ∈ q.wordings, admits w) (scope : ∀ w ∈ s.wordings, admits w) :
    Clause d admits f :=
  q.clause_render h own scope SelectOptions.standard_arePhrases

theorem clause_renderLimited (h : q.renderLimited d s w = .ok f)
    (own : ∀ w ∈ q.wordings, admits w) (scope : ∀ w ∈ s.wordings, admits w) :
    Clause d admits f := by
  obtain ⟨body, written, rfl⟩ := renderLimited_eq_ok_iff.1 h
  have offset : Clause d admits [.text " OFFSET ", .parameter (.ofValue (countValue w.offset))] :=
    .text (.word rfl rfl) (.parameter _)
  have limit : Clause d admits [.text " LIMIT ", .parameter (.ofValue (countValue w.size)),
      .text " OFFSET ", .parameter (.ofValue (countValue w.offset))] :=
    .text (.word rfl rfl) (.append (f := [_]) (.parameter _) offset rfl)
  exact (clause_renderPlain written own scope).append limit rfl

theorem clause_renderRowNumber (h : q.renderRowNumber d s w = .ok f)
    (own : ∀ w ∈ q.wordings, admits w) (scope : ∀ w ∈ s.wordings, admits w) :
    Clause d admits f := by
  obtain ⟨body, written, rfl⟩ := renderRowNumber_eq_ok_iff.1 h
  have before : Phrase d admits ("SELECT TOP " ++ toString w.size.toNat ++ " * FROM ") :=
    (phrase_bound _ rfl rfl).append (.word rfl rfl)
  have after : Phrase d admits (" p_ WHERE rn_ > " ++ toString w.offset.toNat ++ " ORDER BY rn_") :=
    (phrase_bound _ rfl rfl).append (.word rfl rfl)
  have clear : Fragment.leadsClear
      [.text (" p_ WHERE rn_ > " ++ toString w.offset.toNat ++ " ORDER BY rn_")] = true := by
    rw [String.append_assoc]
    exact Fragment.leadsClear_word rfl rfl
  exact (clause_renderNumbered written own scope).enclosed _ _ before after clear (by simp)
    (by simp)

theorem clause_renderPseudoOrdered (h : q.renderPseudoOrdered d s w = .ok f)
    (own : ∀ w ∈ q.wordings, admits w) (scope : ∀ w ∈ s.wordings, admits w) :
    Clause d admits f := by
  obtain ⟨body, written, rfl⟩ := renderPseudoOrdered_eq_ok_iff.1 h
  have bounds : Phrase d admits (" WHERE rn_ > " ++ toString w.offset.toNat ++
      (" AND rn_ <= " ++ toString w.last.toNat)) :=
    (phrase_bound _ rfl rfl).append (phrase_bound _ rfl rfl)
  have clear : Fragment.leadsClear [.text (" WHERE rn_ > " ++ toString w.offset.toNat ++
      (" AND rn_ <= " ++ toString w.last.toNat))] = true := by
    rw [String.append_assoc]
    exact Fragment.leadsClear_word rfl rfl
  exact (clause_renderPlain written own scope).enclosedTwice "SELECT * FROM "
    "SELECT o_.*, ROWNUM AS rn_ FROM " " o_" _ (.word rfl rfl) (.word rfl rfl) (.word rfl rfl)
    bounds ⟨rfl, clear⟩ (by simp) (by simp)

theorem clause_renderPseudoDirect (h : q.renderPseudoDirect d s w = .ok f)
    (own : ∀ w ∈ q.wordings, admits w) (scope : ∀ w ∈ s.wordings, admits w) :
    Clause d admits f := by
  obtain ⟨body, written, rfl⟩ := renderPseudoDirect_eq_ok_iff.1 h
  have options : (directOptions w).ArePhrases d admits := by
    refine ⟨?_, ?_⟩
    · rintro _ ⟨⟩
      exact .word rfl rfl
    · rintro _ ⟨⟩
      exact phrase_bound _ rfl rfl
  exact (q.clause_render written own scope options).enclosed "SELECT * FROM "
    (" WHERE rn_ > " ++ toString w.offset.toNat) (.word rfl rfl) (phrase_bound _ rfl rfl)
    (Fragment.leadsClear_word rfl rfl) (by simp) (by simp)

theorem clause_renderPseudoWrapped (h : q.renderPseudoWrapped d s w = .ok f)
    (own : ∀ w ∈ q.wordings, admits w) (scope : ∀ w ∈ s.wordings, admits w) :
    Clause d admits f := by
  obtain ⟨body, written, rfl⟩ := renderPseudoWrapped_eq_ok_iff.1 h
  exact (clause_renderPlain written own scope).enclosedTwice "SELECT * FROM "
    "SELECT b_.*, ROWNUM AS rn_ FROM " (" b_ WHERE ROWNUM <= " ++ toString w.last.toNat)
    (" WHERE rn_ > " ++ toString w.offset.toNat) (.word rfl rfl) (.word rfl rfl)
    (phrase_bound _ rfl rfl) (phrase_bound _ rfl rfl)
    ⟨Fragment.leadsClear_word rfl rfl, Fragment.leadsClear_word rfl rfl⟩
    (by simp) (by simp)

/-- **A paged query is a clause** of the wordings of the query. -/
theorem clause_renderPaged {state : PageState} (h : q.renderPaged d s state = .ok f)
    (own : ∀ w ∈ q.wordings, admits w) (scope : ∀ w ∈ s.wordings, admits w) :
    Clause d admits f := by
  unfold renderPaged at h
  split at h
  · exact clause_renderPlain h own scope
  · split at h
    · exact clause_renderLimited h own scope
    · exact clause_renderRowNumber h own scope
    · split at h
      · exact clause_renderPseudoOrdered h own scope
      · split at h
        · exact clause_renderPseudoDirect h own scope
        · exact clause_renderPseudoWrapped h own scope

end Query

end EntitySql
