import EntitySql.Proofs.Paging.Counting
import EntitySql.Proofs.Sql.Selections

/-!
# What is selected

A query that names columns selects them in order and, after them, those terms of its order that no
selected column stands for (`Query.injected`). In its statement this list stands between the keyword
and the table, paged or not; only where the query numbers its own rows does an expression follow it,
which is that of the numbers (`Query.exists_selectList`).
-/

namespace EntitySql

set_option autoImplicit false

open Outcome

variable {d : Dialect} {s : Scope} {q : Query}

/-- What is selected is the keyword, the list and one more expression, if there is one. -/
theorem selectHead_eq_ok_iff {options : SelectOptions} (rows : options.count = false)
    {distinct : Bool} {columns : List Column} {f : Fragment} :
    selectHead d s options distinct columns = .ok f ↔ ∃ list, selectList d s columns = .ok list ∧
      .text (if distinct then "SELECT DISTINCT " else "SELECT ") ::
        (list ++ SelectParts.columnText options.extraColumn) = f := by
  rw [selectHead, rows, if_neg Bool.false_ne_true]
  simp only [bind_eq_ok, pure_eq_ok]
  cases options.extraColumn <;> rfl

namespace Query

/-- A query is what is selected, the keyword for the tables and the clauses behind it. -/
theorem exists_head {options : SelectOptions} {f : Fragment} (h : q.render d s options = .ok f) :
    ∃ head tail, selectHead d s options q.distinct (selected q.columns q.orderBy) = .ok head ∧
      f = head ++ .text " FROM " :: tail := by
  obtain ⟨_, head, _, _, _, _, _, _, _, selects, _, _, _, _, _, _, rfl⟩ := render_eq_ok_iff.1 h
  exact ⟨head, _, selects, rfl⟩

/-- The columns that are selected besides the requested ones, to order by them. -/
def injected (q : Query) : List Column :=
  if selectsAll q.columns then [] else addedTerms q.columns q.orderBy

theorem selected_eq_append (some : q.columns ≠ []) :
    selected q.columns q.orderBy = q.columns ++ q.injected := by
  rw [selected, injected, List.isEmpty_eq_false_iff.2 some, Bool.false_or]
  split
  · exact (List.append_nil _).symm
  · exact withTerms_eq_append _ _

theorem addedTerms_sublist (columns : List Column) (terms : List Ordered) :
    (addedTerms columns terms).Sublist (terms.map fun o => o.column) := by
  induction terms generalizing columns with
  | nil => exact List.Sublist.slnil
  | cons term rest ih =>
    rw [addedTerms, List.map_cons]
    split
    · exact (ih columns).cons _
    · exact (ih _).cons_cons _

/-- Injected columns are terms to order by, in their order. -/
theorem injected_sublist (q : Query) : q.injected.Sublist (q.orderBy.map fun o => o.column) := by
  rw [injected]
  split
  · exact List.nil_sublist _
  · exact addedTerms_sublist _ _

/-- The expression that numbers the rows of a window beside the columns of the query. All rows are
selected without numbers, and so is a window by limit and offset; numbers that stand around the
query are none of its columns. -/
def shownNumber (d : Dialect) (q : Query) (sorting : String) : Option PageWindow → Option String
  | none => none
  | some _ =>
    match d.pagination with
    | .limitOffset => none
    | .rowNumber => if q.distinct then none else some (numberColumn sorting)
    | .pseudoRowNumber =>
      if q.orderBy.isEmpty && q.readsPseudoColumn then some "ROWNUM AS rn_" else none

theorem extraColumn_frame (sorting : String) (window : Option PageWindow) :
    (q.frame d sorting window).options.extraColumn = q.shownNumber d sorting window := by
  cases window with
  | none => rfl
  | some w =>
    rw [frame, pagedForm, shownNumber]
    cases d.pagination with
    | limitOffset => rfl
    | rowNumber => cases q.distinct <;> rfl
    | pseudoRowNumber => cases q.orderBy.isEmpty <;> cases q.readsPseudoColumn <;> rfl

/-- The statement of a query selects its columns. -/
theorem count_frame (sorting : String) (window : Option PageWindow) :
    (q.frame d sorting window).options.count = false := by
  cases window with
  | none => rfl
  | some w => exact PagedForm.count_options_frame _

/-- A statement leaves out the order of its query only where the order is that of the numbers. -/
theorem numbered_of_unordered {sorting : String} {window : Option PageWindow}
    (unordered : (q.frame d sorting window).options.unordered = true) :
    d.pagination = .rowNumber ∧ window.isSome = true := by
  cases window with
  | none => cases unordered
  | some w =>
    refine ⟨?_, rfl⟩
    rw [frame, pagedForm] at unordered
    cases paging : d.pagination with
    | rowNumber => rfl
    | limitOffset =>
      rw [paging] at unordered
      cases unordered
    | pseudoRowNumber =>
      rw [paging] at unordered
      dsimp only at unordered
      split at unordered
      · split at unordered <;> cases unordered
      · cases unordered

/-- The text of a query that selects a list, with one more expression if there is one. -/
def selecting (q : Query) (list : List String) (extra : Option String) (tail : Fragment) :
    Fragment :=
  .text (if q.distinct then "SELECT DISTINCT " else "SELECT ") ::
    (separatedTexts ", " list ++ SelectParts.columnText extra ++ .text " FROM " :: tail)

/-- **The requested columns and the injected ones after them** are the select list of a statement,
with the expression of the numbers behind it where the query numbers its own rows. Around the query
there is only its frame. -/
theorem exists_selectList {window : Option PageWindow} {st : Statement} (some : q.columns ≠ [])
    (h : q.compile d window = .ok st) :
    ∃ sorting tail requested more,
      (d.pagination = .rowNumber → window.isSome = true →
        q.numberingOrder d (.along [q]) = .ok sorting) ∧
      q.columns.mapM (Column.renderLabeled d (.along [q])) = .ok requested ∧
      q.injected.mapM (Column.renderLabeled d (.along [q])) = .ok more ∧
      st.columns = q.columns ++ q.injected ∧
      q.render d (.along [q]) (q.frame d sorting window).options =
        .ok (q.selecting (requested ++ more) (q.shownNumber d sorting window) tail) ∧
      st.body = (q.frame d sorting window).around
        (q.selecting (requested ++ more) (q.shownNumber d sorting window) tail) := by
  obtain ⟨sorting, body, numbers, written, framed⟩ := compile_framed h
  obtain ⟨head, tail, selects, rfl⟩ := exists_head written
  obtain ⟨list, listed, rfl⟩ := (selectHead_eq_ok_iff (count_frame sorting window)).1 selects
  rw [selected_eq_append some] at listed
  obtain ⟨requested, more, own, added, rfl⟩ := selectList_append some listed
  have columns : st.columns = q.columns ++ q.injected := by
    obtain ⟨_, _, _, _, rfl⟩ := compile_eq_ok_iff.1 h
    exact selected_eq_append some
  rw [extraColumn_frame] at written framed
  exact ⟨sorting, tail, requested, more, numbers, own, added, columns, written, framed⟩

end Query

end EntitySql
