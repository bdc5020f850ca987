import EntitySql.Proofs.Paging.Numbering
import EntitySql.Proofs.Sql.SelectLists
import EntitySql.Proofs.Text.IgnoringCase

/-!
# Terms of the order in the select list

A query selects the columns requested and then the terms of its order that no selected column stands
for. Whether a column stands for a term is decided on the columns as they were given, before the
alias of the only table is added and fields become columns. Their texts may decide otherwise:
`u.NAME` and `NAME` are two columns and one text on a table with the alias `u`.

**The exact condition.** The terms added are the ones whose texts are missing exactly when both
decisions agree on every term, each one taken with the terms that were added before it.

**References spelled alike.** They agree where all columns and terms are references under one
qualifier and two names that mean one column differ in nothing but case. Then no text is selected
twice but those requested twice (`Query.compile_selectList`).
-/

namespace EntitySql

set_option autoImplicit false

open Outcome

variable {d : Dialect} {s : Scope}

/-! ## Texts of columns -/

namespace Column

/-- The column is written as the text, without regard to case. -/
def reads (d : Dialect) (s : Scope) (c : Column) (text : String) : Bool :=
  (c.render d s).toOption.any (Text.eqIgnoringCase text)

/-- Both columns are written as one text, without regard to case. -/
def readsAs (d : Dialect) (s : Scope) (a b : Column) : Bool :=
  (a.render d s).toOption.any (b.reads d s)

theorem readsAs_of_render {a b : Column} {x y : String} (first : a.render d s = .ok x)
    (second : b.render d s = .ok y) : a.readsAs d s b = Text.eqIgnoringCase x y := by
  rw [readsAs, first, Except.toOption, Option.any_some, reads, second, Except.toOption,
    Option.any_some]

theorem render_of_isPlain {c : Column} (plain : c.isPlain = true) :
    c.render d s = c.base d s := by
  obtain ⟨function, qualifier, name, label, literal, raw, operation⟩ := c
  rw [isPlain, Bool.and_eq_true, Option.isNone_iff_eq_none, Option.isNone_iff_eq_none] at plain
  obtain ⟨rfl, rfl⟩ := plain
  rw [render]
  cases base d s ⟨none, qualifier, name, label, literal, raw, none⟩ <;> rfl

/-- A plain reference is written as its column behind its qualifier. -/
theorem render_plain {c : Column} (named : c.isNamed = true) (plain : c.isPlain = true)
    {aliasName : String} (found : s.qualifierOf c = .ok aliasName) :
    c.render d s = .ok ((if s.qualify && aliasName != "" then aliasName ++ "." else "") ++
      d.identifier (s.nameOf aliasName c.name)) := by
  rw [render_of_isPlain plain, base_of_isReference (isReference_of_isNamed named), found,
    ← target_eq named, ← reference_eq]
  rfl

/-- A named reference that is written has a qualifier. -/
theorem exists_qualifierOf {c : Column} (named : c.isNamed = true) {t : String}
    (written : c.renderLabeled d s = .ok t) : ∃ aliasName, s.qualifierOf c = .ok aliasName := by
  cases found : s.qualifierOf c with
  | ok aliasName => exact ⟨aliasName, rfl⟩
  | error e =>
    have unwritten : c.base d s = .error e := by
      rw [base_of_isReference (isReference_of_isNamed named), found]
      rfl
    rw [renderLabeled, render_of_base_error unwritten] at written
    split at written <;> cases written

theorem renderLabeled_of_bare {c : Column} (bare : c.label = "") :
    c.renderLabeled d s = c.render d s := by
  rw [renderLabeled, if_neg fun given => given.1 bare]
  cases c.render d s with
  | error e => rfl
  | ok expression => simp only [bare, if_true]; rfl

/-- A column is written as no less than its expression. -/
theorem labeled_ne_empty {c : Column} {x t : String} (written : c.render d s = .ok x)
    (some : x ≠ "")
    (labeled : c.renderLabeled d s = .ok t) : t ≠ "" := by
  rw [renderLabeled, written] at labeled
  split at labeled
  · cases labeled
  · cases labeled
    split
    · exact some
    · exact fun empty => some
        (String.append_eq_empty_iff.1 (String.append_eq_empty_iff.1 empty).1).1

end Column

/-! ## Terms that are lacking -/

/-- The terms that nothing stands for, given those that were taken before them. -/
def lacking (stands : List Column → Column → Bool) (taken : List Column) :
    List Ordered → List Column
  | [] => []
  | o :: rest =>
    if stands taken o.column then lacking stands taken rest
    else o.column :: lacking stands (taken ++ [o.column]) rest

/-- What holds at every place of a list holds at the first one and, with that before it, at every
place of the rest. -/
theorem forall_place_cons {α : Type} {P : List α → α → Prop} {a : α} {as : List α} :
    (∀ before b after, a :: as = before ++ b :: after → P before b) ↔
      P [] a ∧ ∀ before b after, as = before ++ b :: after → P (a :: before) b := by
  constructor
  · intro each
    exact ⟨each [] a as rfl, fun before b after same =>
      each (a :: before) b after (congrArg (a :: ·) same)⟩
  · rintro ⟨first, later⟩ before b after same
    rcases List.cons_eq_append_iff.1 same with ⟨rfl, here⟩ | ⟨before, rfl, there⟩
    · cases here
      exact first
    · exact later before b after there

section Lacking

variable {f g : List Column → Column → Bool} {taken : List Column} {terms : List Ordered}

theorem head_lacking {c : Column} {rest : List Column} (h : lacking f taken terms = c :: rest) :
    f taken c = false := by
  induction terms with
  | nil => cases h
  | cons o later ih =>
    rw [lacking] at h
    split at h
    · exact ih h
    · rename_i new
      cases h
      exact Bool.eq_false_iff.2 new

/-- **The same terms are lacking** exactly when both decide alike on every term, given those that
were taken before it. -/
theorem lacking_eq_iff :
    lacking f taken terms = lacking g taken terms ↔
      ∀ before o after, terms = before ++ o :: after →
        f (taken ++ lacking f taken before) o.column =
          g (taken ++ lacking f taken before) o.column := by
  induction terms generalizing taken with
  | nil => simp [lacking]
  | cons o rest ih =>
    rw [forall_place_cons]
    simp only [lacking, List.append_nil]
    -- Where the decisions differ, equal lists begin with the term, so it is lacking for both.
    cases left : f taken o.column <;> cases right : g taken o.column
    · simp [ih]
    · refine iff_of_false (fun same => ?_) (by simp)
      have refused := head_lacking (Eq.symm same)
      rw [right] at refused
      cases refused
    · refine iff_of_false (fun same => ?_) (by simp)
      have refused := head_lacking same
      rw [left] at refused
      cases refused
    · simp [ih]

end Lacking

namespace Query

variable {q : Query}

/-- A selected column stands for the term, where some terms are selected already. -/
def isCovered (q : Query) (taken : List Column) (term : Column) : Bool :=
  (q.columns ++ taken).any fun c => covers c term

/-- The text of the term is that of a selected column or, without qualifier, a requested label. -/
def isWritten (d : Dialect) (q : Query) (taken : List Column) (term : Column) : Bool :=
  ((q.columns ++ taken).any fun c => c.readsAs d (.along [q]) term) ||
    (term.qualifier == "" &&
      q.columns.any fun c => c.label != "" && term.reads d (.along [q]) c.label)

/-- The terms to order by whose texts are not selected, each text once. -/
def missing (d : Dialect) (q : Query) : List Column := lacking (q.isWritten d) [] q.orderBy

theorem addedTerms_append (columns taken : List Column) (terms : List Ordered) :
    addedTerms (columns ++ taken) terms =
      lacking (fun taken t => (columns ++ taken).any fun c => covers c t) taken terms := by
  induction terms generalizing taken with
  | nil => rfl
  | cons o rest ih =>
    rw [addedTerms, lacking, ih, List.append_assoc, ih]

theorem addedTerms_eq_lacking (q : Query) (terms : List Ordered) :
    addedTerms q.columns terms = lacking q.isCovered [] terms := by
  have same := addedTerms_append q.columns [] terms
  rw [List.append_nil] at same
  exact same

/-- Without a wildcard among the requested columns, terms are added. -/
theorem injected_eq_addedTerms (single : ∀ c ∈ q.columns, c.isWildcard = false) :
    q.injected = addedTerms q.columns q.orderBy := by
  have some : selectsAll q.columns = false :=
    List.any_eq_false.2 fun c member => by simp [single c member]
  rw [injected, some, if_neg Bool.false_ne_true]

/-- **The terms added are the missing ones** exactly when both decide alike on every term. -/
theorem injected_eq_missing_iff (single : ∀ c ∈ q.columns, c.isWildcard = false) :
    q.injected = q.missing d ↔
      ∀ before o after, q.orderBy = before ++ o :: after →
        q.isCovered (addedTerms q.columns before) o.column =
          q.isWritten d (addedTerms q.columns before) o.column := by
  rw [injected_eq_addedTerms single, addedTerms_eq_lacking, missing, lacking_eq_iff]
  simp only [List.nil_append, addedTerms_eq_lacking]

/-- **A missing text** is neither requested nor missing twice. -/
theorem pairwise_missing (d : Dialect) (q : Query) (taken : List Column) (terms : List Ordered) :
    (lacking (q.isWritten d) taken terms).Pairwise
        (fun a b => a.readsAs d (.along [q]) b = false) ∧
      ∀ t ∈ lacking (q.isWritten d) taken terms, ∀ c ∈ q.columns ++ taken,
        c.readsAs d (.along [q]) t = false := by
  induction terms generalizing taken with
  | nil => exact ⟨List.Pairwise.nil, nofun⟩
  | cons o rest ih =>
    rw [lacking]
    split
    · exact ih taken
    · rename_i new
      obtain ⟨once, apart⟩ := ih (taken ++ [o.column])
      have first : ∀ c ∈ q.columns ++ taken, c.readsAs d (.along [q]) o.column = false := by
        rw [isWritten, Bool.or_eq_true, not_or, Bool.not_eq_true, List.any_eq_false] at new
        exact fun c member => Bool.eq_false_iff.2 (new.1 c member)
      refine ⟨List.pairwise_cons.2 ⟨fun t later => ?_, once⟩, ?_⟩
      · exact apart t later _ (by simp)
      · rintro t member c selected
        rcases List.mem_cons.1 member with rfl | later
        · exact first c selected
        · exact apart t later c (by rw [← List.append_assoc]; exact List.mem_append_left _ selected)

/-! ## References spelled alike -/

/-- The columns that may be selected. -/
def candidates (q : Query) : List Column := q.columns ++ q.orderBy.map fun o => o.column

/-- All columns and terms are references under one qualifier, and two names that mean one column
differ in nothing but case. Terms have no labels; a term without qualifier is written as a label
exactly when it is called so. -/
structure SpelledAlike (d : Dialect) (q : Query) : Prop where
  plain : ∀ c ∈ q.candidates, c.isNamed = true ∧ c.isPlain = true
  qualifier : ∀ a ∈ q.candidates, ∀ b ∈ q.candidates, a.qualifier = b.qualifier
  names : ∀ a ∈ q.candidates, ∀ b ∈ q.candidates, ∀ aliasName,
    (Scope.along [q]).qualifierOf a = .ok aliasName →
      Text.eqIgnoringCase ((Scope.along [q]).nameOf aliasName a.name)
        ((Scope.along [q]).nameOf aliasName b.name) = Text.eqIgnoringCase a.name b.name
  bare : ∀ o ∈ q.orderBy, o.column.label = ""
  labels : ∀ o ∈ q.orderBy, o.column.qualifier = "" → ∀ c ∈ q.columns, c.label ≠ "" →
    o.column.reads d (.along [q]) c.label = Text.eqIgnoringCase c.label o.column.name

namespace SpelledAlike

variable {a b : Column} {aliasName : String}

/-- One qualifier is found for all. -/
theorem qualifierOf (alike : q.SpelledAlike d) (first : a ∈ q.candidates)
    (second : b ∈ q.candidates) (found : (Scope.along [q]).qualifierOf a = .ok aliasName) :
    (Scope.along [q]).qualifierOf b = .ok aliasName := by
  rw [Scope.qualifierOf_eq_ok_iff (alike.plain b second).1, ← alike.qualifier a first b second]
  exact (Scope.qualifierOf_eq_ok_iff (alike.plain a first).1).1 found

/-- Two texts are one when the names are alike. -/
theorem readsAs_eq (alike : q.SpelledAlike d) (first : a ∈ q.candidates) (second : b ∈ q.candidates)
    (found : (Scope.along [q]).qualifierOf a = .ok aliasName) :
    a.readsAs d (.along [q]) b = Text.eqIgnoringCase a.name b.name := by
  have left := Column.render_plain (d := d) (alike.plain a first).1 (alike.plain a first).2 found
  have right := Column.render_plain (d := d) (alike.plain b second).1 (alike.plain b second).2
    (alike.qualifierOf first second found)
  rw [Column.readsAs_of_render left right, Text.eqIgnoringCase_append_left,
    Dialect.eqIgnoringCase_identifier, alike.names a first b second aliasName found]

/-- A candidate stands for another one when their names are alike, or by its label. -/
theorem covers_eq (alike : q.SpelledAlike d) (first : a ∈ q.candidates)
    (second : b ∈ q.candidates) :
    covers a b = (Text.eqIgnoringCase a.name b.name ||
      (a.label != "" && b.qualifier == "" && Text.eqIgnoringCase a.label b.name)) := by
  rw [covers, Column.isWildcard_of_isNamed (alike.plain a first).1, Bool.false_and, Bool.or_false,
    Column.sameExpression_of_plain (alike.plain a first) (alike.plain b second)
      (alike.qualifier a first b second)]

/-- **Both decide alike** on references that are spelled alike. -/
theorem isCovered_eq (alike : q.SpelledAlike d) (first : a ∈ q.candidates)
    (found : (Scope.along [q]).qualifierOf a = .ok aliasName) {taken : List Column}
    (terms : ∀ t ∈ taken, t ∈ q.orderBy.map fun o => o.column) {o : Ordered}
    (member : o ∈ q.orderBy) : q.isCovered taken o.column = q.isWritten d taken o.column := by
  have candidate : ∀ c ∈ q.columns ++ taken, c ∈ q.candidates := by
    intro c selected
    rcases List.mem_append.1 selected with requested | added
    · exact List.mem_append_left _ requested
    · exact List.mem_append_right _ (terms c added)
  have term : o.column ∈ q.candidates :=
    List.mem_append_right _ (List.mem_map_of_mem (f := fun o => o.column) member)
  have reads : ∀ c ∈ q.columns ++ taken,
      c.readsAs d (.along [q]) o.column = Text.eqIgnoringCase c.name o.column.name :=
    fun c selected => alike.readsAs_eq (candidate c selected) term
      (alike.qualifierOf first (candidate c selected) found)
  rw [Bool.eq_iff_iff, isCovered, isWritten, Bool.or_eq_true, List.any_eq_true, List.any_eq_true,
    Bool.and_eq_true, List.any_eq_true]
  constructor
  · rintro ⟨c, selected, covered⟩
    rw [alike.covers_eq (candidate c selected) term, Bool.or_eq_true, Bool.and_eq_true,
      Bool.and_eq_true] at covered
    rcases covered with named | ⟨⟨label, bare⟩, called⟩
    · exact .inl ⟨c, selected, (reads c selected).trans named⟩
    · rcases List.mem_append.1 selected with requested | added
      · refine .inr ⟨bare, c, requested, Bool.and_eq_true_iff.2 ⟨label, ?_⟩⟩
        rw [alike.labels o member (eq_of_beq bare) c requested (bne_iff_ne.1 label), called]
      · obtain ⟨p, ordered, rfl⟩ := List.mem_map.1 (terms c added)
        exact absurd (alike.bare p ordered) (bne_iff_ne.1 label)
  · rintro (⟨c, selected, same⟩ | ⟨bare, c, requested, called⟩)
    · refine ⟨c, selected, ?_⟩
      rw [alike.covers_eq (candidate c selected) term, ← reads c selected, same, Bool.true_or]
    · rw [Bool.and_eq_true] at called
      refine ⟨c, List.mem_append_left _ requested, ?_⟩
      rw [alike.covers_eq (candidate c (List.mem_append_left _ requested)) term, called.1, bare,
        ← alike.labels o member (eq_of_beq bare) c requested (bne_iff_ne.1 called.1), called.2,
        Bool.and_self, Bool.and_self, Bool.or_true]

/-- Where the requested columns are written, a qualifier is found. -/
theorem exists_found (alike : q.SpelledAlike d) (some : q.columns ≠ []) {requested : List String}
    (own : q.columns.mapM (Column.renderLabeled d (.along [q])) = .ok requested) :
    ∃ c ∈ q.candidates, ∃ aliasName, (Scope.along [q]).qualifierOf c = .ok aliasName := by
  obtain ⟨c, rest, columns⟩ := List.exists_cons_of_ne_nil some
  have candidate : c ∈ q.candidates := List.mem_append_left _ (columns ▸ List.mem_cons_self)
  rw [columns, mapM_eq_ok, List.forall₂_cons_left_iff] at own
  obtain ⟨t, _, written, _⟩ := own
  exact ⟨c, candidate, Column.exists_qualifierOf (alike.plain c candidate).1 written⟩

/-- **Exactly the missing terms are added** where all are spelled alike. -/
theorem injected_eq_missing (alike : q.SpelledAlike d) (first : a ∈ q.candidates)
    (found : (Scope.along [q]).qualifierOf a = .ok aliasName) : q.injected = q.missing d := by
  have single : ∀ c ∈ q.columns, c.isWildcard = false := fun c member =>
    Column.isWildcard_of_isNamed (alike.plain c (List.mem_append_left _ member)).1
  refine (injected_eq_missing_iff single).2 fun earlier o later same => ?_
  refine alike.isCovered_eq first found (fun t member => ?_) (by simp [same])
  rw [same, List.map_append]
  exact List.mem_append_left _ ((addedTerms_sublist _ _).subset member)

/-- Terms are added without labels. -/
theorem render_injected (alike : q.SpelledAlike d) {more : List String}
    (added : q.injected.mapM (Column.renderLabeled d (.along [q])) = .ok more) :
    q.injected.mapM (Column.render d (.along [q])) = .ok more := by
  have bare : ∀ t ∈ q.injected, t.label = "" := by
    intro t member
    obtain ⟨o, ordered, rfl⟩ := List.mem_map.1 ((injected_sublist q).subset member)
    exact alike.bare o ordered
  refine mapM_eq_ok.2 (((List.forall₂_and_left _ _).2 ⟨bare, mapM_eq_ok.1 added⟩).imp ?_)
  rintro t x ⟨bare, written⟩
  rw [← Column.renderLabeled_of_bare bare, written]

/-- Every selected column writes something. -/
theorem text_ne_empty (alike : q.SpelledAlike d) (first : a ∈ q.candidates)
    (found : (Scope.along [q]).qualifierOf a = .ok aliasName) {texts : List String}
    (written : (q.columns ++ q.injected).mapM (Column.renderLabeled d (.along [q])) = .ok texts) :
    ∀ t ∈ texts, t ≠ "" := by
  refine forall_of_mapM written fun c selected t labeled => ?_
  have second : c ∈ q.candidates := by
    rcases List.mem_append.1 selected with requested | added
    · exact List.mem_append_left _ requested
    · exact List.mem_append_right _ ((injected_sublist q).subset added)
  refine Column.labeled_ne_empty (Column.render_plain (alike.plain c second).1
    (alike.plain c second).2 (alike.qualifierOf first second found)) (fun empty => ?_) labeled
  exact d.identifier_ne_empty _ (String.append_eq_empty_iff.1 empty).2

/-- **Where no field is called otherwise than its column,** plain references under one qualifier are
spelled alike. Only an unqualified term can be taken for a label; then the table must have no alias
and the term no quotes. -/
theorem of_straight (straight : q.Straight)
    (plain : ∀ c ∈ q.candidates, c.isNamed = true ∧ c.isPlain = true)
    (qualifier : ∀ a ∈ q.candidates, ∀ b ∈ q.candidates, a.qualifier = b.qualifier)
    (bare : ∀ o ∈ q.orderBy, o.column.label = "")
    (labels : ∀ o ∈ q.orderBy, o.column.qualifier = "" → ∀ c ∈ q.columns, c.label ≠ "" →
      (Scope.along [q]).defaultAlias? = some "" ∧ needsQuoting o.column.name = false) :
    q.SpelledAlike d where
  plain := plain
  qualifier := qualifier
  bare := bare
  names := by
    intro a _ b _ aliasName _
    rw [Bool.eq_iff_iff, eqIgnoringCase_iff, eqIgnoringCase_iff,
      eqIgnoringCase_iff.1 (straight.nameOf aliasName a.name),
      eqIgnoringCase_iff.1 (straight.nameOf aliasName b.name)]
  labels := by
    intro o member unqualified c requested label
    obtain ⟨default, unquoted⟩ := labels o member unqualified c requested label
    obtain ⟨named, alone⟩ := plain o.column
      (List.mem_append_right _ (List.mem_map_of_mem (f := fun o => o.column) member))
    have found : (Scope.along [q]).qualifierOf o.column = .ok "" :=
      (Scope.qualifierOf_eq_ok_iff named).2 (.inr ⟨unqualified, default⟩)
    have name : Text.lowerAscii (d.identifier ((Scope.along [q]).nameOf "" o.column.name)) =
        Text.lowerAscii o.column.name := by
      rw [← Dialect.identifier_lowerAscii, eqIgnoringCase_iff.1 (straight.nameOf "" o.column.name),
        Dialect.identifier_lowerAscii, Dialect.identifier, unquoted, if_neg Bool.false_ne_true]
    rw [Column.reads, Column.render_plain named alone found, Except.toOption, Option.any_some,
      bne_self_eq_false, Bool.and_false, if_neg Bool.false_ne_true, String.empty_append,
      Bool.eq_iff_iff, eqIgnoringCase_iff, eqIgnoringCase_iff, name]

end SpelledAlike

/-- **The select list of a query** that requests columns and no wildcard is those columns and, after
them, the terms of its order that no selected column stands for. Only the expression of the numbers
follows them, where the query numbers its own rows. The terms are the terms whose texts are
missing exactly when the columns and the texts decide alike on every term; so it is where all are
references spelled alike, and then no text is added that is selected already. -/
theorem compile_selectList {window : Option PageWindow} {st : Statement} (some : q.columns ≠ [])
    (single : ∀ c ∈ q.columns, c.isWildcard = false) (h : q.compile d window = .ok st) :
    ∃ sorting tail requested more,
      (d.pagination = .rowNumber → window.isSome = true →
        q.numberingOrder d (.along [q]) = .ok sorting) ∧
      q.columns.mapM (Column.renderLabeled d (.along [q])) = .ok requested ∧
      q.injected.mapM (Column.renderLabeled d (.along [q])) = .ok more ∧
      st.columns = q.columns ++ q.injected ∧
      q.render d (.along [q]) (q.frame d sorting window).options =
        .ok (q.selecting (requested ++ more) (q.shownNumber d sorting window) tail) ∧
      st.body = (q.frame d sorting window).around
        (q.selecting (requested ++ more) (q.shownNumber d sorting window) tail) ∧
      (q.injected = q.missing d ↔
        ∀ earlier o later, q.orderBy = earlier ++ o :: later →
          q.isCovered (addedTerms q.columns earlier) o.column =
            q.isWritten d (addedTerms q.columns earlier) o.column) ∧
      (q.SpelledAlike d →
        q.injected = q.missing d ∧
        q.injected.mapM (Column.render d (.along [q])) = .ok more ∧
        q.injected.Pairwise (fun a b => a.readsAs d (.along [q]) b = false) ∧
        (∀ t ∈ q.injected, ∀ c ∈ q.columns, c.readsAs d (.along [q]) t = false) ∧
        ∀ n, (separatedTexts ", " (requested ++ more)).sqlFrom d n =
          ", ".intercalate (requested ++ more)) := by
  obtain ⟨sorting, tail, requested, more, numbers, own, added, columns, written, framed⟩ :=
    exists_selectList some h
  refine ⟨sorting, tail, requested, more, numbers, own, added, columns, written, framed,
    injected_eq_missing_iff single, fun alike => ?_⟩
  obtain ⟨c, candidate, aliasName, found⟩ := alike.exists_found some own
  have agree := alike.injected_eq_missing candidate found
  obtain ⟨once, apart⟩ := pairwise_missing d q [] q.orderBy
  rw [List.append_nil] at apart
  refine ⟨agree, alike.render_injected added, by rw [agree]; exact once, by rw [agree]; exact apart,
    Fragment.sqlFrom_separatedTexts d ", " ?_⟩
  exact alike.text_ne_empty candidate found (mapM_append_eq_ok.2 ⟨_, _, own, added, rfl⟩)

/-- Users in an order of which the first two terms are requested, the second one by its label, and
the last one is the third in other letters. -/
def agedSample : Query :=
  { Query.ofNamed 0 "USERS" with
    columns := [(Column.ofName "NAME").labeled "n", .ofName "ID"]
    orderBy := [⟨.ofName "name", .descending⟩, ⟨.ofName "N", .ascending⟩,
      ⟨.ofName "AGE", .ascending⟩, ⟨.ofName "age", .descending⟩] }

theorem compile_selectList_agedSample :
    ∃ st, agedSample.compile .generic none = .ok st ∧
      st.sql = "SELECT NAME AS n, ID, AGE FROM USERS " ++
        "ORDER BY name DESC, N ASC, AGE ASC, age DESC" ∧
      agedSample.injected = agedSample.missing .generic := by
  have unmodelled : ∀ t ∈ agedSample.tables, t.schema? = none :=
    List.forall_mem_singleton.2 rfl
  have straight : agedSample.Straight := ⟨by decide +kernel, fun t used schema known => by
    rw [unmodelled t used] at known
    cases known⟩
  obtain ⟨st, compiled⟩ : ∃ st, agedSample.compile .generic none = .ok st := ⟨_, rfl⟩
  obtain ⟨_, _, _, _, _, _, _, _, _, _, _, spelled⟩ :=
    compile_selectList (List.cons_ne_nil _ _) (by decide +kernel) compiled
  refine ⟨st, compiled, by cases compiled; decide +kernel,
    (spelled (.of_straight straight ?_ ?_ ?_ ?_)).1⟩
  all_goals decide +kernel

/-- Users with an alias, ordered by the column requested but without the alias. -/
def aliasedSample : Query :=
  { Query.empty 0 with
    table := some ⟨"u", .named "USERS"⟩
    columns := [{ Column.ofName "NAME" with qualifier := "u" }]
    orderBy := [⟨.ofName "NAME", .ascending⟩] }

/-- One text is selected twice, though requested once. -/
theorem compile_selectList_aliasedSample :
    ∃ st, aliasedSample.compile .generic none = .ok st ∧
      aliasedSample.missing .generic = [] ∧
      st.sql = "SELECT u.NAME, u.NAME FROM USERS u ORDER BY u.NAME ASC" := by
  refine ⟨_, rfl, ?_, ?_⟩ <;> decide +kernel

end Query

end EntitySql
