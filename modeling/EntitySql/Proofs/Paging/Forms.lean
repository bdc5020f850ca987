import EntitySql.Proofs.Paging.Runs
import EntitySql.Proofs.Paging.Windows
import EntitySql.Proofs.Sql.Operation

/-!
# Forms of paged queries

What a dialect makes of a query and a window is one of a few forms around the parts of the query:
the clauses `LIMIT` and `OFFSET`, row numbers taken from outside, in the query itself or around a
distinct one, and pseudo row numbers, around an ordered query, around an unordered one or inside
it. A form has a text (`PagedForm.write`) and a meaning (`PagedForm.Yields`).

**Text.** A query that compiles without a window compiles with every window, to the form of its
dialect around the same parts. Row numbering moves the order of the query into the window function;
the form inside the query adds its bound to the condition.

**Meaning.** Each form yields the window of the rows of the query and nothing else, for every list
of fewer rows than the greatest bound value. Counts that saturate or are cut off to fit a bound
value make no difference for such lists. One form does not where an aggregate is selected: the
pseudo column inside the query cuts off the rows that the aggregate is made of
(`Query.yields_pseudoDirect_aggregate_iff`).
-/

namespace EntitySql

set_option autoImplicit false

open Outcome

/-! ## The parts of a selection -/

/-- The parts of the text of a selection. -/
structure SelectParts where
  /-- The keyword and what is selected. -/
  head : Fragment
  /-- The tables and the joins. -/
  source : Fragment
  condition : Fragment
  /-- The grouping and its condition. -/
  groups : Fragment
  /-- The clause that orders the rows, if they are ordered. -/
  order : Option String

namespace SelectParts

/-- An expression after the columns. -/
def columnText : Option String → Fragment
  | some e => [.text (", " ++ e)]
  | none => []

/-- The order after a blank, unless it is left out. -/
def orderText (unordered : Bool) : Option String → Fragment
  | some clause => if unordered then [] else [.text (" " ++ clause)]
  | none => []

/-- The selection with an expression after the columns, a condition besides its own, or without its
order. -/
def write (p : SelectParts) (options : SelectOptions) : Fragment :=
  p.head ++ columnText options.extraColumn ++ .text " FROM " ::
    (p.source ++ whereClause p.condition options.extraCondition ++ p.groups ++
      orderText options.unordered p.order)

end SelectParts

namespace Query

/-- The clause that orders rows, if there is anything to order by. -/
def orderPart (d : Dialect) (s : Scope) (terms : List Ordered) : Except Error (Option String) :=
  if terms.isEmpty then .ok none else (orderClause d s terms).map some

/-- The parts of a query in its scope. -/
def parts (d : Dialect) (s : Scope) (q : Query) : Except Error SelectParts :=
  match q.table with
  | none => .error (.model .noTable)
  | some t => do
    let list ← selectList d s (selected q.columns q.orderBy)
    let first ← t.render d s
    let others ← Join.renderAll d s q.joins
    let condition ← Condition.render d s q.filter
    let grouping ← groupClause d s q.groupBy
    let having ← Condition.render d s q.having
    let order ← orderPart d s q.orderBy
    return {
      head := .text (if q.distinct then "SELECT DISTINCT " else "SELECT ") :: list
      source := first ++ others
      condition
      groups := grouping ++ having.after " HAVING "
      order }

variable {d : Dialect} {s : Scope} {q : Query} {f : Fragment} {p : SelectParts}

theorem parts_eq_ok_iff :
    q.parts d s = .ok p ↔
      ∃ t list first others condition grouping having order,
        q.table = some t ∧
        selectList d s (selected q.columns q.orderBy) = .ok list ∧
        t.render d s = .ok first ∧
        Join.renderAll d s q.joins = .ok others ∧
        Condition.render d s q.filter = .ok condition ∧
        groupClause d s q.groupBy = .ok grouping ∧
        Condition.render d s q.having = .ok having ∧
        orderPart d s q.orderBy = .ok order ∧
        ⟨.text (if q.distinct then "SELECT DISTINCT " else "SELECT ") :: list, first ++ others,
          condition, grouping ++ having.after " HAVING ", order⟩ = p := by
  unfold parts
  cases q.table with
  | none => simp
  | some t =>
    simp only [bind_eq_ok, pure_eq_ok, Option.some.injEq]
    constructor
    · rintro ⟨list, hl, first, hf, others, ho, condition, hc, grouping, hg, having, hv, order, hr,
        rfl⟩
      exact ⟨t, list, first, others, condition, grouping, having, order, rfl, hl, hf, ho, hc, hg,
        hv, hr, rfl⟩
    · rintro ⟨_, list, first, others, condition, grouping, having, order, rfl, hl, hf, ho, hc, hg,
        hv, hr, rfl⟩
      exact ⟨list, hl, first, hf, others, ho, condition, hc, grouping, hg, having, hv, order, hr,
        rfl⟩

/-- A query that can be written has parts, if its order can be written. -/
theorem exists_parts_of_render {options : SelectOptions} (rows : options.count = false)
    (h : q.render d s options = .ok f)
    (ordered : options.unordered = true → ∃ order, orderPart d s q.orderBy = .ok order) :
    ∃ p, q.parts d s = .ok p := by
  obtain ⟨t, head, first, others, condition, groups, having, order, table, hh, hf, ho, hc, hg, hv,
    hr, _⟩ := render_eq_ok_iff.1 h
  obtain ⟨list, listed⟩ : ∃ list, selectList d s (selected q.columns q.orderBy) = .ok list := by
    simp only [selectHead, rows, Bool.false_eq_true, if_false, bind_eq_ok] at hh
    obtain ⟨list, listed, _⟩ := hh
    exact ⟨list, listed⟩
  obtain ⟨clause, ordered⟩ : ∃ clause, orderPart d s q.orderBy = .ok clause := by
    cases leftOut : options.unordered with
    | true => exact ordered leftOut
    | false =>
      unfold orderPart
      unfold finalOrder at hr
      cases unordered : q.orderBy.isEmpty with
      | true => exact ⟨none, rfl⟩
      | false =>
        simp only [leftOut, rows, unordered, Bool.or_self, Bool.false_eq_true, if_false,
          map_eq_ok] at hr
        obtain ⟨clause, written, _⟩ := hr
        exact ⟨some clause, map_eq_ok.2 ⟨clause, written, rfl⟩⟩
  exact ⟨_, parts_eq_ok_iff.2 ⟨t, list, first, others, _, groups, _, clause, table, listed, hf, ho,
    map_eq_ok.2 ⟨condition, hc, rfl⟩, hg, map_eq_ok.2 ⟨having, hv, rfl⟩, ordered, rfl⟩⟩

theorem exists_parts (h : q.render d s .standard = .ok f) : ∃ p, q.parts d s = .ok p :=
  exists_parts_of_render rfl h nofun

/-- **A query is written from its parts,** whatever is added to it or left out. -/
theorem render_eq_write (h : q.parts d s = .ok p) {options : SelectOptions}
    (rows : options.count = false) : q.render d s options = .ok (p.write options) := by
  obtain ⟨t, list, first, others, condition, grouping, having, clause, table, hl, hf, ho, hc, hg,
    hv, hr, rfl⟩ := parts_eq_ok_iff.1 h
  obtain ⟨nodes, hn, rfl⟩ := map_eq_ok.1 hc
  obtain ⟨tests, ht, rfl⟩ := map_eq_ok.1 hv
  have head : selectHead d s options q.distinct (selected q.columns q.orderBy) =
      .ok (.text (if q.distinct then "SELECT DISTINCT " else "SELECT ") ::
        (list ++ SelectParts.columnText options.extraColumn)) := by
    simp only [selectHead, rows, Bool.false_eq_true, if_false, hl]
    cases options.extraColumn <;> rfl
  have order : finalOrder d s options q.orderBy =
      .ok (SelectParts.orderText options.unordered clause) := by
    unfold orderPart at hr
    unfold finalOrder
    cases options.unordered with
    | true => cases clause <;> simp [SelectParts.orderText]
    | false =>
      split at hr
      · rename_i nothing
        cases hr
        simp [nothing, SelectParts.orderText]
      · rename_i something
        obtain ⟨text, written, rfl⟩ := map_eq_ok.1 hr
        simp only [rows, something, Bool.or_self, Bool.false_eq_true, if_false]
        exact map_eq_ok.2 ⟨text, written, rfl⟩
  refine render_eq_ok_iff.2 ⟨t, _, first, others, nodes, grouping, tests, _, table, head, hf, ho,
    hn, hg, ht, order, ?_⟩
  simp [SelectParts.write]

end Query

/-! ## The order of the numbers -/

section Numbering

variable {d : Dialect} {s : Scope}

/-- Whether an operator can be applied does not depend on the texts of its operands. -/
theorem Dialect.exists_operation {op : BitOp} {a t : String} {b : Option String}
    (h : d.operation op a b = .ok t) (a' : String) (b' : Option String)
    (same : b'.isSome = b.isSome) : ∃ u, d.operation op a' b' = .ok u := by
  cases b with
  | some b =>
    obtain ⟨other, rfl⟩ := Option.isSome_iff_exists.1 same
    cases op <;> exact ⟨_, rfl⟩
  | none =>
    have absent : b' = none := by simpa using same
    subst absent
    cases op with
    | not => exact ⟨_, rfl⟩
    | _ => cases h

namespace Column

theorem exists_base {c : Column} {t : String} (h : c.base d s = .ok t) (qualify : Bool) :
    ∃ u, c.base d { s with qualify } = .ok u := by
  unfold base at h ⊢
  split
  · exact ⟨_, rfl⟩
  · rename_i named
    rw [if_neg named] at h
    split
    · rename_i v literal
      rw [literal] at h
      exact ⟨t, h⟩
    · rename_i literal
      rw [literal] at h
      split
      · exact ⟨_, rfl⟩
      · rename_i referred
        simp only [if_neg referred] at h
        obtain ⟨qualifier, found, _⟩ := map_eq_ok.1 h
        exact ⟨_, map_eq_ok.2 ⟨qualifier, found, rfl⟩⟩

/-- **A column that can be written with qualifiers can be written without,** and the other way
round: the text is another one, but nothing else fails. -/
theorem exists_render (qualify : Bool) : ∀ (c : Column) {t : String}, c.render d s = .ok t →
    ∃ u, c.render d { s with qualify } = .ok u
  | ⟨function, qualifier, name, label, value, raw, none⟩, t, h => by
    simp only [render, bind_eq_ok, pure_eq_ok] at h ⊢
    obtain ⟨a, first, _⟩ := h
    obtain ⟨a', first'⟩ := exists_base first qualify
    exact ⟨_, a', first', rfl⟩
  | ⟨function, qualifier, name, label, value, raw, some (op, other)⟩, t, h => by
    cases unary : op.isUnary with
    | true =>
      simp only [render, unary, if_true, bind_eq_ok, pure_eq_ok] at h ⊢
      obtain ⟨a, first, b, rfl, combined, joined, _⟩ := h
      obtain ⟨a', first'⟩ := exists_base first qualify
      obtain ⟨combined', joined'⟩ := Dialect.exists_operation joined a' none rfl
      exact ⟨_, a', first', none, rfl, combined', joined', rfl⟩
    | false =>
      simp only [render, unary, Bool.false_eq_true, if_false, bind_eq_ok, pure_eq_ok,
        map_eq_ok] at h ⊢
      obtain ⟨a, first, b, ⟨text, second, rfl⟩, combined, joined, _⟩ := h
      obtain ⟨a', first'⟩ := exists_base first qualify
      obtain ⟨text', second'⟩ := exists_render qualify other second
      obtain ⟨combined', joined'⟩ :=
        Dialect.exists_operation joined a' (some text') rfl
      exact ⟨_, a', first', some text', ⟨text', second', rfl⟩, combined', joined', rfl⟩

end Column

namespace Query

variable {q : Query} {p : SelectParts}

theorem exists_derivedTerm {columns : List Column} {o : Ordered} {t : String}
    (h : o.render d s = .ok t) : ∃ u, derivedTerm d s columns o = .ok u := by
  unfold derivedTerm
  split
  · exact ⟨_, rfl⟩
  · obtain ⟨expression, written, _⟩ := map_eq_ok.1 h
    obtain ⟨unqualified, again⟩ := o.column.exists_render false written
    exact ⟨_, map_eq_ok.2 ⟨unqualified, again, rfl⟩⟩

/-- The order of the numbers exists when the query has parts. It is no order for an unordered
query and the order of the query itself for an ordered one, unless the query is distinct. -/
theorem exists_numberingOrder (h : q.parts d s = .ok p) :
    ∃ order, q.numberingOrder d s = .ok order ∧ (q.orderBy = [] → order = anyOrder) ∧
      (q.orderBy ≠ [] → q.distinct = false → p.order = some order) := by
  obtain ⟨t, list, first, others, condition, grouping, having, clause, _, _, _, _, _, _, _, hr,
    rfl⟩ := parts_eq_ok_iff.1 h
  unfold orderPart at hr
  unfold numberingOrder
  split
  · rename_i unordered
    exact ⟨anyOrder, rfl, fun _ => rfl,
      fun ordered => absurd (List.isEmpty_iff.1 unordered) ordered⟩
  · rename_i ordered
    rw [if_neg ordered] at hr
    obtain ⟨text, written, rfl⟩ := map_eq_ok.1 hr
    split
    · rename_i distinct
      obtain ⟨terms, rendered, _⟩ := map_eq_ok.1 written
      obtain ⟨texts, derived⟩ : ∃ texts, q.orderBy.mapM
          (derivedTerm d s (selected q.columns q.orderBy)) = .ok texts :=
        exists_mapM rendered fun _ _ => exists_derivedTerm
      refine ⟨_, map_eq_ok.2 ⟨texts, derived, rfl⟩,
        fun none => absurd (List.isEmpty_iff.2 none) ordered, fun _ plain => ?_⟩
      rw [distinct] at plain
      cases plain
    · exact ⟨text, written, fun none => absurd (List.isEmpty_iff.2 none) ordered, fun _ _ => rfl⟩

/-- The clause that orders the rows of a query, if there is one. -/
theorem order_of_parts (h : q.parts d s = .ok p) :
    (q.orderBy = [] → p.order = none) ∧
      (q.orderBy ≠ [] → ∃ clause, orderClause d s q.orderBy = .ok clause ∧
        p.order = some clause) := by
  obtain ⟨t, list, first, others, condition, grouping, having, clause, _, _, _, _, _, _, _, order,
    rfl⟩ := parts_eq_ok_iff.1 h
  unfold orderPart at order
  constructor
  · intro none
    rw [none] at order
    cases order
    rfl
  · intro some
    rw [if_neg (by simpa using some)] at order
    obtain ⟨text, written, rfl⟩ := map_eq_ok.1 order
    exact ⟨text, written, rfl⟩

end Query

end Numbering

/-! ## Forms and their texts -/

/-- A paged query, by the way its window is taken. -/
inductive PagedForm where
  /-- Limit and offset after the query, as bound values. -/
  | limited (limit offset : Value)
  /-- Rows numbered in the query itself. -/
  | numbered (top offset : Nat) (order : String)
  /-- The rows of a distinct query, numbered around it. -/
  | numberedDistinct (top offset : Nat) (order : String)
  /-- The pseudo column read around an ordered query. -/
  | pseudoOrdered (offset last : Nat)
  /-- The pseudo column read in an unordered query. -/
  | pseudoDirect (offset last : Nat)
  /-- The pseudo column read around an unordered query. -/
  | pseudoWrapped (offset last : Nat)

/-- What a statement puts around the text of a query, and the options that the text is written
with. -/
structure Frame where
  options : SelectOptions
  before : Fragment
  behind : Fragment

namespace Frame

/-- No frame: the query as it is. -/
def plain : Frame := ⟨.standard, [], []⟩

/-- The text in the frame. -/
def around (w : Frame) (f : Fragment) : Fragment := w.before ++ f ++ w.behind

end Frame

namespace PagedForm

/-- The frame of a form. -/
def frame : PagedForm → Frame
  | limited limit offset =>
    { options := .standard
      before := []
      behind := [.text " LIMIT ", .parameter (.ofValue limit),
        .text " OFFSET ", .parameter (.ofValue offset)] }
  | numbered top offset sorting =>
    { options := Query.numberOptions sorting
      before := [.text ("SELECT TOP " ++ toString top ++ " * FROM (")]
      behind := [.text (") p_ WHERE rn_ > " ++ toString offset ++ " ORDER BY rn_")] }
  | numberedDistinct top offset sorting =>
    { options := { SelectOptions.standard with unordered := true }
      before := [.text ("SELECT TOP " ++ toString top ++ " * FROM ("),
        .text ("SELECT d_.*, " ++ Query.numberColumn sorting ++ " FROM (")]
      behind := [.text ") d_",
        .text (") p_ WHERE rn_ > " ++ toString offset ++ " ORDER BY rn_")] }
  | pseudoOrdered offset last =>
    { options := .standard
      before := [.text "SELECT * FROM (SELECT o_.*, ROWNUM AS rn_ FROM ("]
      behind := [.text (") o_) WHERE rn_ > " ++ toString offset ++ " AND rn_ <= " ++
        toString last)] }
  | pseudoDirect offset last =>
    { options := { SelectOptions.standard with
        extraColumn := some "ROWNUM AS rn_"
        extraCondition := some ("ROWNUM <= " ++ toString last) }
      before := [.text "SELECT * FROM ("]
      behind := [.text (") WHERE rn_ > " ++ toString offset)] }
  | pseudoWrapped offset last =>
    { options := .standard
      before := [.text "SELECT * FROM (SELECT b_.*, ROWNUM AS rn_ FROM ("]
      behind := [.text (") b_ WHERE ROWNUM <= " ++ toString last ++ ") WHERE rn_ > " ++
        toString offset)] }

/-- A paged query selects its columns. -/
theorem count_options_frame (form : PagedForm) : form.frame.options.count = false := by
  cases form <;> rfl

/-- The text of a form around the parts of a query. -/
def write (form : PagedForm) (p : SelectParts) : Fragment :=
  form.frame.around (p.write form.frame.options)

/-- The first rows, by number, of a derived table of numbered rows. -/
def topText (top offset : Nat) (derived : Fragment) : Fragment :=
  .text ("SELECT TOP " ++ toString top ++ " * FROM (") ::
    (derived ++ [.text (") p_ WHERE rn_ > " ++ toString offset ++ " ORDER BY rn_")])

end PagedForm

namespace Query

/-- The form a dialect gives to a window of a query, with the order of the numbers if there are
any. -/
def pagedForm (d : Dialect) (q : Query) (w : PageWindow) (order : String) : PagedForm :=
  match d.pagination with
  | .limitOffset => .limited (countValue w.size) (countValue w.offset)
  | .rowNumber =>
    if q.distinct then .numberedDistinct w.size.toNat w.offset.toNat order
    else .numbered w.size.toNat w.offset.toNat order
  | .pseudoRowNumber =>
    if q.orderBy.isEmpty then
      if q.readsPseudoColumn then .pseudoDirect w.offset.toNat w.last.toNat
      else .pseudoWrapped w.offset.toNat w.last.toNat
    else .pseudoOrdered w.offset.toNat w.last.toNat

variable {d : Dialect} {s : Scope} {q : Query} {p : SelectParts} {f : Fragment} {w : PageWindow}

/-- **A paged query is the query in the frame of its form,** written with the options of the form.
Only row numbering needs an order. -/
theorem renderPaged_eq_ok_iff :
    q.renderPaged d s (.ofWindow (some w) (!q.orderBy.isEmpty)) = .ok f ↔
      ∃ sorting, (d.pagination = .rowNumber → q.numberingOrder d s = .ok sorting) ∧
        ∃ body, q.render d s (q.pagedForm d w sorting).frame.options = .ok body ∧
          (q.pagedForm d w sorting).frame.around body = f := by
  have window : (PageState.ofWindow (some w) (!q.orderBy.isEmpty)).window? = some w := by
    cases q.orderBy.isEmpty <;> rfl
  unfold renderPaged pagedForm
  rw [window]
  cases paging : d.pagination with
  | limitOffset =>
    simp only [renderLimited_eq_ok_iff, reduceCtorEq, false_implies, true_and, exists_const]
    rfl
  | rowNumber =>
    simp only [renderRowNumber_eq_ok_iff, renderNumbered_eq_ok_iff, true_implies]
    cases distinct : q.distinct with
    | true =>
      constructor
      · rintro ⟨_, ⟨sorting, numbers, ⟨_, body, written, rfl⟩ | ⟨plain, _⟩⟩, rfl⟩
        · exact ⟨sorting, numbers, body, written, by simp [PagedForm.frame, Frame.around]⟩
        · cases plain
      · rintro ⟨sorting, numbers, body, written, rfl⟩
        exact ⟨_, ⟨sorting, numbers, .inl ⟨rfl, body, written, rfl⟩⟩,
          by simp [PagedForm.frame, Frame.around]⟩
    | false =>
      constructor
      · rintro ⟨body, ⟨sorting, numbers, ⟨apart, _⟩ | ⟨_, written⟩⟩, rfl⟩
        · cases apart
        · exact ⟨sorting, numbers, body, written, rfl⟩
      · rintro ⟨sorting, numbers, body, written, rfl⟩
        exact ⟨body, ⟨sorting, numbers, .inr ⟨rfl, written⟩⟩, rfl⟩
  | pseudoRowNumber =>
    simp only [reduceCtorEq, false_implies, true_and, exists_const]
    cases unordered : q.orderBy.isEmpty with
    | false => exact renderPseudoOrdered_eq_ok_iff
    | true =>
      cases reads : q.readsPseudoColumn with
      | true => exact renderPseudoDirect_eq_ok_iff
      | false => exact renderPseudoWrapped_eq_ok_iff

/-- **The paged text is the form of the dialect around the parts of the query.** -/
theorem renderPaged_eq_write (h : q.parts d s = .ok p) {order : String}
    (numbers : q.numberingOrder d s = .ok order) (w : PageWindow) :
    q.renderPaged d s (.ofWindow (some w) (!q.orderBy.isEmpty)) =
      .ok ((q.pagedForm d w order).write p) :=
  renderPaged_eq_ok_iff.2 ⟨order, fun _ => numbers, _,
    render_eq_write h (PagedForm.count_options_frame _), rfl⟩

end Query

/-! ## What forms yield -/

/-- The number that a bound value stands for. -/
def Value.count : Value → Nat
  | .int _ (some n) => n.val.toNat
  | _ => 0

namespace PagedForm

end PagedForm

namespace OrderedRun

variable {σ κ ρ : Type}

/-- The run of a query that reads the pseudo column. The rows of the tables are numbered one by one
as they satisfy the condition, up to a bound, and grouped then; what is made of a group has a number
beside it. -/
def pseudo (e : OrderedRun σ κ ρ) (last : Nat) : SelectRun (σ × Nat) κ (ρ × Nat) where
  source := scan (fun a n => e.holds a && n ≤ last) 0 e.source
  holds := fun _ => true
  key := fun r => e.key r.1
  passes := fun g => e.passes (g.map Prod.fst)
  aggregates := e.aggregates
  project := fun g => (e.project (g.map Prod.fst), e.number (g.map Prod.snd))

end OrderedRun

namespace PagedForm

variable {σ κ ρ : Type} [DecidableEq κ] [DecidableEq ρ]

end PagedForm

namespace Query

variable {d : Dialect} {q : Query}

section Direct

variable {σ κ ρ : Type} [DecidableEq κ] [DecidableEq ρ] {e : OrderedRun σ κ ρ}

end Direct

end Query

end EntitySql
