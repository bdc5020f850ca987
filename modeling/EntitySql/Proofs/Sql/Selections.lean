import EntitySql.Proofs.Paging.Forms
import EntitySql.Proofs.Sql.Steps

/-!
# Selections inside their statements

A statement of a query is the query in a frame. The frame of a paged statement and that of a count
may write it with other options: the number of the rows besides its columns or instead of them, a
bound on that number, no order (`Query.compile_framed`, `Query.compileCount_framed`).

The queries inside a query stand in its text in parentheses, written as they are (`Query.standsIn`).
So every query of the tree of a query that compiles has one place in the statement, written in the
scope of its path (`Query.exists_place`).
-/

namespace EntitySql

set_option autoImplicit false

open Outcome

variable {d : Dialect} {s : Scope} {f g : Fragment} {q : Query}

/-! ## Connected parts -/

namespace Fragment

theorem infix_parenthesized (something : f.writesNothing = false) : f <:+: f.parenthesized := by
  rw [parenthesized, something, if_neg Bool.false_ne_true]
  exact ⟨[.text "("], [.text ")"], rfl⟩

theorem infix_after (keyword : String) (something : f.writesNothing = false) :
    f <:+: f.after keyword := by
  rw [after, something, if_neg Bool.false_ne_true]
  exact List.infix_cons (List.infix_refl f)

theorem infix_whereClause (extra : Option String) (something : f.writesNothing = false) :
    f <:+: whereClause f extra := by
  cases extra with
  | none => exact infix_after " WHERE " something
  | some e =>
    simp only [whereClause, something, Bool.false_eq_true, if_false]
    exact ⟨[.text " WHERE ("], [.text (") AND " ++ e)], rfl⟩

/-- A node that writes something is a part of its condition. -/
theorem infix_chainedAfter {node : Connective × Fragment} {nodes : List (Connective × Fragment)}
    (member : node ∈ nodes) (something : node.2.writesNothing = false) (started : Bool) :
    node.2 <:+: chainedAfter started nodes := by
  induction nodes generalizing started with
  | nil => cases member
  | cons first rest ih =>
    obtain ⟨c, h⟩ := first
    rw [chainedAfter]
    rcases List.mem_cons.1 member with rfl | later
    · rw [something, if_neg Bool.false_ne_true]
      refine List.IsInfix.trans ?_ List.infix_append_left
      cases started with
      | false => exact List.infix_refl h
      | true => exact List.infix_cons (List.infix_refl h)
    · split
      · exact ih later started
      · exact (ih later true).trans List.infix_append_right

theorem infix_separatedAfter {members : List Fragment} (member : f ∈ members) (separator : String)
    (wrote : Bool) : f <:+: separatedAfter separator wrote members := by
  induction members generalizing wrote with
  | nil => cases member
  | cons first rest ih =>
    rw [separatedAfter]
    rcases List.mem_cons.1 member with rfl | later
    · refine List.IsInfix.trans ?_ List.infix_append_left
      cases wrote with
      | false => exact List.infix_refl f
      | true => exact List.infix_cons (List.infix_refl f)
    · exact (ih later _).trans List.infix_append_right

/-- The fragment stands in another one between parentheses, as a table does or a test for rows. -/
def EnclosedIn (g f : Fragment) : Prop :=
  ∃ opening ∈ ["(", "EXISTS (", "NOT EXISTS ("], .text opening :: (g ++ [.text ")"]) <:+: f

end Fragment

/-! ## Queries inside queries -/

/-- The query is written inside the scope and stands in the fragment between parentheses. -/
def Query.StandsIn (d : Dialect) (s : Scope) (f : Fragment) (q : Query) : Prop :=
  ∃ inner g, s.inside q = .ok inner ∧ q.render d inner .standard = .ok g ∧ g.EnclosedIn f

namespace Query.StandsIn

theorem mono (h : q.StandsIn d s g) (part : g <:+: f) : q.StandsIn d s f := by
  obtain ⟨inner, body, scope, written, opening, word, inside⟩ := h
  exact ⟨inner, body, scope, written, opening, word, inside.trans part⟩

/-- What a query stands in writes something. -/
theorem writes (h : q.StandsIn d s f) : f.writesNothing = false := by
  obtain ⟨_, body, _, _, opening, _, before, behind, rfl⟩ := h
  simp [Fragment.writesNothing, Piece.isEmpty]

end Query.StandsIn

theorem Table.standsIn {t : Table} (h : t.render d s = .ok f) :
    ∀ q ∈ t.queries, q.StandsIn d s f := by
  obtain ⟨source, written, rfl⟩ := Table.render_eq_ok_iff.1 h
  obtain ⟨aliasName, entity | name | inner⟩ := t
  · exact List.forall_mem_nil _
  · exact List.forall_mem_nil _
  · obtain ⟨scope, body, entered, rendered, rfl⟩ := TableSource.render_subQuery_eq_ok_iff.1 written
    refine List.forall_mem_singleton.2 ⟨scope, body, entered, rendered, "(", .head _, ?_⟩
    exact List.infix_append_left

theorem Predicate.standsIn {p : Predicate} (h : p.render d s = .ok f) :
    ∀ q ∈ p.queries, q.StandsIn d s f := by
  rcases p.hasRows_or with ⟨negated, q, rfl⟩ | none
  · obtain ⟨inner, body, entered, rendered, rfl⟩ := Predicate.render_hasRows_eq_ok_iff.1 h
    refine List.forall_mem_singleton.2 ⟨inner, body, entered, rendered,
      negation negated ++ "EXISTS (", ?_, List.infix_refl _⟩
    cases negated <;> decide
  · rw [none]
    exact List.forall_mem_nil _

theorem Predicate.standsIn_renderAll {ps : List Predicate} {fs : List Fragment}
    (h : Predicate.renderAll d s ps = .ok fs) :
    ∀ q ∈ ps.flatMap Predicate.queries, ∃ f ∈ fs, q.StandsIn d s f := by
  induction ps generalizing fs with
  | nil => exact List.forall_mem_nil _
  | cons p ps ih =>
    obtain ⟨first, rest, written, others, rfl⟩ := Predicate.renderAll_cons_eq_ok_iff.1 h
    intro q member
    rw [List.flatMap_cons, List.mem_append] at member
    rcases member with here | later
    · exact ⟨first, List.mem_cons_self, Predicate.standsIn written q here⟩
    · obtain ⟨f, used, inside⟩ := ih others q later
      exact ⟨f, List.mem_cons_of_mem _ used, inside⟩

mutual
/-- The queries in a node are parts of its text: where one stands, something is written. -/
theorem Node.standsIn : ∀ (n : Node) {f : Fragment}, n.render d s = .ok f →
    ∀ q ∈ n.predicates.flatMap Predicate.queries, q.StandsIn d s f
  | .predicate c p, f, h => by
    rw [Node.render_predicate] at h
    rw [Node.predicates, List.flatMap_singleton]
    exact Predicate.standsIn h
  | .nested c nodes, f, h => by
    obtain ⟨members, written, rfl⟩ := Node.render_nested_eq_ok_iff.1 h
    intro q member
    obtain ⟨node, used, inside⟩ := Node.standsIn_renderAll nodes written q member
    have part := Fragment.infix_chainedAfter used inside.writes false
    have whole := inside.mono part
    exact whole.mono (Fragment.infix_parenthesized whole.writes)
  | .group c ps, f, h => by
    obtain ⟨members, written, rfl⟩ := Node.render_group_eq_ok_iff.1 h
    intro q member
    obtain ⟨g, used, inside⟩ := Predicate.standsIn_renderAll written q member
    have whole := inside.mono (Fragment.infix_separatedAfter used c.inner.spaced false)
    exact whole.mono (Fragment.infix_parenthesized whole.writes)

theorem Node.standsIn_renderAll : ∀ (nodes : List Node) {fs : List (Connective × Fragment)},
    Node.renderAll d s nodes = .ok fs →
      ∀ q ∈ Condition.queries nodes, ∃ node ∈ fs, q.StandsIn d s node.2
  | [], _, _ => List.forall_mem_nil _
  | n :: ns, fs, h => by
    obtain ⟨first, rest, written, others, rfl⟩ := Node.renderAll_cons_eq_ok_iff.1 h
    intro q member
    rw [Condition.queries, Node.allPredicates, List.flatMap_append, List.mem_append] at member
    rcases member with here | later
    · exact ⟨_, List.mem_cons_self, Node.standsIn n written q here⟩
    · obtain ⟨node, used, inside⟩ := Node.standsIn_renderAll ns others q later
      exact ⟨node, List.mem_cons_of_mem _ used, inside⟩
end

/-- The queries in a condition are parts of its text. -/
theorem Condition.standsIn {c : Condition} {nodes : List (Connective × Fragment)}
    (h : Node.renderAll d s c = .ok nodes) :
    ∀ q ∈ Condition.queries c, q.StandsIn d s (Fragment.chained nodes) := by
  intro q member
  obtain ⟨node, used, inside⟩ := Node.standsIn_renderAll c h q member
  exact inside.mono (Fragment.infix_chainedAfter used inside.writes false)

theorem Join.standsIn {j : Join} (h : j.render d s = .ok f) :
    ∀ q ∈ j.queries, q.StandsIn d s f := by
  obtain ⟨table, condition, source, on, rfl⟩ := Join.render_eq_ok_iff.1 h
  intro q member
  rw [Join.queries, List.mem_append] at member
  rcases member with inTable | tested
  · refine (Table.standsIn source q inTable).mono ?_
    exact List.infix_cons List.infix_append_left
  · have some : j.on.isEmpty = false := by
      rw [List.isEmpty_eq_false_iff]
      intro none
      rw [none] at tested
      cases tested
    refine (Condition.standsIn on q tested).mono ?_
    rw [some, if_neg Bool.false_ne_true]
    exact List.infix_cons ((List.infix_cons (List.infix_refl _)).trans List.infix_append_right)

theorem Join.standsIn_renderAll {js : List Join} (h : Join.renderAll d s js = .ok f) :
    ∀ q ∈ js.flatMap Join.queries, q.StandsIn d s f := by
  induction js generalizing f with
  | nil => exact List.forall_mem_nil _
  | cons j js ih =>
    obtain ⟨first, rest, written, others, rfl⟩ := Join.renderAll_cons_eq_ok_iff.1 h
    intro q member
    rw [List.flatMap_cons, List.mem_append] at member
    rcases member with here | later
    · exact (Join.standsIn written q here).mono List.infix_append_left
    · exact (ih others q later).mono List.infix_append_right

/-- **The queries that stand in a query are parts of its text,** whatever its options. -/
theorem Query.standsIn {options : SelectOptions} (h : q.render d s options = .ok f) :
    ∀ c ∈ q.queries, c.StandsIn d s f := by
  obtain ⟨t, head, first, others, condition, groups, having, order, table, _, source, joined,
    filter, _, tests, _, rfl⟩ := Query.render_eq_ok_iff.1 h
  intro c member
  rw [Query.queries, List.mem_append, List.mem_append, List.mem_append] at member
  rw [← List.cons_append]
  rcases member with ((inTable | inJoins) | inFilter) | inHaving
  · have own : c ∈ t.queries := by simpa [table] using inTable
    refine (Table.standsIn source c own).mono ?_
    exact ⟨head ++ [.text " FROM "], others ++ whereClause (Fragment.chained condition)
      options.extraCondition ++ groups ++ (Fragment.chained having).after " HAVING " ++ order,
      by simp⟩
  · refine (Join.standsIn_renderAll joined c inJoins).mono ?_
    exact ⟨head ++ .text " FROM " :: first, whereClause (Fragment.chained condition)
      options.extraCondition ++ groups ++ (Fragment.chained having).after " HAVING " ++ order,
      by simp⟩
  · have inside := Condition.standsIn filter c inFilter
    refine (inside.mono (Fragment.infix_whereClause options.extraCondition inside.writes)).mono ?_
    exact ⟨head ++ .text " FROM " :: (first ++ others), groups ++
      (Fragment.chained having).after " HAVING " ++ order, by simp⟩
  · have inside := Condition.standsIn tests c inHaving
    refine (inside.mono (Fragment.infix_after " HAVING " inside.writes)).mono ?_
    exact ⟨head ++ .text " FROM " :: (first ++ others ++ whereClause (Fragment.chained condition)
      options.extraCondition ++ groups), order, by simp⟩

/-! ## The query of a statement -/

namespace Query

/-- The frame of a query in its statement, with the order of the numbers if there are any. -/
def frame (d : Dialect) (q : Query) (sorting : String) : Option PageWindow → Frame
  | none => .plain
  | some w => (q.pagedForm d w sorting).frame

/-- The frame of a query in its count: rows are counted from outside or in place. -/
def countFrame (q : Query) : Frame :=
  if q.countsDerived then
    { options := { SelectOptions.standard with unordered := true }
      before := [.text "SELECT COUNT(*) FROM ("]
      behind := [.text ") c_"] }
  else ⟨{ SelectOptions.standard with count := true }, [], []⟩

/-- **The statement of a query is the query in its frame.** -/
theorem compile_framed {window : Option PageWindow} {st : Statement}
    (h : q.compile d window = .ok st) :
    ∃ sorting body,
      (d.pagination = .rowNumber → window.isSome = true →
        q.numberingOrder d (.along [q]) = .ok sorting) ∧
      q.render d (.along [q]) (q.frame d sorting window).options = .ok body ∧
      st.body = (q.frame d sorting window).around body := by
  obtain ⟨s, body, scope, written, rfl⟩ := compile_eq_ok_iff.1 h
  rw [Scope.ofQuery_eq] at scope
  obtain ⟨_, rfl⟩ := Scope.inside_along scope
  cases window with
  | none => exact ⟨"", body, nofun, written, (List.append_nil body).symm⟩
  | some w =>
    obtain ⟨sorting, numbers, inner, rendered, rfl⟩ := renderPaged_eq_ok_iff.1 written
    exact ⟨sorting, inner, fun numbered _ => numbers numbered, rendered, rfl⟩

/-- **The count of a query is the query in its frame.** -/
theorem compileCount_framed {st : Statement} (h : q.compileCount d = .ok st) :
    ∃ body, q.render d (.along [q]) q.countFrame.options = .ok body ∧
      st.body = q.countFrame.around body := by
  obtain ⟨s, body, scope, forms⟩ := compileCount_eq_ok h
  rw [Scope.ofQuery_eq] at scope
  obtain ⟨_, rfl⟩ := Scope.inside_along scope
  rcases forms with ⟨derived, written, rfl⟩ | ⟨direct, written, rfl⟩
  · rw [countFrame, derived, if_pos rfl]
    exact ⟨body, written, rfl⟩
  · rw [countFrame, direct, if_neg Bool.false_ne_true]
    exact ⟨body, written, (List.append_nil body).symm⟩

/-- The statement has the query in the frame: it selects the rows of the query, all or in a window,
or counts them. -/
def IsFramed (d : Dialect) (q : Query) (st : Statement) (w : Frame) : Prop :=
  (∃ window sorting, q.compile d window = .ok st ∧ w = q.frame d sorting window ∧
    (d.pagination = .rowNumber → window.isSome = true →
      q.numberingOrder d (.along [q]) = .ok sorting)) ∨
  (q.compileCount d = .ok st ∧ w = q.countFrame)

/-- The statement selects the rows of the query, all or in a window, or counts them. -/
def IsStatement (d : Dialect) (q : Query) (st : Statement) : Prop :=
  (∃ window, q.compile d window = .ok st) ∨ q.compileCount d = .ok st

/-- The place of a query of the tree in a statement, with the options it is written with and its
text: the root is framed by the statement, any other query stands between parentheses in the text of
the query around it. -/
inductive Place (root : Query) (d : Dialect) (st : Statement) :
    List Query → SelectOptions → Fragment → Prop where
  | root {w : Frame} {f : Fragment} : root.IsFramed d st w →
      root.render d (.along [root]) w.options = .ok f → st.body = w.around f →
      Place root d st [root] w.options f
  | inner {p c : Query} {path : List Query} {options : SelectOptions} {f g : Fragment} :
      Place root d st (p :: path) options f → c ∈ p.queries →
      c.render d (.along (c :: p :: path)) .standard = .ok g → g.EnclosedIn f →
      Place root d st (c :: p :: path) .standard g

/-- Inner queries are written as they are. -/
theorem options_of_inner {root c p : Query} {path : List Query} {st : Statement}
    {options : SelectOptions} (h : root.Place d st (c :: p :: path) options f) :
    options = .standard := by
  cases h
  rfl

/-- No condition is added to that of the root but the bound of the form that reads the pseudo column
in the query itself, and none to other queries. -/
theorem extraCondition_eq {root c : Query} {outer : List Query} {st : Statement}
    {options : SelectOptions} (h : root.Place d st (c :: outer) options f) :
    options.extraCondition = none ∨ outer = [] ∧ ∃ last : Nat,
      options.extraCondition = some ("ROWNUM <= " ++ toString last) := by
  cases h with
  | inner => exact .inl rfl
  | @root w _ framed =>
    rcases framed with ⟨window, sorting, _, rfl, _⟩ | ⟨_, rfl⟩
    · cases window with
      | none => exact .inl rfl
      | some w =>
        rw [frame]
        cases root.pagedForm d w sorting with
        | pseudoDirect offset last => exact .inr ⟨rfl, last, rfl⟩
        | limited | numbered | numberedDistinct | pseudoOrdered | pseudoWrapped => exact .inl rfl
    · rw [countFrame]
      split <;> exact .inl rfl

/-- **Every query of the tree has a place in the statement,** written in the scope of its path. -/
theorem exists_place {root : Query} {path : List Query} {st : Statement}
    (compiled : root.IsStatement d st) (h : Descends root path) :
    ∃ c outer options f, path = c :: outer ∧ c.render d (.along path) options = .ok f ∧
      root.Place d st path options f := by
  induction h with
  | root =>
    rcases compiled with ⟨window, selected⟩ | counted
    · obtain ⟨sorting, body, numbers, written, framed⟩ := compile_framed selected
      exact ⟨root, [], _, body, rfl, written,
        .root (.inl ⟨window, sorting, selected, rfl, numbers⟩) written framed⟩
    · obtain ⟨body, written, framed⟩ := compileCount_framed counted
      exact ⟨root, [], _, body, rfl, written, .root (.inr ⟨counted, rfl⟩) written framed⟩
  | @inner p c outer above member ih =>
    obtain ⟨_, _, options, f, same, written, place⟩ := ih
    cases same
    obtain ⟨inner, g, entered, rendered, enclosed⟩ := standsIn written c member
    obtain ⟨_, rfl⟩ := Scope.inside_along entered
    exact ⟨c, p :: outer, .standard, g, rfl, rendered, .inner place member rendered enclosed⟩

end Query

end EntitySql
