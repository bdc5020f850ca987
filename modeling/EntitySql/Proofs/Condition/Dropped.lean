import EntitySql.Proofs.Sql.Rendering

/-!
# Dropped predicates

A range without bounds is dropped: it is written as nothing. Every other predicate writes
something (`Predicate.writesNothing_render`), so it can be told from a fragment whether its
predicate was dropped. A condition is full when nothing in it is dropped or empty; then each of its
nodes writes something (`Node.renderAll_writes`) and its members stand between separators.
-/

namespace EntitySql

set_option autoImplicit false

open Outcome

variable {d : Dialect} {s : Scope} {f : Fragment}

/-- The scope of one table without alias. -/
def soleTable : Scope := ⟨[⟨"", none⟩], [], true, true, false⟩

/-- The predicate is a range without bounds. -/
def Predicate.isDropped : Predicate → Bool
  | .between _ low high => low.isNull && high.isNull
  | _ => false

mutual
/-- No predicate of the node is dropped, and no group or nested condition in it is empty. -/
def Node.isFull : Node → Bool
  | .predicate _ p => !p.isDropped
  | .nested _ nodes => !nodes.isEmpty && Node.allFull nodes
  | .group _ members => !members.isEmpty && members.all fun p => !p.isDropped
  termination_by structural node => node

/-- The nodes are full. -/
def Node.allFull : List Node → Bool
  | [] => true
  | node :: nodes => node.isFull && Node.allFull nodes
  termination_by structural nodes => nodes
end

theorem Dialect.placeholder_ne_empty (n : Nat) : d.placeholder n ≠ "" := by
  intro empty
  have chars := congrArg String.toList empty
  cases d <;> simp [Dialect.placeholder] at chars

namespace Fragment

/-- What ends with a word writes something. -/
theorem writesNothing_of_word {a b : String} (h : b ≠ "") :
    writesNothing (.text (a ++ b) :: f) = false := by
  simp [writesNothing, Piece.isEmpty, h]

theorem writesNothing_append (f g : Fragment) :
    writesNothing (f ++ g) = (f.writesNothing && g.writesNothing) := List.all_append

/-- A fragment writes nothing when its text is empty. -/
theorem sqlFrom_eq_empty_iff (n : Nat) : f.sqlFrom d n = "" ↔ f.writesNothing = true := by
  induction f generalizing n with
  | nil => simp [writesNothing]
  | cons piece f ih =>
    cases piece with
    | text s => simp [writesNothing, Piece.isEmpty, ih n]
    | parameter p => simp [writesNothing, Piece.isEmpty, Dialect.placeholder_ne_empty]

theorem writesNothing_parenthesized : f.parenthesized.writesNothing = f.writesNothing := by
  unfold parenthesized
  split
  · rename_i nothing
    rw [nothing]
    rfl
  · rename_i something
    rw [Bool.not_eq_true] at something
    rw [something]
    rfl

/-- A chain writes nothing when no member does. -/
theorem writesNothing_chainedAfter (nodes : List (Connective × Fragment)) (started : Bool) :
    (chainedAfter started nodes).writesNothing = nodes.all fun node => node.2.writesNothing := by
  induction nodes generalizing started with
  | nil => rfl
  | cons node rest ih =>
    obtain ⟨c, g⟩ := node
    rw [chainedAfter, List.all_cons]
    split
    · rename_i nothing
      rw [ih, nothing, Bool.true_and]
    · rename_i something
      rw [Bool.not_eq_true] at something
      rw [something, Bool.false_and, writesNothing_append]
      cases started with
      | false => rw [if_neg Bool.false_ne_true, something, Bool.false_and]
      | true => cases c <;> rfl

theorem writesNothing_chained {nodes : List (Connective × Fragment)} (notEmpty : nodes ≠ [])
    (write : ∀ node ∈ nodes, node.2.writesNothing = false) :
    (chained nodes).writesNothing = false := by
  obtain ⟨node, rest, rfl⟩ := List.exists_cons_of_ne_nil notEmpty
  rw [chained, writesNothing_chainedAfter, List.all_cons, write node List.mem_cons_self,
    Bool.false_and]

theorem separatedAfter_eq_chainedAfter {c : Connective} {members : List Fragment}
    (h : ∀ f ∈ members, f.writesNothing = false) (wrote : Bool) :
    separatedAfter c.spaced wrote members = chainedAfter wrote (members.map fun f => (c, f)) := by
  induction members generalizing wrote with
  | nil => rfl
  | cons f fs ih =>
    have something : f.writesNothing = false := h f List.mem_cons_self
    have others := ih (fun g member => h g (List.mem_cons_of_mem _ member)) true
    rw [separatedAfter, List.map_cons, chainedAfter, something, if_neg Bool.false_ne_true,
      Bool.not_false, others]

/-- Between members that all write something there is a separator. -/
theorem separated_eq_chained {c : Connective} {members : List Fragment}
    (h : ∀ f ∈ members, f.writesNothing = false) :
    separated c.spaced members = chained (members.map fun f => (c, f)) :=
  separatedAfter_eq_chainedAfter h false

theorem writesNothing_joined {c : Connective} {members : List Fragment} (notEmpty : members ≠ [])
    (write : ∀ f ∈ members, f.writesNothing = false) :
    (chained (members.map fun f => (c, f))).writesNothing = false := by
  refine writesNothing_chained ?_ ?_
  · simpa using notEmpty
  · intro node member
    obtain ⟨f, used, rfl⟩ := List.mem_map.1 member
    exact write f used

end Fragment

theorem Dialect.emptyTest_ne_empty (left : String) (negated : Bool) :
    d.emptyTest left negated ≠ "" := by
  intro empty
  have chars := congrArg String.toList empty
  cases d <;> cases negated <;> simp [Dialect.emptyTest, negation] at chars

namespace Predicate

/-- A dropped predicate is written as nothing. -/
theorem render_of_isDropped {p : Predicate} (h : p.render d s = .ok f)
    (dropped : p.isDropped = true) : f = [] := by
  cases p with
  | between c low high =>
    obtain ⟨l, _, written⟩ := render_between_eq_ok_iff.1 h
    rcases betweenTest_eq_ok written with ⟨_, _, rfl⟩ | ⟨present, _, _⟩
    · rfl
    · simp [isDropped, present] at dropped
  | compare c k operand => cases dropped
  | like c place negated part => cases dropped
  | among c negated values => cases dropped
  | isNull c negated => cases dropped
  | isEmpty c negated => cases dropped
  | hasRows negated q => cases dropped

/-- **A predicate writes nothing exactly when it is dropped.** -/
theorem writesNothing_render {p : Predicate} (h : p.render d s = .ok f) :
    f.writesNothing = p.isDropped := by
  cases dropped : p.isDropped with
  | true =>
    rw [render_of_isDropped h dropped]
    rfl
  | false =>
    cases p with
    | compare c k operand =>
      obtain ⟨l, _, written⟩ := render_compare_eq_ok_iff.1 h
      rcases compareTest_eq_ok written with
        ⟨v, _, _, rfl⟩ | ⟨v, _, _, rfl⟩ | ⟨other, right, _, _, rfl⟩
      · refine Fragment.writesNothing_of_word ?_
        split <;> decide
      · exact Fragment.writesNothing_of_word (by decide)
      · simp [Fragment.writesNothing, Piece.isEmpty]
    | like c place negated part =>
      obtain ⟨l, text, _, _, rfl⟩ := render_like_eq_ok_iff.1 h
      exact Fragment.writesNothing_of_word (by decide)
    | among c negated values =>
      obtain ⟨l, _, rfl⟩ := render_among_eq_ok_iff.1 h
      unfold amongTest
      split
      · cases negated <;> rfl
      · exact Fragment.writesNothing_of_word (by decide)
    | isNull c negated =>
      obtain ⟨l, _, rfl⟩ := render_isNull_eq_ok_iff.1 h
      exact Fragment.writesNothing_of_word (by decide)
    | isEmpty c negated =>
      obtain ⟨l, _, rfl⟩ := render_isEmpty_eq_ok_iff.1 h
      simp [Fragment.writesNothing, Piece.isEmpty, Dialect.emptyTest_ne_empty]
    | between c low high =>
      obtain ⟨l, _, written⟩ := render_between_eq_ok_iff.1 h
      rcases betweenTest_eq_ok written with ⟨lowNull, highNull, _⟩ | ⟨_, _, rfl⟩
      · simp [isDropped, lowNull, highNull] at dropped
      · exact Fragment.writesNothing_of_word (by decide)
    | hasRows negated q =>
      obtain ⟨inner, body, _, _, rfl⟩ := render_hasRows_eq_ok_iff.1 h
      exact Fragment.writesNothing_of_word (by decide)

end Predicate

/-! ## Full conditions -/

theorem Predicate.renderAll_writes {ps : List Predicate} {fs : List Fragment}
    (h : Predicate.renderAll d s ps = .ok fs) (kept : ∀ p ∈ ps, p.isDropped = false) :
    ∀ f ∈ fs, f.writesNothing = false := by
  induction ps generalizing fs with
  | nil =>
    rw [renderAll_nil_eq_ok_iff.1 h]
    exact List.forall_mem_nil _
  | cons p ps ih =>
    obtain ⟨first, rest, one, others, rfl⟩ := renderAll_cons_eq_ok_iff.1 h
    intro f member
    rcases List.mem_cons.1 member with rfl | member
    · rw [writesNothing_render one, kept p List.mem_cons_self]
    · exact ih others (fun q used => kept q (List.mem_cons_of_mem _ used)) f member

theorem Predicate.renderAll_ne_nil {ps : List Predicate} {fs : List Fragment}
    (h : renderAll d s ps = .ok fs) (notEmpty : ps ≠ []) : fs ≠ [] := by
  obtain ⟨p, rest, rfl⟩ := List.exists_cons_of_ne_nil notEmpty
  obtain ⟨first, others, _, _, rfl⟩ := renderAll_cons_eq_ok_iff.1 h
  exact List.cons_ne_nil _ _

theorem Node.renderAll_ne_nil {nodes : List Node} {fs : List (Connective × Fragment)}
    (h : Node.renderAll d s nodes = .ok fs) (notEmpty : nodes ≠ []) : fs ≠ [] := by
  obtain ⟨node, rest, rfl⟩ := List.exists_cons_of_ne_nil notEmpty
  obtain ⟨first, others, _, _, rfl⟩ := Node.renderAll_cons_eq_ok_iff.1 h
  exact List.cons_ne_nil _ _

mutual
/-- **A full node writes something.** -/
theorem Node.render_writes : ∀ (node : Node) {f : Fragment}, node.render d s = .ok f →
    node.isFull = true → f.writesNothing = false
  | .predicate _ p, f, h, full => by
    rw [Node.render_predicate] at h
    rw [Node.isFull, Bool.not_eq_true'] at full
    rw [Predicate.writesNothing_render h, full]
  | .nested _ nodes, f, h, full => by
    obtain ⟨members, written, rfl⟩ := Node.render_nested_eq_ok_iff.1 h
    rw [Node.isFull, Bool.and_eq_true, Bool.not_eq_true', List.isEmpty_eq_false_iff] at full
    rw [Fragment.writesNothing_parenthesized]
    exact Fragment.writesNothing_chained (Node.renderAll_ne_nil written full.1)
      (Node.renderAll_writes nodes written full.2)
  | .group c members, f, h, full => by
    obtain ⟨fs, written, rfl⟩ := Node.render_group_eq_ok_iff.1 h
    rw [Node.isFull, Bool.and_eq_true, Bool.not_eq_true', List.isEmpty_eq_false_iff,
      List.all_eq_true] at full
    have write := Predicate.renderAll_writes written fun p member => by simpa using full.2 p member
    rw [Fragment.writesNothing_parenthesized, Fragment.separated_eq_chained write]
    exact Fragment.writesNothing_joined (Predicate.renderAll_ne_nil written full.1) write

theorem Node.renderAll_writes : ∀ (nodes : List Node) {fs : List (Connective × Fragment)},
    Node.renderAll d s nodes = .ok fs → Node.allFull nodes = true →
      ∀ node ∈ fs, node.2.writesNothing = false
  | [], fs, h, _ => by
    rw [Node.renderAll_nil_eq_ok_iff.1 h]
    exact List.forall_mem_nil _
  | node :: nodes, fs, h, full => by
    obtain ⟨first, rest, one, others, rfl⟩ := Node.renderAll_cons_eq_ok_iff.1 h
    rw [Node.allFull, Bool.and_eq_true] at full
    intro member used
    rcases List.mem_cons.1 used with rfl | used
    · exact Node.render_writes node one full.1
    · exact Node.renderAll_writes nodes others full.2 member used
end

end EntitySql
