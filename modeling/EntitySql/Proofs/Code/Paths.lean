import EntitySql.Code.Path
import Mathlib.Data.List.Basic

/-!
# Paths read exactly

A group goes from a token that opens it to the one that closes it, and what is inside closes all
groups it opens. The reader of paths takes just that: a path in which every name has no arguments
or one group of them is read from the tokens that spell it, up to the comma or the end that follows
(`CodePath.read?_append`), and whatever is read as a path spells one (`CodePath.eq_of_read?`).
-/

namespace EntitySql.Code

set_option autoImplicit false

/-! ## Groups -/

/-- From the depth on, the tokens close all groups, and none of the unwanted ones is outside of
them. -/
def Within (unwanted : Token → Bool) (depth : Nat) : List Token → Prop
  | [] => depth = 0
  | t :: rest =>
    (depth = 0 → unwanted t = false) ∧ Within unwanted (nestingAfter depth t) rest

variable {unwanted : Token → Bool} {t close : Token} {inside more rest ts us : List Token}

theorem within_nil : Within unwanted 0 [] := rfl

theorem Within.append : ∀ {depth : Nat} {ts : List Token}, Within unwanted depth ts →
    Within unwanted 0 us → Within unwanted depth (ts ++ us)
  | _, [], h, others => by
    cases h
    exact others
  | _, _ :: _, ⟨outside, h⟩, others => ⟨outside, h.append others⟩

theorem nestingAfter_succ {depth : Nat} (inside : depth = 0 → isClosing t = false) :
    nestingAfter (depth + 1) t = nestingAfter depth t + 1 := by
  cases depth with
  | zero =>
    have opens := inside rfl
    unfold nestingAfter
    split <;> simp_all [isClosing]
  | succ n =>
    unfold nestingAfter
    split <;> simp

theorem nestingAfter_of_isClosing (closes : isClosing t = true) (depth : Nat) :
    nestingAfter depth t = depth - 1 := by
  unfold isClosing at closes
  split at closes
  · rfl
  · rfl
  · cases closes

/-- One level deeper, what closes all its groups is followed by the token that closes the level. -/
theorem Within.closing (closes : isClosing close = true) (others : Within unwanted 0 rest) :
    ∀ {depth : Nat} {inside : List Token}, Within isClosing depth inside →
      Within unwanted (depth + 1) (inside ++ close :: rest)
  | _, [], h => by
    cases h
    refine ⟨nofun, ?_⟩
    rw [nestingAfter_of_isClosing closes]
    exact others
  | depth, t :: inside, ⟨outside, h⟩ => by
    refine ⟨nofun, ?_⟩
    rw [nestingAfter_succ outside]
    exact Within.closing closes others h

/-- What closes all its groups is taken up to the first token that closes another one. -/
theorem spanOutside_isClosing_append (closes : isClosing t = true) :
    ∀ {depth : Nat} {inside : List Token}, Within isClosing depth inside →
      spanOutside isClosing depth (inside ++ t :: rest) = (inside, t :: rest)
  | _, [], h => by
    cases h
    show spanOutside isClosing 0 (t :: rest) = _
    rw [spanOutside, closes]
    rfl
  | depth, u :: inside, ⟨outside, h⟩ => by
    have passed : (decide (depth = 0) && isClosing u) = false := by
      by_cases top : depth = 0
      · rw [outside top, Bool.and_false]
      · rw [decide_eq_false top, Bool.false_and]
    show spanOutside isClosing depth (u :: (inside ++ t :: rest)) = _
    rw [spanOutside, passed, if_neg Bool.false_ne_true, spanOutside_isClosing_append closes h]

theorem within_of_spanOutside : ∀ {depth : Nat} {ts inside : List Token},
    spanOutside isClosing depth ts = (inside, t :: rest) →
      ts = inside ++ t :: rest ∧ Within isClosing depth inside ∧ isClosing t = true
  | depth, [], _, h => by
    rw [spanOutside] at h
    cases h
  | depth, u :: us, inside, h => by
    rw [spanOutside] at h
    cases top : decide (depth = 0) && isClosing u with
    | true =>
      rw [top, if_pos rfl] at h
      cases h
      obtain ⟨top, closes⟩ := Bool.and_eq_true_iff.1 top
      exact ⟨rfl, (of_decide_eq_true top : depth = 0), closes⟩
    | false =>
      rw [top, if_neg Bool.false_ne_true] at h
      cases others : spanOutside isClosing (nestingAfter depth u) us with
      | mk inside' rest' =>
        rw [others] at h
        cases h
        obtain ⟨rfl, within, closes⟩ := within_of_spanOutside others
        refine ⟨rfl, ⟨fun outside => ?_, within⟩, closes⟩
        rw [outside] at top
        exact top

/-- A group is what closes all its groups before the token that closes it. -/
theorem readGroup?_eq_some_iff (closes : isClosing close = true) :
    readGroup? close ts = some (inside, more) ↔
      ts = inside ++ close :: more ∧ Within isClosing 0 inside := by
  constructor
  · intro read
    unfold readGroup? at read
    split at read
    · next spanned =>
      obtain ⟨rfl, within, -⟩ := within_of_spanOutside spanned
      split at read
      · next same =>
        cases read
        exact ⟨same ▸ rfl, within⟩
      · cases read
    · cases read
  · rintro ⟨rfl, within⟩
    rw [readGroup?, spanOutside_isClosing_append closes within]
    exact if_pos rfl

/-! ## Arguments -/

/-- The token ends a part of a list. -/
def endsPart (t : Token) : Bool := isClosing t || t == .mark ","

/-- What stands before and behind the arguments of a name. -/
def argumentBrackets : List (List Token × Token) :=
  [([.mark "<"], .mark ">"), ([.mark "::", .mark "<"], .mark ">"),
    ([.opening .round], .closing .round)]

/-- The name has no arguments, or one group of them. -/
def PathSegment.IsClosed (s : PathSegment) : Prop :=
  s.arguments = [] ∨
    ∃ b ∈ argumentBrackets, ∃ inside,
      Within isClosing 0 inside ∧ s.arguments = b.1 ++ inside ++ [b.2]

theorem isClosing_of_mem_argumentBrackets : ∀ b ∈ argumentBrackets, isClosing b.2 = true := by
  decide

theorem readArguments?_bracket {b : List Token × Token} (bracket : b ∈ argumentBrackets)
    (ts : List Token) :
    readArguments? (b.1 ++ ts) = readArguments?.enclosedBy b.1 b.2 ts := by
  rcases List.mem_cons.1 bracket with rfl | bracket
  · rfl
  rcases List.mem_cons.1 bracket with rfl | bracket
  · rfl
  rcases List.mem_singleton.1 bracket with rfl
  rfl

theorem enclosedBy_eq_some_iff {before arguments : List Token} (closes : isClosing close = true) :
    readArguments?.enclosedBy before close ts = some (arguments, more) ↔
      ∃ inside, ts = inside ++ close :: more ∧ Within isClosing 0 inside ∧
        arguments = before ++ inside ++ [close] := by
  simp only [readArguments?.enclosedBy, Option.map_eq_some_iff, Prod.exists,
    readGroup?_eq_some_iff closes, Prod.mk.injEq]
  constructor
  · rintro ⟨inside, _, ⟨rfl, within⟩, rfl, rfl⟩
    exact ⟨inside, rfl, within, rfl⟩
  · rintro ⟨inside, rfl, within, rfl⟩
    exact ⟨inside, more, ⟨rfl, within⟩, rfl, rfl⟩

/-- Arguments are read up to what follows, if that starts no arguments itself. -/
theorem readArguments?_append {s : PathSegment} (closed : s.IsClosed)
    (follows : readArguments? more = some ([], more)) :
    readArguments? (s.arguments ++ more) = some (s.arguments, more) := by
  rcases closed with none | ⟨b, bracket, inside, within, arguments⟩
  · rw [none]
    exact follows
  · rw [arguments, List.append_assoc, List.append_assoc, readArguments?_bracket bracket]
    have closes := isClosing_of_mem_argumentBrackets b bracket
    exact (enclosedBy_eq_some_iff closes).2 ⟨inside, rfl, within, rfl⟩

theorem eq_of_readArguments? {arguments : List Token} (name : String)
    (read : readArguments? ts = some (arguments, more)) :
    ts = arguments ++ more ∧ (PathSegment.mk name arguments).IsClosed := by
  have ofBracket : ∀ b ∈ argumentBrackets, ∀ us,
      readArguments?.enclosedBy b.1 b.2 us = some (arguments, more) →
        b.1 ++ us = arguments ++ more ∧ (PathSegment.mk name arguments).IsClosed := by
    intro b bracket us read
    obtain ⟨inside, rfl, within, rfl⟩ :=
      (enclosedBy_eq_some_iff (isClosing_of_mem_argumentBrackets b bracket)).1 read
    exact ⟨by simp, .inr ⟨b, bracket, inside, within, rfl⟩⟩
  unfold readArguments? at read
  split at read
  · exact ofBracket _ (.head _) _ read
  · exact ofBracket _ (.tail _ (.head _)) _ read
  · exact ofBracket _ (.tail _ (.tail _ (.head _))) _ read
  · cases read
    exact ⟨rfl, .inl rfl⟩

theorem PathSegment.IsClosed.within {s : PathSegment} (closed : s.IsClosed) :
    Within endsPart 0 s.arguments := by
  rcases closed with none | ⟨b, bracket, inside, within, arguments⟩
  · rw [none]
    rfl
  · have group : Within endsPart 1 (inside ++ [b.2]) :=
      Within.closing (isClosing_of_mem_argumentBrackets b bracket) within_nil within
    rw [arguments, List.append_assoc]
    rcases List.mem_cons.1 bracket with rfl | bracket
    · exact ⟨fun _ => rfl, group⟩
    rcases List.mem_cons.1 bracket with rfl | bracket
    · exact ⟨fun _ => rfl, fun _ => rfl, group⟩
    rcases List.mem_singleton.1 bracket with rfl
    exact ⟨fun _ => rfl, group⟩

/-! ## Paths -/

/-- What can follow a value in a list: nothing, or a comma and more. -/
def EndsPart (more : List Token) : Prop := more = [] ∨ ∃ rest, more = .mark "," :: rest

/-- The names of a path as tokens. -/
def segmentTokens (segments : List PathSegment) : List Token :=
  [Token.mark "::"].intercalate (segments.map PathSegment.tokens)

/-- The path has a name, and every name has no arguments or one group of them. -/
def CodePath.IsClosed (p : CodePath) : Prop :=
  p.segments ≠ [] ∧ ∀ s ∈ p.segments, s.IsClosed

theorem segmentTokens_singleton (s : PathSegment) :
    segmentTokens [s] = .word s.name :: s.arguments := by
  simp [segmentTokens, PathSegment.tokens]

theorem segmentTokens_cons_cons (s u : PathSegment) (segments : List PathSegment) :
    segmentTokens (s :: u :: segments) =
      .word s.name :: s.arguments ++ .mark "::" :: segmentTokens (u :: segments) := by
  simp [segmentTokens, PathSegment.tokens, List.intercalate_cons_cons]

theorem exists_segmentTokens_cons (s : PathSegment) (segments : List PathSegment) :
    ∃ rest, segmentTokens (s :: segments) = .word s.name :: rest := by
  cases segments with
  | nil => exact ⟨_, segmentTokens_singleton s⟩
  | cons u segments => exact ⟨_, segmentTokens_cons_cons s u segments⟩

theorem readArguments?_of_endsPart (ends : EndsPart more) :
    readArguments? more = some ([], more) := by
  rcases ends with rfl | ⟨rest, rfl⟩ <;> rfl

theorem readSegments?_append (ends : EndsPart more) :
    ∀ (fuel : Nat) {segments : List PathSegment}, segments ≠ [] →
      (∀ s ∈ segments, s.IsClosed) → segments.length ≤ fuel →
        readSegments? fuel (segmentTokens segments ++ more) = some (segments, more)
  | _, [], nonempty, _, _ => absurd rfl nonempty
  | fuel + 1, [s], _, closed, _ => by
    have read := readArguments?_append (closed s (.head _)) (readArguments?_of_endsPart ends)
    rw [segmentTokens_singleton, List.cons_append, readSegments?, read]
    rcases ends with rfl | ⟨rest, rfl⟩ <;> rfl
  | fuel + 1, s :: u :: segments, _, closed, enough => by
    have others := readSegments?_append ends fuel (List.cons_ne_nil u segments)
      (fun v member => closed v (.tail _ member)) (Nat.le_of_succ_le_succ enough)
    obtain ⟨rest, starts⟩ := exists_segmentTokens_cons u segments
    have follows : readArguments? (.mark "::" :: (segmentTokens (u :: segments) ++ more)) =
        some ([], .mark "::" :: (segmentTokens (u :: segments) ++ more)) := by
      rw [starts]
      rfl
    have read := readArguments?_append (closed s (.head _)) follows
    rw [segmentTokens_cons_cons, List.cons_append, List.cons_append, List.append_assoc,
      List.cons_append, readSegments?, read]
    show (readSegments? fuel (segmentTokens (u :: segments) ++ more)).map _ = _
    rw [others]
    rfl

theorem eq_of_readSegments? : ∀ (fuel : Nat) {ts : List Token} {segments : List PathSegment},
    readSegments? fuel ts = some (segments, more) →
      ts = segmentTokens segments ++ more ∧ segments ≠ [] ∧ ∀ s ∈ segments, s.IsClosed
  | 0, ts, _, read => by
    cases ts <;> cases read
  | fuel + 1, ts, segments, read => by
    unfold readSegments? at read
    split at read
    · next name rest same =>
      cases same
      split at read
      · next arguments next arguments' =>
        obtain ⟨⟨others, more'⟩, readOthers, same⟩ := Option.map_eq_some_iff.1 read
        cases same
        obtain ⟨rfl, nonempty, closed⟩ := eq_of_readSegments? fuel readOthers
        obtain ⟨rfl, first⟩ := eq_of_readArguments? name arguments'
        refine ⟨?_, List.cons_ne_nil _ _, List.forall_mem_cons.2 ⟨first, closed⟩⟩
        obtain ⟨u, others, rfl⟩ := List.exists_cons_of_ne_nil nonempty
        simp [segmentTokens_cons_cons]
      · next arguments more' _ arguments' =>
        cases read
        obtain ⟨rfl, first⟩ := eq_of_readArguments? name arguments'
        refine ⟨?_, List.cons_ne_nil _ _, List.forall_mem_singleton.2 first⟩
        simp [segmentTokens_singleton]
      · cases read
    · cases read

namespace CodePath

variable {p : CodePath}

theorem length_segments_le : ∀ segments : List PathSegment,
    segments.length ≤ (segmentTokens segments).length
  | [] => Nat.zero_le _
  | [s] => by simp [segmentTokens_singleton]
  | s :: u :: segments => by
    have others := length_segments_le (u :: segments)
    rw [segmentTokens_cons_cons]
    simp only [List.length_append, List.length_cons] at others ⊢
    omega

/-- A path is read from the tokens that spell it. -/
theorem read?_append (closed : p.IsClosed) (ends : EndsPart more) :
    read? (p.tokens ++ more) = some (p, more) := by
  obtain ⟨rooted, segments⟩ := p
  obtain ⟨nonempty, closed⟩ := closed
  have enough : segments.length ≤ (segmentTokens segments ++ more).length := by
    have := length_segments_le segments
    rw [List.length_append]
    omega
  have segmentsRead : readSegments? (segmentTokens segments ++ more).length
      (segmentTokens segments ++ more) = some (segments, more) :=
    readSegments?_append ends _ nonempty closed enough
  cases rooted with
  | true =>
    show (readSegments? (segmentTokens segments ++ more).length
      (segmentTokens segments ++ more)).map _ = _
    rw [segmentsRead]
    rfl
  | false =>
    obtain ⟨s, segments, rfl⟩ := List.exists_cons_of_ne_nil nonempty
    obtain ⟨rest, starts⟩ := exists_segmentTokens_cons s segments
    rw [starts] at segmentsRead
    show read? (segmentTokens (s :: segments) ++ more) = _
    rw [starts]
    show (readSegments? (.word s.name :: rest ++ more).length
      (.word s.name :: rest ++ more)).map _ = _
    rw [segmentsRead]
    rfl

/-- What is read as a path spells it. -/
theorem eq_of_read? (read : read? ts = some (p, more)) : ts = p.tokens ++ more ∧ p.IsClosed := by
  unfold read? at read
  split at read
  all_goals
    obtain ⟨⟨segments, more'⟩, segmentsRead, same⟩ := Option.map_eq_some_iff.1 read
    cases same
    obtain ⟨rfl, closed⟩ := eq_of_readSegments? _ segmentsRead
    exact ⟨rfl, closed⟩

/-- Nothing in a path but the inside of its arguments can end a part of a list. -/
theorem within_segmentTokens : ∀ segments : List PathSegment, (∀ s ∈ segments, s.IsClosed) →
    Within endsPart 0 (segmentTokens segments)
  | [], _ => rfl
  | [s], closed => by
    rw [segmentTokens_singleton]
    exact ⟨fun _ => rfl, (closed s (.head _)).within⟩
  | s :: u :: segments, closed => by
    have others := within_segmentTokens (u :: segments) fun v member => closed v (.tail _ member)
    rw [segmentTokens_cons_cons]
    exact ⟨fun _ => rfl, (closed s (.head _)).within.append ⟨fun _ => rfl, others⟩⟩

theorem IsClosed.within (closed : p.IsClosed) : Within endsPart 0 p.tokens := by
  have segments := within_segmentTokens p.segments closed.2
  obtain ⟨rooted, _⟩ := p
  cases rooted with
  | true => exact ⟨fun _ => rfl, segments⟩
  | false => exact segments

theorem IsClosed.tokens_ne_nil (closed : p.IsClosed) : p.tokens ≠ [] := by
  obtain ⟨s, segments, eq⟩ := List.exists_cons_of_ne_nil closed.1
  obtain ⟨rest, starts⟩ := exists_segmentTokens_cons s segments
  have tokens : p.tokens =
      (if p.rooted then [Token.mark "::"] else []) ++ segmentTokens p.segments := rfl
  rw [tokens, eq, starts]
  exact List.append_ne_nil_of_right_ne_nil _ (List.cons_ne_nil _ _)

end CodePath

end EntitySql.Code
