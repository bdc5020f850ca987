import EntitySql.Declaration.Attribute
import EntitySql.Proofs.Code.Paths
import Mathlib.Data.List.Forall2

/-!
# Values of entries

The value of an entry is a text, another literal, a path or a tuple of values. How it is written is
said here by its parts, without reading it: each member of a tuple has a comma behind it, but the
last of several may have none (`EntryValue.Spells`).

The reader takes the value from the tokens that spell it (`EntryValue.read_append`), and what it
takes spells the value unless a part of it could not be read (`EntryValue.spells_of_read`).
-/

namespace EntitySql

set_option autoImplicit false

open Code

/-! ## Parts with commas behind them -/

/-- The parts, each with a comma behind it. -/
def terminated (parts : List (List Token)) : List Token := parts.flatMap (· ++ [Token.mark ","])

theorem terminated_cons (part : List Token) (parts : List (List Token)) :
    terminated (part :: parts) = part ++ .mark "," :: terminated parts := by
  simp [terminated]

theorem terminated_append_singleton (parts : List (List Token)) (part : List Token) :
    terminated (parts ++ [part]) = terminated parts ++ part ++ [.mark ","] := by
  simp [terminated]

variable {ts more : List Token} {parts : List (List Token)}

/-- A token that ends no part is the next one of its part. -/
theorem splitCommas_cons {depth : Nat} {t : Token} (inside : depth = 0 → endsPart t = false)
    {part : List Token} (split : splitCommas (nestingAfter depth t) ts = part :: parts) :
    splitCommas depth (t :: ts) = (t :: part) :: parts := by
  have passed : (decide (depth = 0) && t == .mark ",") = false := by
    by_cases top : depth = 0
    · rw [(Bool.or_eq_false_iff.1 (inside top)).2, Bool.and_false]
    · rw [decide_eq_false top, Bool.false_and]
  rw [splitCommas, passed, if_neg Bool.false_ne_true, split]

theorem splitCommas_append : ∀ {depth : Nat} {part : List Token}, Within endsPart depth part →
    splitCommas depth (part ++ .mark "," :: more) = part :: splitCommas 0 more
  | _, [], h => by
    cases h
    rfl
  | _, _ :: _, ⟨inside, h⟩ => splitCommas_cons inside (splitCommas_append h)

theorem splitCommas_eq_singleton : ∀ {depth : Nat} {part : List Token},
    Within endsPart depth part → splitCommas depth part = [part]
  | _, [], _ => rfl
  | _, _ :: _, ⟨inside, h⟩ => splitCommas_cons inside (splitCommas_eq_singleton h)

theorem splitCommas_terminated : ∀ {parts : List (List Token)},
    (∀ part ∈ parts, Within endsPart 0 part) →
      splitCommas 0 (terminated parts ++ more) = parts ++ splitCommas 0 more
  | [], _ => rfl
  | part :: parts, whole => by
    obtain ⟨first, others⟩ := List.forall_mem_cons.1 whole
    rw [terminated_cons, List.append_assoc, List.cons_append, splitCommas_append first,
      splitCommas_terminated others]
    rfl

theorem splitCommas_ne_nil (depth : Nat) (ts : List Token) : splitCommas depth ts ≠ [] := by
  cases ts with
  | nil => exact List.cons_ne_nil _ _
  | cons t ts =>
    rw [splitCommas]
    split
    · exact List.cons_ne_nil _ _
    · split <;> exact List.cons_ne_nil _ _

/-- The parts with commas between them are the tokens. -/
theorem terminated_splitCommas : ∀ (depth : Nat) (ts : List Token),
    terminated (splitCommas depth ts) = ts ++ [.mark ","]
  | _, [] => rfl
  | depth, t :: ts => by
    rw [splitCommas]
    split
    · next comma =>
      have same : t = .mark "," := beq_iff_eq.1 (Bool.and_eq_true_iff.1 comma).2
      rw [terminated_cons, terminated_splitCommas, same]
      rfl
    · have others := terminated_splitCommas (nestingAfter depth t) ts
      split
      · next none => exact absurd none (splitCommas_ne_nil _ _)
      · next part parts split =>
        rw [split, terminated_cons] at others
        rw [terminated_cons, List.cons_append, others]
        rfl

/-! ## Values -/

mutual
/-- The tokens spell the value. Behind the last member of a tuple the comma may be missing, unless
it is the only member. -/
def EntryValue.Spells : EntryValue → List Token → Prop
  | .text content, ts => ts = [.text content]
  | .literal written, ts => ts = [.literal written]
  | .path p, ts => p.IsClosed ∧ ts = p.tokens
  | .tuple members, ts => ∃ inside, ts = enclosed .round inside ∧
    (membersSpell members inside ∨
      2 ≤ members.length ∧ membersSpell members (inside ++ [.mark ","]))
  | .other, _ => False
  termination_by structural v => v

/-- The tokens spell the values, each with a comma behind it. -/
def membersSpell : List EntryValue → List Token → Prop
  | [], ts => ts = []
  | v :: rest, ts => ∃ first others, ts = first ++ .mark "," :: others ∧ v.Spells first ∧
    membersSpell rest others
  termination_by structural vs => vs
end

mutual
/-- Nothing in the value has been left unread. -/
def EntryValue.isClear : EntryValue → Bool
  | .tuple members => membersClear members
  | .other => false
  | _ => true
  termination_by structural v => v

def membersClear : List EntryValue → Bool
  | [] => true
  | v :: rest => v.isClear && membersClear rest
  termination_by structural vs => vs
end

theorem membersSpell_iff : ∀ {vs : List EntryValue} {ts : List Token}, membersSpell vs ts ↔
    ∃ parts, List.Forall₂ EntryValue.Spells vs parts ∧ ts = terminated parts
  | [], ts => by
    constructor
    · rintro rfl
      exact ⟨[], .nil, rfl⟩
    · rintro ⟨_, ⟨⟩, rfl⟩
      rfl
  | v :: vs, ts => by
    constructor
    · rintro ⟨first, others, rfl, spells, members⟩
      obtain ⟨parts, pairs, rfl⟩ := membersSpell_iff.1 members
      exact ⟨first :: parts, .cons spells pairs, (terminated_cons _ _).symm⟩
    · rintro ⟨_, pairs, rfl⟩
      cases pairs with
      | cons spells pairs =>
        exact ⟨_, _, terminated_cons _ _, spells, membersSpell_iff.2 ⟨_, pairs, rfl⟩⟩

theorem membersClear_iff : ∀ {vs : List EntryValue},
    membersClear vs = true ↔ ∀ v ∈ vs, v.isClear = true
  | [] => ⟨fun _ => List.forall_mem_nil _, fun _ => rfl⟩
  | v :: vs => by
    rw [List.forall_mem_cons, ← membersClear_iff]
    exact Bool.and_eq_true_iff

/-- The tokens can be a part of a list. -/
def IsPart (part : List Token) : Prop := part ≠ [] ∧ Within endsPart 0 part

theorem within_of_append_comma {unwanted : Token → Bool} : ∀ {depth : Nat} {ts : List Token},
    Within unwanted depth (ts ++ [.mark ","]) → Within unwanted depth ts
  | _, [], h => h.2
  | _, _ :: _, ⟨outside, h⟩ => ⟨outside, within_of_append_comma h⟩

theorem within_isClosing : ∀ {depth : Nat} {ts : List Token}, Within endsPart depth ts →
    Within isClosing depth ts
  | _, [], h => h
  | _, _ :: _, ⟨outside, h⟩ =>
    ⟨fun top => (Bool.or_eq_false_iff.1 (outside top)).1, within_isClosing h⟩

theorem within_terminated : ∀ {parts : List (List Token)}, (∀ part ∈ parts, IsPart part) →
    Within isClosing 0 (terminated parts)
  | [], _ => rfl
  | part :: parts, whole => by
    obtain ⟨first, others⟩ := List.forall_mem_cons.1 whole
    rw [terminated_cons]
    exact (within_isClosing first.2).append ⟨fun _ => rfl, within_terminated others⟩

/-- The inside of a tuple: its parts have commas behind them; there may be none behind the last of
several. -/
def TupleInside (parts : List (List Token)) (inside : List Token) : Prop :=
  inside = terminated parts ∨ 2 ≤ parts.length ∧ inside ++ [.mark ","] = terminated parts

variable {inside : List Token}

theorem TupleInside.within (written : TupleInside parts inside)
    (whole : ∀ part ∈ parts, IsPart part) : Within isClosing 0 inside := by
  have all := within_terminated whole
  rcases written with rfl | ⟨-, written⟩
  · exact all
  · rw [← written] at all
    exact within_of_append_comma all

theorem TupleInside.length_le (written : TupleInside parts inside) :
    (terminated parts).length ≤ inside.length + 1 := by
  rcases written with rfl | ⟨-, written⟩
  · exact Nat.le_succ _
  · rw [← written, List.length_append]
    exact Nat.le_refl _

/-- A tuple is written as an enclosed list of parts. -/
theorem EntryValue.spells_tuple_iff {members : List EntryValue} :
    (EntryValue.tuple members).Spells ts ↔
      ∃ inside parts, ts = enclosed .round inside ∧
        List.Forall₂ EntryValue.Spells members parts ∧ TupleInside parts inside := by
  show (∃ inside, _ ∧ (membersSpell members inside ∨ _ ∧ membersSpell members _)) ↔ _
  simp only [membersSpell_iff]
  constructor
  · rintro ⟨inside, rfl, ⟨parts, pairs, written⟩ | ⟨several, parts, pairs, written⟩⟩
    · exact ⟨inside, parts, rfl, pairs, .inl written⟩
    · exact ⟨inside, parts, rfl, pairs, .inr ⟨pairs.length_eq ▸ several, written⟩⟩
  · rintro ⟨inside, parts, rfl, pairs, written | ⟨several, written⟩⟩
    · exact ⟨inside, rfl, .inl ⟨parts, pairs, written⟩⟩
    · exact ⟨inside, rfl, .inr ⟨pairs.length_eq ▸ several, parts, pairs, written⟩⟩

mutual
/-- What spells a value can be a part of a list. -/
theorem EntryValue.isPart_of_spells : ∀ (v : EntryValue) {ts : List Token}, v.Spells ts → IsPart ts
  | .text _, _, h => by
    cases h
    exact ⟨List.cons_ne_nil _ _, fun _ => rfl, rfl⟩
  | .literal _, _, h => by
    cases h
    exact ⟨List.cons_ne_nil _ _, fun _ => rfl, rfl⟩
  | .path p, _, ⟨closed, h⟩ => by
    cases h
    exact ⟨closed.tokens_ne_nil, closed.within⟩
  | .tuple members, _, h => by
    obtain ⟨inside, parts, rfl, pairs, written⟩ := EntryValue.spells_tuple_iff.1 h
    have within := written.within (isPart_of_forall₂ members pairs)
    exact ⟨List.cons_ne_nil _ _, fun _ => rfl, Within.closing rfl within_nil within⟩

theorem isPart_of_forall₂ : ∀ (vs : List EntryValue) {parts : List (List Token)},
    List.Forall₂ EntryValue.Spells vs parts → ∀ part ∈ parts, IsPart part
  | [], _, pairs => by
    cases pairs
    exact List.forall_mem_nil _
  | v :: vs, _, .cons spells pairs =>
    List.forall_mem_cons.2 ⟨v.isPart_of_spells spells, isPart_of_forall₂ vs pairs⟩
end

theorem tupleParts?_of_several
    (several : 2 ≤ (splitCommas 0 inside).length) :
    tupleParts? inside =
      if (splitCommas 0 inside).getLast? = some [] then some (splitCommas 0 inside).dropLast
      else some (splitCommas 0 inside) := by
  unfold tupleParts?
  split
  · next one =>
    rw [one] at several
    exact absurd several (by decide)
  · next part one =>
    rw [one] at several
    exact absurd several (Nat.not_succ_le_self 1)
  · rfl

/-- The parts found of a tuple are written inside of it. -/
theorem tupleInside_of_tupleParts? (read : tupleParts? inside = some parts) :
    TupleInside parts inside := by
  have joined := terminated_splitCommas 0 inside
  unfold tupleParts? at read
  split at read
  · next split =>
    cases read
    rw [split] at joined
    exact .inl (List.append_cancel_right joined).symm
  · cases read
  · next single =>
    split at read
    · next last =>
      cases read
      rw [← List.dropLast_append_getLast? [] last, terminated_append_singleton,
        List.append_nil] at joined
      exact .inl (List.append_cancel_right joined).symm
    · cases read
      refine .inr ⟨?_, joined.symm⟩
      match split : splitCommas 0 inside with
      | [] => exact absurd split (splitCommas_ne_nil _ _)
      | [part] => exact absurd split (single part)
      | _ :: _ :: _ => exact Nat.le_add_left 2 _

/-- The parts of a tuple are found as they are written. -/
theorem TupleInside.tupleParts?_eq (written : TupleInside parts inside)
    (whole : ∀ part ∈ parts, IsPart part) : tupleParts? inside = some parts := by
  rcases written with rfl | ⟨several, written⟩
  · have split : splitCommas 0 (terminated parts) = parts ++ [[]] := by
      rw [← List.append_nil (terminated parts),
        splitCommas_terminated fun part member => (whole part member).2]
      rfl
    cases parts with
    | nil => rfl
    | cons part parts =>
      rw [tupleParts?_of_several (by rw [split]; simp), split, if_pos List.getLast?_concat,
        List.dropLast_concat]
  · rcases List.eq_nil_or_concat' parts with rfl | ⟨init, last, rfl⟩
    · cases several
    · rw [terminated_append_singleton] at written
      cases List.append_cancel_right written
      have partOf := List.forall_mem_append.1 whole
      have lastPart := partOf.2 last (.head _)
      have split : splitCommas 0 (terminated init ++ last) = init ++ [last] := by
        rw [splitCommas_terminated fun part member => (partOf.1 part member).2,
          splitCommas_eq_singleton lastPart.2]
      rw [tupleParts?_of_several (by rw [split]; exact several), split, List.getLast?_concat,
        if_neg fun empty => lastPart.1 (Option.some.inj empty)]

theorem length_lt_of_mem_terminated {part : List Token} : ∀ {parts : List (List Token)},
    part ∈ parts → part.length < (terminated parts).length
  | first :: parts, member => by
    rw [terminated_cons, List.length_append, List.length_cons]
    rcases List.mem_cons.1 member with rfl | member
    · omega
    · have := length_lt_of_mem_terminated member
      omega

theorem EntryValue.read_path {p : CodePath} (read : CodePath.read? ts = some (p, more))
    (fuel : Nat) : EntryValue.read (fuel + 1) ts = (.path p, more) := by
  unfold EntryValue.read
  split
  · cases read
  · cases read
  · cases (‹fuel + 1 = 0›)
  · cases read
  · next same _ =>
    rw [read]

theorem EntryValue.read_tuple (within : Within isClosing 0 inside)
    (split : tupleParts? inside = some parts) (fuel : Nat) :
    EntryValue.read (fuel + 1) (enclosed .round inside ++ more) =
      (.tuple (parts.map (EntryValue.ofWhole (EntryValue.read fuel))), more) := by
  have group : readGroup? (.closing .round) (inside ++ [.closing .round] ++ more) =
      some (inside, more) :=
    (readGroup?_eq_some_iff rfl).2 ⟨by simp, within⟩
  show EntryValue.read (fuel + 1) (.opening .round :: (inside ++ [.closing .round] ++ more)) = _
  rw [EntryValue.read, group]
  dsimp only
  rw [split]

mutual
/-- **A value is read** from the tokens that spell it. -/
theorem EntryValue.read_append : ∀ (v : EntryValue) {ts more : List Token} (fuel : Nat),
    v.Spells ts → ts.length ≤ fuel → EndsPart more → EntryValue.read fuel (ts ++ more) = (v, more)
  | .text _, _, _, fuel, h, _, _ => by
    cases h
    cases fuel <;> rfl
  | .literal _, _, _, fuel, h, _, _ => by
    cases h
    cases fuel <;> rfl
  | .path p, _, _, 0, ⟨closed, h⟩, enough, _ => by
    cases h
    exact absurd (List.length_eq_zero_iff.1 (Nat.le_zero.1 enough)) closed.tokens_ne_nil
  | .path p, _, _, fuel + 1, ⟨closed, h⟩, _, ends => by
    cases h
    exact EntryValue.read_path (CodePath.read?_append closed ends) fuel
  | .tuple members, _, _, fuel, h, enough, _ => by
    obtain ⟨inside, parts, rfl, pairs, written⟩ := EntryValue.spells_tuple_iff.1 h
    have whole := isPart_of_forall₂ members pairs
    have length := written.length_le
    simp only [enclosed, List.length_append, List.length_cons, List.length_nil] at enough
    obtain ⟨fuel, rfl⟩ : ∃ n, fuel = n + 1 := ⟨fuel - 1, by omega⟩
    have members := ofWhole_eq_members members fuel pairs fun part member => by
      have := length_lt_of_mem_terminated member
      omega
    rw [EntryValue.read_tuple (written.within whole) (written.tupleParts?_eq whole), members]

/-- The members of a tuple are read from its parts. -/
theorem ofWhole_eq_members : ∀ (vs : List EntryValue) {parts : List (List Token)} (fuel : Nat),
    List.Forall₂ EntryValue.Spells vs parts → (∀ part ∈ parts, part.length ≤ fuel) →
      parts.map (EntryValue.ofWhole (EntryValue.read fuel)) = vs
  | [], _, _, pairs, _ => by
    cases pairs
    rfl
  | v :: vs, _, fuel, .cons spells pairs, enough => by
    obtain ⟨first, others⟩ := List.forall_mem_cons.1 enough
    have read := v.read_append fuel spells first (.inl rfl)
    rw [List.append_nil] at read
    rw [List.map_cons, ofWhole_eq_members vs fuel pairs others, EntryValue.ofWhole, read]
end

/-- What is read as a whole value spells it. -/
theorem forall₂_spells_ofWhole {read : List Token → EntryValue × List Token}
    (spells : ∀ {ts more : List Token} {v : EntryValue}, read ts = (v, more) → v.isClear = true →
      ∃ front, ts = front ++ more ∧ v.Spells front) :
    ∀ parts : List (List Token), membersClear (parts.map (EntryValue.ofWhole read)) = true →
      List.Forall₂ EntryValue.Spells (parts.map (EntryValue.ofWhole read)) parts
  | [], _ => .nil
  | part :: parts, clear => by
    obtain ⟨first, others⟩ := Bool.and_eq_true_iff.1 clear
    refine .cons ?_ (forall₂_spells_ofWhole spells parts others)
    unfold EntryValue.ofWhole at first ⊢
    split at first
    · next v all =>
      obtain ⟨front, same, spelled⟩ := spells all first
      rw [List.append_nil] at same
      rw [same]
      exact spelled
    · cases first

/-- **What is read as a value spells it,** if no part of it has been left unread. -/
theorem EntryValue.spells_of_read (fuel : Nat) : ∀ {ts more : List Token} {v : EntryValue},
    EntryValue.read fuel ts = (v, more) → v.isClear = true →
      ∃ front, ts = front ++ more ∧ v.Spells front := by
  induction fuel with
  | zero =>
    intro ts more v read clear
    unfold EntryValue.read at read
    split at read
    · cases read
      exact ⟨[_], rfl, rfl⟩
    · cases read
      exact ⟨[_], rfl, rfl⟩
    · cases read
      cases clear
    · cases (‹0 = _ + 1›)
    · cases (‹0 = _ + 1›)
  | succ fuel ih =>
    intro ts more v read clear
    unfold EntryValue.read at read
    split at read
    · cases read
      exact ⟨[_], rfl, rfl⟩
    · cases read
      exact ⟨[_], rfl, rfl⟩
    · cases (‹fuel + 1 = 0›)
    · next rest same =>
      split at read
      · next inside more' group =>
        split at read
        · next parts split =>
          cases read
          cases same
          obtain ⟨rfl, within⟩ := (readGroup?_eq_some_iff rfl).1 group
          refine ⟨enclosed .round inside, by simp [enclosed], EntryValue.spells_tuple_iff.2 ?_⟩
          exact ⟨inside, parts, rfl, forall₂_spells_ofWhole ih parts clear,
            tupleInside_of_tupleParts? split⟩
        · cases read
          cases clear
      · cases read
        cases clear
    · split at read
      · next p more' path =>
        cases read
        obtain ⟨rfl, closed⟩ := CodePath.eq_of_read? path
        exact ⟨_, rfl, closed, rfl⟩
      · cases read
        cases clear

end EntitySql
