import EntitySql.Proofs.Row.Hydration
import EntitySql.Proofs.Row.Statements

/-!
# Values under names

What a row has under a name is the value of the first label called so, without regard to ASCII case.
Where only one label is called so, neither the order of the row nor the case of its labels matters
(`Row.value?_perm`), and what was under a name stays when more is added (`Row.value?_added`).
-/

namespace EntitySql

set_option autoImplicit false

namespace Row

/-! ## Several labels and one -/

theorem value?_ofPairs (pairs : List (String × Value)) (name : String) :
    (Row.ofPairs pairs).value? name =
      (pairs.find? fun p => Text.eqIgnoringCase p.1 name).map Prod.snd := by
  rw [value?, pairs_ofPairs]

/-- A value behind others is found where none of them has the name. -/
theorem value?_append (pairs more : List (String × Value)) (name : String) :
    (Row.ofPairs (pairs ++ more)).value? name =
      ((Row.ofPairs pairs).value? name).or ((Row.ofPairs more).value? name) := by
  simp only [value?_ofPairs, List.find?_append, Option.map_or]

theorem value?_singleton (label : String) (v : Value) (name : String) :
    (Row.ofPairs [(label, v)]).value? name =
      if Text.eqIgnoringCase label name then some v else none := by
  rw [value?_ofPairs, List.find?_singleton]
  cases Text.eqIgnoringCase label name <;> rfl

theorem ofPairs_pairs (r : Row) : (Row.ofPairs r.pairs).value? = r.value? := by
  funext name
  rw [value?_ofPairs]
  rfl

/-- Nothing stands under a name no label matches. -/
theorem value?_eq_none_iff {r : Row} {name : String} :
    r.value? name = none ↔ ∀ p ∈ r.pairs, Text.eqIgnoringCase p.1 name = false := by
  simp only [value?, Option.map_eq_none_iff, List.find?_eq_none, Bool.not_eq_true]

/-- No two values stand under the name. -/
def IsClearAt (pairs : List (String × Value)) (name : String) : Prop :=
  pairs.Pairwise fun p q =>
    ¬(Text.eqIgnoringCase p.1 name = true ∧ Text.eqIgnoringCase q.1 name = true)

variable {pairs others : List (String × Value)} {name : String}

theorem isClearAt_of_nodup (distinct : (pairs.map fun p => Text.lowerAscii p.1).Nodup)
    (name : String) : IsClearAt pairs name := by
  refine (List.pairwise_map.1 distinct).imp fun {p q} apart both => apart ?_
  exact (eqIgnoringCase_iff.1 both.1).trans (eqIgnoringCase_iff.1 both.2).symm

/-- The value under a name is the only one there. -/
theorem value?_eq_some_iff {r : Row} (clear : IsClearAt r.pairs name) {v : Value} :
    r.value? name = some v ↔
      ∃ label, (label, v) ∈ r.pairs ∧ Text.eqIgnoringCase label name = true := by
  rw [value?]
  revert clear
  generalize r.pairs = pairs
  intro clear
  induction pairs with
  | nil => simp
  | cons p rest ih =>
    obtain ⟨apart, clear⟩ := List.pairwise_cons.1 clear
    rw [List.find?_cons]
    cases called : Text.eqIgnoringCase p.1 name with
    | true =>
      have alone : ∀ label, (label, v) ∈ rest → Text.eqIgnoringCase label name = false :=
        fun label member => Bool.eq_false_iff.2 fun same => apart _ member ⟨called, same⟩
      constructor
      · intro found
        cases found
        exact ⟨p.1, List.mem_cons_self, called⟩
      · rintro ⟨label, member, same⟩
        rcases List.mem_cons.1 member with rfl | member
        · rfl
        · rw [alone label member] at same
          cases same
    | false =>
      refine (ih clear).trans (exists_congr fun label => ?_)
      rw [List.mem_cons]
      constructor
      · rintro ⟨member, same⟩
        exact ⟨.inr member, same⟩
      · rintro ⟨rfl | member, same⟩
        · rw [called] at same
          cases same
        · exact ⟨member, same⟩

/-- The values of a row with their labels as labels are compared. -/
def lowered (pairs : List (String × Value)) : List (String × Value) :=
  pairs.map fun p => (Text.lowerAscii p.1, p.2)

theorem isClearAt_iff_lowered : IsClearAt pairs name ↔
    (lowered pairs).Pairwise fun p q =>
      ¬(p.1 = Text.lowerAscii name ∧ q.1 = Text.lowerAscii name) := by
  rw [IsClearAt, lowered, List.pairwise_map]
  simp only [eqIgnoringCase_iff]

theorem IsClearAt.perm (clear : IsClearAt pairs name)
    (same : (lowered pairs).Perm (lowered others)) : IsClearAt others name :=
  isClearAt_iff_lowered.2 <|
    (same.pairwise_iff fun {_ _} apart both => apart both.symm).1 (isClearAt_iff_lowered.1 clear)

theorem mem_lowered_iff {v : Value} : (Text.lowerAscii name, v) ∈ lowered pairs ↔
    ∃ label, (label, v) ∈ pairs ∧ Text.eqIgnoringCase label name = true := by
  simp only [lowered, List.mem_map, Prod.exists, Prod.mk.injEq, eqIgnoringCase_iff]
  constructor
  · rintro ⟨label, _, member, same, rfl⟩
    exact ⟨label, member, same⟩
  · rintro ⟨label, member, same⟩
    exact ⟨label, v, member, same, rfl⟩

/-- Neither the order of a row nor the case of its labels matters to what is under a name. -/
theorem value?_perm {r r' : Row} (clear : IsClearAt r.pairs name)
    (same : (lowered r.pairs).Perm (lowered r'.pairs)) : r'.value? name = r.value? name := by
  refine Option.ext fun v => ?_
  rw [value?_eq_some_iff (clear.perm same), value?_eq_some_iff clear, ← mem_lowered_iff,
    ← mem_lowered_iff, same.mem_iff]

/-! ## Values added to a row -/

variable {r r' : Row} {more : List (String × Value)} {label : String}

theorem value?_congr (same : Text.eqIgnoringCase label name = true) :
    r.value? label = r.value? name := by
  have alike : ∀ p : String × Value,
      Text.eqIgnoringCase p.1 label = Text.eqIgnoringCase p.1 name := by
    intro p
    rw [Bool.eq_iff_iff, eqIgnoringCase_iff, eqIgnoringCase_iff, eqIgnoringCase_iff.1 same]
  simp only [value?, alike]

/-- Values are added to a row under names it has nothing under. -/
theorem isClearAt_append (clear : IsClearAt r.pairs name) (clearMore : IsClearAt more name)
    (free : r.value? name = none ∨ (Row.ofPairs more).value? name = none) :
    IsClearAt (r.pairs ++ more) name := by
  refine List.pairwise_append.2 ⟨clear, clearMore, fun p first q second both => ?_⟩
  simp only [value?_eq_none_iff, pairs_ofPairs] at free
  rcases free with free | free
  · exact Bool.eq_false_iff.1 (free p first) both.1
  · exact Bool.eq_false_iff.1 (free q second) both.2

/-- What was under a name is still there after more is added, and what is added is there. -/
theorem value?_added (clear : IsClearAt r.pairs name) (clearMore : IsClearAt more name)
    (free : r.value? name = none ∨ (Row.ofPairs more).value? name = none)
    (same : (lowered (r.pairs ++ more)).Perm (lowered r'.pairs)) :
    IsClearAt r'.pairs name ∧
      r'.value? name = (r.value? name).or ((Row.ofPairs more).value? name) := by
  have whole := isClearAt_append clear clearMore free
  refine ⟨whole.perm same, ?_⟩
  rw [← pairs_ofPairs (r.pairs ++ more)] at whole same
  rw [value?_perm whole same, value?_append, ofPairs_pairs]

/-- A value is added to a row under a name that has none. -/
theorem value?_added_singleton {v : Value} (clear : IsClearAt r.pairs name)
    (untaken : r.value? label = none) (same : (r.pairs ++ [(label, v)]).Perm r'.pairs) :
    IsClearAt r'.pairs name ∧
      r'.value? name = if Text.eqIgnoringCase label name then some v else r.value? name := by
  have value := value?_singleton label v name
  have free : r.value? name = none ∨ (Row.ofPairs [(label, v)]).value? name = none := by
    rw [value]
    cases called : Text.eqIgnoringCase label name with
    | true => exact .inl ((value?_congr called).symm.trans untaken)
    | false => exact .inr rfl
  obtain ⟨clear', value'⟩ := value?_added clear (List.pairwise_singleton _ _) free (same.map _)
  refine ⟨clear', ?_⟩
  rw [value', value]
  cases called : Text.eqIgnoringCase label name with
  | true => rw [← value?_congr called, untaken, if_pos rfl, Option.none_or]
  | false => rw [if_neg Bool.false_ne_true, if_neg Bool.false_ne_true, Option.or_none]

end Row

end EntitySql
