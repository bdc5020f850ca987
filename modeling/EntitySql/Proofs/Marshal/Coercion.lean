import EntitySql.Marshal.Decode
import EntitySql.Proofs.Outcome

/-!
# Values of a kind under coercion

Coercion to a kind leaves the values of that kind as they are, with two exceptions: decimals of a
constrained kind are rounded to its scale, and lists are coerced member by member.

**Of a kind.** Decimals of a constrained kind carry its precision and scale. Those of the
unconstrained kind, where both are zero, carry their own scale, as a number converted to a value
does. The members of a list are of the kind of its elements, nulls included.

**Settled.** What coercion makes of a value of a kind is of the kind again and is not changed by
another coercion; it equals the value with its decimals rounded (`exists_settles`).
-/

namespace EntitySql

set_option autoImplicit false

namespace Value

/-! ## Kinds -/

/-- The scale of a kind of decimals; the unconstrained kind has none. -/
def ownScale : Value → Option Nat
  | decimal _ precision scale => if precision = 0 ∧ scale = 0 then none else some scale
  | _ => none

/-- A scale, if there is one, is that of a kind of decimals. -/
def ScaledAs (kind : Value) (scale : Option Nat) : Prop :=
  ∀ places, scale = some places → ∃ content precision, kind = decimal content precision places

/-- The value is of the kind, at every depth of a list. -/
def IsOf : Value → (kind : Value) → Prop
  | decimal (some d) p s, decimal _ precision scale =>
    if precision = 0 ∧ scale = 0 then p = 0 ∧ s = d.scale else p = precision ∧ s = scale
  | list (some vs) e, list _ element => element.sameType e = true ∧ ∀ v ∈ vs, v.IsOf element
  | v, kind => kind.sameType v = true

/-- The value with its decimals rounded half to even: to the scale given, and in a list to the
scale of the kind of its elements. -/
def rounded : Value → (kind : Value) → (scale : Option Nat) → Value
  | decimal (some d) p _, _, some places => decimal (some (d.round places)) p places
  | list (some vs) e, list _ element, _ =>
    list (some (vs.map fun v => v.rounded element element.ownScale)) e
  | v, _, _ => v

/-- The decimals of the value have no more digits after the point than the scale allows. -/
def FitsScale : Value → (kind : Value) → (scale : Option Nat) → Prop
  | decimal (some d) _ _, _, some places => d.scale ≤ places
  | list (some vs) _, list _ element, _ => ∀ v ∈ vs, v.FitsScale element element.ownScale
  | _, _, _ => True

mutual
/-- A floating-point number in the value is no number. -/
def hasNaN : Value → Bool
  | float _ (some x) => x.isNaN
  | list (some vs) _ => anyNaN vs
  | _ => false
  termination_by structural v => v

/-- A floating-point number in one of the values is no number. -/
def anyNaN : List Value → Bool
  | [] => false
  | v :: rest => hasNaN v || anyNaN rest
  termination_by structural vs => vs
end

/-- Neither a decimal nor a list. -/
def isFlat : Value → Bool
  | decimal _ _ _ | list _ _ => false
  | _ => true

theorem anyNaN_eq_any (vs : List Value) : anyNaN vs = vs.any hasNaN := by
  induction vs with
  | nil => rfl
  | cons v rest ih => rw [anyNaN, List.any_cons, ih]

/-- A value has the kind of its null. -/
@[simp] theorem sameType_prototype (v w : Value) : v.prototype.sameType w = v.sameType w := by
  cases v <;> cases w <;> rfl

theorem scaledAs_ownScale (kind : Value) : kind.ScaledAs kind.ownScale := by
  intro places own
  cases kind with
  | decimal content precision scale =>
    rw [ownScale] at own
    split at own
    · cases own
    · cases own
      exact ⟨content, precision, rfl⟩
  | _ => cases own

/-- A flat value and a kind it is of have one null. -/
theorem prototype_eq_of_sameType {kind v : Value} (flat : v.isFlat = true)
    (same : kind.sameType v = true) : kind.prototype = v.prototype := by
  cases v with
  | decimal => cases flat
  | list => cases flat
  | int l n =>
    cases kind with
    | int k _ =>
      cases eq_of_beq same
      rfl
    | _ => cases same
  | float l x =>
    cases kind with
    | float k _ =>
      cases eq_of_beq same
      rfl
    | _ => cases same
  | _ => cases kind <;> first | rfl | cases same

/-- A value that is neither null nor flat is a decimal or a list. -/
theorem decimal_or_list {v : Value} (content : v.isNull = false) (flat : v.isFlat = false) :
    (∃ d p s, v = .decimal (some d) p s) ∨ ∃ vs e, v = .list (some vs) e := by
  cases v with
  | decimal d p s =>
    cases d with
    | none => cases content
    | some d => exact .inl ⟨d, p, s, rfl⟩
  | list items e =>
    cases items with
    | none => cases content
    | some vs => exact .inr ⟨vs, e, rfl⟩
  | _ => cases flat

/-- For nulls and flat values the kind is all there is to check. -/
theorem isOf_iff_sameType {kind v : Value} (simple : v.isNull = true ∨ v.isFlat = true) :
    v.IsOf kind ↔ kind.sameType v = true := by
  cases v with
  | decimal content p s =>
    cases content with
    | none => cases kind <;> rfl
    | some d => rcases simple with h | h <;> cases h
  | list items e =>
    cases items with
    | none => cases kind <;> rfl
    | some vs => rcases simple with h | h <;> cases h
  | _ => cases kind <;> rfl

/-- Decimals are of kinds of decimals: of an unconstrained one with their own scale, of another
one with its precision and scale. -/
theorem isOf_decimal {kind : Value} {d : Decimal} {p s : Nat}
    (h : (decimal (some d) p s).IsOf kind) :
    ∃ content precision scale, kind = decimal content precision scale ∧
      ((precision = 0 ∧ scale = 0) ∧ p = 0 ∧ s = d.scale ∨
        ¬(precision = 0 ∧ scale = 0) ∧ p = precision ∧ s = scale) := by
  cases kind with
  | decimal content precision scale =>
    refine ⟨content, precision, scale, rfl, ?_⟩
    by_cases free : precision = 0 ∧ scale = 0
    · rw [IsOf, if_pos free] at h
      exact .inl ⟨free, h⟩
    · rw [IsOf, if_neg free] at h
      exact .inr ⟨free, h⟩
  | _ => cases h

/-- Lists are of kinds of lists, and their members of the kind of the elements. -/
theorem isOf_list {kind e : Value} {vs : List Value} (h : (list (some vs) e).IsOf kind) :
    ∃ content element, kind = list content element ∧ element.sameType e = true ∧
      ∀ v ∈ vs, v.IsOf element := by
  cases kind with
  | list content element => exact ⟨content, element, rfl, h⟩
  | _ => cases h

end Value

/-- The declared scale comes first, then the one of the kind. -/
theorem ColumnDef.effectiveScale_eq (c : ColumnDef) :
    c.effectiveScale = c.scale.or c.prototype.ownScale := by
  rw [effectiveScale]
  cases c.scale with
  | some scale => rfl
  | none => cases c.prototype <;> rfl

namespace Value

/-! ## Rounding -/

theorem rounded_of_isNull {v kind : Value} {scale : Option Nat} (null : v.isNull = true) :
    v.rounded kind scale = v := by
  cases v with
  | decimal content p s =>
    cases content with
    | none => cases kind <;> rfl
    | some d => cases null
  | list items e =>
    cases items with
    | none => cases kind <;> rfl
    | some vs => cases null
  | _ => cases kind <;> rfl

theorem rounded_of_isFlat {v kind : Value} {scale : Option Nat} (flat : v.isFlat = true) :
    v.rounded kind scale = v := by
  cases v with
  | decimal content p s => cases flat
  | list items e => cases flat
  | _ => cases kind <;> rfl

theorem fitsScale_decimal {kind : Value} {d : Decimal} {p s places : Nat} :
    (decimal (some d) p s).FitsScale kind (some places) ↔ d.scale ≤ places := by
  cases kind <;> rfl

/-- Every value fits a kind of decimals without a scale. -/
theorem fitsScale_decimal_none (v : Value) {content : Option Decimal} {p s : Nat} :
    v.FitsScale (.decimal content p s) none := by
  cases v with
  | decimal content p s => cases content <;> trivial
  | list items e => cases items <;> trivial
  | _ => trivial

/-- **Values that fit are not rounded.** -/
theorem rounded_of_fitsScale {v kind : Value} {scale : Option Nat} (ofKind : v.IsOf kind)
    (scaled : kind.ScaledAs scale) (fits : v.FitsScale kind scale) :
    v.rounded kind scale = v := by
  by_cases null : v.isNull = true
  · exact rounded_of_isNull null
  by_cases flat : v.isFlat = true
  · exact rounded_of_isFlat flat
  rcases decimal_or_list (Bool.eq_false_iff.2 null) (Bool.eq_false_iff.2 flat) with
    ⟨d, p, s, rfl⟩ | ⟨vs, e, rfl⟩
  · cases scale with
    | none => cases kind <;> rfl
    | some places =>
      have few := fitsScale_decimal.1 fits
      obtain ⟨content, precision, rfl⟩ := scaled places rfl
      have own : places = s := by
        obtain ⟨_, _, _, ⟨⟩, ⟨free, _, rfl⟩ | ⟨_, _, rfl⟩⟩ := isOf_decimal ofKind
        · omega
        · rfl
      rw [rounded, Decimal.round_of_le few, own]
  · cases kind with
    | list content element =>
      have members : ∀ v ∈ vs, v.rounded element element.ownScale = v := fun v member =>
        rounded_of_fitsScale (ofKind.2 v member) (scaledAs_ownScale element) (fits v member)
      rw [rounded, List.map_congr_left members, List.map_id']
    | _ => cases ofKind

/-! ## Equal values -/

theorem allEqual_of_forall₂ {vs ws : List Value}
    (h : List.Forall₂ (fun v w => v.equals w = true) vs ws) : allEqual vs ws = true := by
  induction h with
  | nil => rfl
  | cons first _ ih => rw [allEqual, first, ih]; rfl

/-- Two nulls of one kind are equal. -/
theorem equals_of_isNull {v w : Value} (nullV : v.isNull = true) (nullW : w.isNull = true)
    (same : v.sameType w = true) : v.equals w = true := by
  cases v with
  | null => cases w <;> first | rfl | cases same
  | int k a =>
    cases w with
    | int l b =>
      cases Option.isNone_iff_eq_none.1 nullV
      cases Option.isNone_iff_eq_none.1 nullW
      cases eq_of_beq same
      simp [equals, agree]
    | _ => cases same
  | float k a =>
    cases w with
    | float l b =>
      cases Option.isNone_iff_eq_none.1 nullV
      cases Option.isNone_iff_eq_none.1 nullW
      cases eq_of_beq same
      simp [equals, agree]
    | _ => cases same
  | decimal a p s =>
    cases w with
    | decimal b q t =>
      cases Option.isNone_iff_eq_none.1 nullV
      cases Option.isNone_iff_eq_none.1 nullW
      exact same
    | _ => cases same
  | list a e =>
    cases w with
    | list b f =>
      cases Option.isNone_iff_eq_none.1 nullV
      cases Option.isNone_iff_eq_none.1 nullW
      exact same
    | _ => cases same
  | _ =>
    cases w <;> cases same
    cases Option.isNone_iff_eq_none.1 nullV
    cases Option.isNone_iff_eq_none.1 nullW
    rfl

theorem equals_decimal_self (d : Decimal) (p s : Nat) :
    (decimal (some d) p s).equals (.decimal (some d) p s) = true := by
  simp [equals, agree, Decimal.sameValue]

/-- A flat value equals itself unless it is no number. -/
theorem equals_self_of_isFlat {v : Value} (flat : v.isFlat = true) (number : v.hasNaN = false) :
    v.equals v = true := by
  cases v with
  | decimal => cases flat
  | list => cases flat
  | null => rfl
  | int k a => cases a <;> simp [equals, agree]
  | float k a =>
    cases a with
    | none => simp [equals, agree]
    | some x =>
      have proper : x.isNaN = false := number
      simp [equals, agree, Binary.equals, proper]
  | zoned a => cases a <;> simp [equals, agree]
  | _ => simp [equals]

end Value

/-! ## Coercion -/

/-- A member of a primitive type is read back from its value. -/
theorem Primitive.ofValue_toValue (p : Primitive) (x : p.Carrier) :
    p.ofValue (p.toValue x) = .ok x := by
  cases p with
  | int k =>
    show orFail _ (FixedInt.ofInt? k (FixedInt.val x)) = _
    rw [FixedInt.ofInt?_val]
    rfl
  | float k =>
    show Except.ok (if h : k = k then h ▸ x else x.convert k) = _
    rw [dif_pos rfl]
  | _ => rfl

theorem coerceVia_toValue (p : Primitive) (x : p.Carrier) :
    coerceVia p (p.toValue x) = .ok (p.toValue x) := by
  rw [coerceVia, p.ofValue_toValue]
  rfl

theorem coerce_of_isNull {kind v : Value} (h : v.isNull = true) :
    coerce kind v = .ok kind.prototype := by
  rw [coerce.eq_def]
  exact if_pos h

/-- The value of a member is kept by coercion to its kind, unless it is a decimal. -/
theorem coerce_toValue {p : Primitive} {kind : Value} (notDecimal : p ≠ .decimal)
    (same : kind.prototype = p.empty) (x : p.Carrier) :
    coerce kind (p.toValue x) = .ok (p.toValue x) := by
  cases p with
  | decimal => exact absurd rfl notDecimal
  | int k =>
    cases kind <;> cases same
    exact coerceVia_toValue (.int k) x
  | _ =>
    cases kind <;> cases same
    exact coerceVia_toValue _ x

theorem coerce_decimal {content : Option Decimal} {precision scale p s : Nat} {d : Decimal} :
    coerce (.decimal content precision scale) (.decimal (some d) p s) =
      .ok (if precision = 0 ∧ scale = 0 then .decimal (some d) 0 d.scale
        else .decimal (some (d.round scale)) precision scale) := by
  rw [coerce.eq_def]
  rfl

theorem coerce_list {content : Option (List Value)} {element e : Value} {vs : List Value} :
    coerce (.list content element) (.list (some vs) e) =
      (vs.mapM fun v => coerce element v).map fun ws => .list (some ws) element := by
  rw [coerce.eq_def]
  rfl

namespace Value

/-- A flat value is untyped text or the value of a member of a primitive type. -/
theorem exists_toValue : ∀ {v : Value}, v.isFlat = true → v.isNull = false →
    (∃ s, v = .unknown (some s)) ∨
      ∃ p x, p ≠ .decimal ∧ v = Primitive.toValue p x ∧ v.prototype = p.empty
  | .boolean (some b), _, _ => .inr ⟨.boolean, b, nofun, rfl, rfl⟩
  | .int k (some n), _, _ => .inr ⟨.int k, n, nofun, rfl, rfl⟩
  | .float k (some x), _, _ => .inr ⟨.float k, x, nofun, rfl, rfl⟩
  | .char (some c), _, _ => .inr ⟨.char, c, nofun, rfl, rfl⟩
  | .varchar (some s), _, _ => .inr ⟨.text, s, nofun, rfl, rfl⟩
  | .blob (some b), _, _ => .inr ⟨.bytes, b, nofun, rfl, rfl⟩
  | .date (some d), _, _ => .inr ⟨.date, d, nofun, rfl, rfl⟩
  | .time (some t), _, _ => .inr ⟨.time, t, nofun, rfl, rfl⟩
  | .timestamp (some m), _, _ => .inr ⟨.moment, m, nofun, rfl, rfl⟩
  | .zoned (some z), _, _ => .inr ⟨.zoned, z, nofun, rfl, rfl⟩
  | .uuid (some u), _, _ => .inr ⟨.uuid, u, nofun, rfl, rfl⟩
  | .unknown (some s), _, _ => .inl ⟨s, rfl⟩

end Value

/-- A flat value is kept by coercion to its kind. -/
theorem coerce_of_isFlat {kind v : Value} (flat : v.isFlat = true) (content : v.isNull = false)
    (same : kind.sameType v = true) : coerce kind v = .ok v := by
  have kinds := Value.prototype_eq_of_sameType flat same
  rcases Value.exists_toValue flat content with ⟨s, rfl⟩ | ⟨p, x, notDecimal, rfl, empty⟩
  · cases kind <;> cases same
    rfl
  · exact coerce_toValue notDecimal (kinds.trans empty) x

/-- What coercion to a kind does to a value of the kind. -/
structure Value.Settles (kind v w : Value) : Prop where
  coerced : coerce kind v = .ok w
  ofKind : w.IsOf kind
  kept : coerce kind w = .ok w
  rounds : v.hasNaN = false → w.equals (v.rounded kind kind.ownScale) = true

namespace Value

theorem settles_decimal {kind : Value} {d : Decimal} {p s : Nat}
    (h : (decimal (some d) p s).IsOf kind) : ∃ w, Settles kind (decimal (some d) p s) w := by
  obtain ⟨content, precision, scale, rfl, ⟨free, rfl, rfl⟩ | ⟨bound, rfl, rfl⟩⟩ := isOf_decimal h
  · have kept : coerce (.decimal content precision scale) (.decimal (some d) 0 d.scale) =
        .ok (.decimal (some d) 0 d.scale) := by
      rw [coerce_decimal, if_pos free]
    refine ⟨_, kept, h, kept, fun _ => ?_⟩
    rw [ownScale, if_pos free]
    exact equals_decimal_self d 0 d.scale
  · refine ⟨.decimal (some (d.round s)) p s, ?_, ?_, ?_, fun _ => ?_⟩
    · rw [coerce_decimal, if_neg bound]
    · rw [IsOf, if_neg bound]
      exact ⟨rfl, rfl⟩
    · rw [coerce_decimal, if_neg bound, d.round_round]
    · rw [ownScale, if_neg bound]
      exact equals_decimal_self (d.round s) p s

theorem settles_list {content : Option (List Value)} {element e : Value} {vs ws : List Value}
    (same : element.sameType e = true) (each : List.Forall₂ (Settles element) vs ws) :
    Settles (.list content element) (.list (some vs) e) (.list (some ws) element) where
  coerced := by
    rw [coerce_list, Outcome.map_eq_ok]
    exact ⟨ws, Outcome.mapM_eq_ok.2 (each.imp fun v w settled => settled.coerced), rfl⟩
  ofKind :=
    ⟨element.sameType_refl, Outcome.forall_right each fun v _ w settled => settled.ofKind⟩
  kept := by
    have members := Outcome.forall_right each fun v _ w settled => settled.kept
    rw [coerce_list, Outcome.map_eq_ok]
    exact ⟨ws, Outcome.mapM_eq_ok.2 (List.forall₂_same.2 members), rfl⟩
  rounds number := by
    have numbers : ∀ v ∈ vs, v.hasNaN = false := by
      have none : anyNaN vs = false := number
      rw [anyNaN_eq_any, List.any_eq_false] at none
      exact fun v member => Bool.eq_false_iff.2 (none v member)
    have equal : allEqual ws (vs.map fun v => v.rounded element element.ownScale) = true := by
      refine allEqual_of_forall₂ (List.forall₂_map_right_iff.2 ?_)
      refine (((List.forall₂_and_left _ _).2 ⟨numbers, each⟩).imp fun v w facts => ?_).flip
      exact facts.2.rounds facts.1
    exact Bool.and_eq_true_iff.2 ⟨equal, same⟩

/-- **Every value of a kind settles under coercion to it.** The induction is on the kind: the
members of a list are of the kind of its elements. -/
theorem exists_settles (kind : Value) {v : Value} (h : v.IsOf kind) : ∃ w, Settles kind v w := by
  by_cases null : v.isNull = true
  · have same := (isOf_iff_sameType (.inl null)).1 h
    have ofKind : kind.prototype.IsOf kind := by
      rw [isOf_iff_sameType (.inl kind.isNull_prototype), ← sameType_prototype]
      exact sameType_refl _
    refine ⟨kind.prototype, coerce_of_isNull null, ofKind,
      coerce_of_isNull kind.isNull_prototype, fun _ => ?_⟩
    rw [rounded_of_isNull null]
    exact equals_of_isNull kind.isNull_prototype null ((kind.sameType_prototype v).trans same)
  have content : v.isNull = false := Bool.eq_false_iff.2 null
  by_cases flat : v.isFlat = true
  · have kept := coerce_of_isFlat flat content ((isOf_iff_sameType (.inr flat)).1 h)
    refine ⟨v, kept, h, kept, fun number => ?_⟩
    rw [rounded_of_isFlat flat]
    exact equals_self_of_isFlat flat number
  rcases decimal_or_list content (Bool.eq_false_iff.2 flat) with ⟨d, p, s, rfl⟩ | ⟨vs, e, rfl⟩
  · exact settles_decimal h
  · cases kind with
    | list items element =>
      obtain ⟨same, members⟩ := h
      obtain ⟨ws, each⟩ := Outcome.exists_forall₂ fun v member =>
        exists_settles element (members v member)
      exact ⟨_, settles_list same each⟩
    | _ => cases h

end Value

end EntitySql
