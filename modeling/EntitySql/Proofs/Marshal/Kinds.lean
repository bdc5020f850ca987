import EntitySql.Proofs.Marshal.Plain

/-!
# What is decoded has the kind of its column

Coercion to a kind yields values of that kind only, members of lists included, and what it yields
it leaves as it is. Decoding without a converter ends in a coercion, also where the value is stored
as milliseconds, so the same holds of every value decoded (`decode_matches`).

**Kinds that ask for less.** Plain null and untyped text admit every value, and the unconstrained
decimal every decimal: its values carry their own scale.
-/

namespace EntitySql

set_option autoImplicit false

/-- The value is one that the kind admits: plain null and untyped text admit all, the unconstrained
decimal all decimals, and every other kind what is of its type. The members of a list are admitted
by the kind of its elements. -/
def Value.Matches : Value → (kind : Value) → Prop
  | _, null => True
  | _, unknown _ => True
  | v, decimal content precision scale =>
    if precision = 0 ∧ scale = 0 then ∃ d p s, v = .decimal d p s
    else v.sameType (.decimal content precision scale) = true
  | v, list content element =>
    v.sameType (.list content element) = true ∧
      ∀ vs e, v = .list (some vs) e → ∀ w ∈ vs, w.Matches element
  | v, kind => v.sameType kind = true
  termination_by structural _ kind => kind

namespace Value

/-- The null of a kind is admitted by it. -/
theorem matches_prototype (kind : Value) : kind.prototype.Matches kind := by
  cases kind with
  | null => trivial
  | unknown content => trivial
  | decimal content precision scale =>
    rw [Matches]
    split
    · exact ⟨_, _, _, rfl⟩
    · exact (sameType_prototype _ _).trans (sameType_refl _)
  | list content element => exact ⟨(sameType_prototype _ _).trans (sameType_refl _), nofun⟩
  | _ => exact (sameType_prototype _ _).trans (sameType_refl _)

end Value

/-! ## Coercion -/

/-- What coercion to a kind yields: a value the kind admits, which another coercion keeps. -/
structure Value.Settled (kind v : Value) : Prop where
  ofKind : v.Matches kind
  kept : coerce kind v = .ok v

namespace Value

variable {kind v w : Value}

/-- Kinds that admit every value keep it. -/
theorem coerce_unconstrained (free : kind = .null ∨ ∃ content, kind = .unknown content)
    (content : v.isNull = false) : coerce kind v = .ok v := by
  rw [coerce.eq_def]
  rcases free with rfl | ⟨_, rfl⟩ <;> exact if_neg (Bool.eq_false_iff.1 content)

theorem settled_prototype (kind : Value) : kind.Settled kind.prototype where
  ofKind := matches_prototype kind
  kept := coerce_of_isNull kind.isNull_prototype

/-- What is converted by way of the primitive type of a kind is settled. -/
theorem settled_of_coerceVia {p : Primitive} (h : coerceVia p v = .ok w)
    (notDecimal : p ≠ .decimal) (primitive : kind.prototype = p.empty)
    (admits : ∀ x : p.Carrier, (p.toValue x).Matches kind) : kind.Settled w := by
  obtain ⟨x, _, rfl⟩ := Outcome.map_eq_ok.1 h
  exact ⟨admits x, coerce_toValue notDecimal primitive x⟩

/-- A decimal of the scale of its kind is settled. -/
theorem settled_decimal {content : Option Decimal} {precision scale : Nat} (d : Decimal) :
    Settled (.decimal content precision scale)
      (if precision = 0 ∧ scale = 0 then .decimal (some d) 0 d.scale
        else .decimal (some (d.round scale)) precision scale) := by
  by_cases free : precision = 0 ∧ scale = 0
  · rw [if_pos free]
    refine ⟨?_, ?_⟩
    · rw [Matches, if_pos free]
      exact ⟨_, _, _, rfl⟩
    · rw [coerce_decimal, if_pos free]
  · rw [if_neg free]
    refine ⟨?_, ?_⟩
    · rw [Matches, if_neg free]
      exact sameType_refl (.decimal content precision scale)
    · rw [coerce_decimal, if_neg free, d.round_round]

/-- A list of settled members is settled. -/
theorem settled_list {content : Option (List Value)} {element : Value} {ws : List Value}
    (members : ∀ w ∈ ws, element.Settled w) :
    Settled (.list content element) (.list (some ws) element) where
  ofKind := by
    refine ⟨sameType_refl (.list content element), ?_⟩
    rintro vs e ⟨⟩ w member
    exact (members w member).ofKind
  kept := by
    rw [coerce_list, Outcome.map_eq_ok]
    exact ⟨ws, Outcome.mapM_eq_ok.2 (List.forall₂_same.2 fun w member => (members w member).kept),
      rfl⟩

end Value

/-- **What coercion yields is settled.** The induction is on the kind: the members of a list are
coerced to the kind of its elements. -/
theorem settled_of_coerce (kind : Value) {v w : Value} (h : coerce kind v = .ok w) :
    kind.Settled w := by
  by_cases null : v.isNull = true
  · rw [coerce_of_isNull null] at h
    cases h
    exact Value.settled_prototype kind
  rw [coerce.eq_def] at h
  dsimp only at h
  rw [if_neg null] at h
  cases kind with
  | null =>
    cases h
    exact ⟨trivial, Value.coerce_unconstrained (.inl rfl) (Bool.eq_false_iff.2 null)⟩
  | unknown content =>
    cases h
    exact ⟨trivial, Value.coerce_unconstrained (.inr ⟨content, rfl⟩) (Bool.eq_false_iff.2 null)⟩
  | decimal content precision scale =>
    obtain ⟨d, _, rfl⟩ := Outcome.map_eq_ok.1 h
    exact Value.settled_decimal d
  | list content element =>
    cases v with
    | list items e =>
      cases items with
      | none => exact absurd rfl null
      | some vs =>
        obtain ⟨ws, coerced, rfl⟩ := Outcome.map_eq_ok.1 h
        exact Value.settled_list <|
          Outcome.forall_of_mapM coerced fun v _ w => settled_of_coerce element
    | _ => cases h
  | int k content =>
    exact Value.settled_of_coerceVia h (by simp) rfl fun _ => Value.sameType_refl (.int k none)
  | float k content =>
    exact Value.settled_of_coerceVia h (by simp) rfl fun _ => Value.sameType_refl (.float k none)
  | _ => exact Value.settled_of_coerceVia h (by simp) rfl fun _ => rfl

/-! ## Decoding -/

/-- What is rebuilt from milliseconds is a time of day, the number itself, or what coercion makes of
the instant or of a value that is no number. -/
theorem decodeLongDate_eq_ok {kind v w : Value} (h : decodeLongDate v kind = .ok w) :
    (∃ content t, kind = .time content ∧ w = .time (some t)) ∨
      ((kind = .null ∨ ∃ content, kind = .int .int64 content) ∧ ∃ n, w = .int .int64 (some n)) ∨
      ∃ u, coerce kind u = .ok w := by
  obtain ⟨found, _, h⟩ := Outcome.bind_eq_ok.1 h
  cases found with
  | none => exact .inr (.inr ⟨v, h⟩)
  | some millis =>
    cases kind with
    | time content =>
      cases h
      exact .inl ⟨content, _, rfl, rfl⟩
    | null =>
      dsimp only at h
      split at h
      · cases h
      · cases h
        exact .inr (.inl ⟨.inl rfl, _, rfl⟩)
    | int k content =>
      cases k with
      | int64 =>
        dsimp only at h
        split at h
        · cases h
        · cases h
          exact .inr (.inl ⟨.inr ⟨content, rfl⟩, _, rfl⟩)
      | _ =>
        dsimp only at h
        split at h
        · cases h
        · exact .inr (.inr ⟨_, h⟩)
    | _ =>
      dsimp only at h
      split at h
      · cases h
      · exact .inr (.inr ⟨_, h⟩)

/-- What is rebuilt from milliseconds is settled. -/
theorem settled_of_decodeLongDate {kind v w : Value} (h : decodeLongDate v kind = .ok w) :
    kind.Settled w := by
  rcases decodeLongDate_eq_ok h with ⟨content, t, rfl, rfl⟩ | ⟨rfl | ⟨content, rfl⟩, n, rfl⟩ |
    ⟨u, coerced⟩
  · exact ⟨rfl, coerce_of_isFlat rfl rfl rfl⟩
  · exact ⟨trivial, Value.coerce_unconstrained (.inl rfl) rfl⟩
  · exact ⟨rfl, coerce_of_isFlat rfl rfl rfl⟩
  · exact settled_of_coerce kind coerced

section Columns

variable {raw : DriverValue} {c : ColumnDef} {v : Value}

/-- A null that is received becomes the null of the column. -/
theorem decode_of_isNull (free : c.converter = none) (given : received raw c = .ok v)
    (null : v.isNull = true) : decode raw c = .ok c.prototype.prototype := by
  rw [decode, given]
  show (converted v c >>= fun replaced => _) = _
  rw [converted_of_none free]
  exact if_pos null

/-- **What is decoded without a converter is settled.** -/
theorem settled_of_decode (free : c.converter = none) (h : decode raw c = .ok v) :
    c.prototype.Settled v := by
  obtain ⟨u, given, _⟩ := Outcome.bind_eq_ok.1 h
  by_cases null : u.isNull = true
  · rw [decode_of_isNull free given null] at h
    cases h
    exact Value.settled_prototype c.prototype
  · rw [decode_of_received free given (Bool.eq_false_iff.2 null)] at h
    split at h
    · exact settled_of_decodeLongDate h
    · exact settled_of_coerce c.prototype h

end Columns

/-- **Decoded values have the kind of their column, and coercion is idempotent.** Whatever the
driver gives, a null, a scalar of any kind or a stream, what a column without converter decodes is
admitted by the kind of the column, at every depth of a list. What coercion to a kind yields,
coercion to that kind keeps. -/
theorem decode_matches :
    (∀ (raw : DriverValue) (c : ColumnDef) (v : Value), c.converter = none →
        decode raw c = .ok v → v.Matches c.prototype) ∧
      ∀ x kind y, coerce kind x = .ok y → coerce kind y = .ok y :=
  ⟨fun _ _ _ free decoded => (settled_of_decode free decoded).ofKind,
    fun _ kind _ coerced => (settled_of_coerce kind coerced).kept⟩

/-- Prices of a driver that reports no kinds: a text with blanks around it, a negative price, and an
absent one. -/
def untypedPrices : Value :=
  .list (some [.unknown (some " 2.125 "), .varchar (some "-0.5"), .null]) (.unknown none)

/-- The same prices as decimals with at most two digits after the point. -/
def decodedPrices : Value := pricesSample.rounded pricesColumn.prototype none

theorem decode_matches_untypedPrices :
    decode (.scalar untypedPrices) pricesColumn = .ok decodedPrices ∧
      decodedPrices.Matches pricesColumn.prototype ∧
      coerce pricesColumn.prototype decodedPrices = .ok decodedPrices := by
  have decoded : decode (.scalar untypedPrices) pricesColumn = .ok decodedPrices := by rfl
  exact ⟨decoded, decode_matches.1 _ _ _ rfl decoded,
    decode_matches.2 untypedPrices pricesColumn.prototype decodedPrices decoded⟩

end EntitySql
