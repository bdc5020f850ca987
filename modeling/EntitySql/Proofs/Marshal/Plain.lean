import EntitySql.Proofs.Marshal.Binding
import EntitySql.Proofs.Marshal.Coercion

/-!
# Plain storage gives values back

In plain storage a value of the kind of its column is bound as it is, but for the rounding of
decimals, and decoding coerces it to that kind. So the value comes back with its decimals rounded,
and from then on does not change (`returns_plain`). A null comes back as the null of its column
under every storage.

The scale a column declares may only repeat the one of its kind: another scale would round decimals
twice, and floating-point numbers too.
-/

namespace EntitySql

set_option autoImplicit false

/-! ## Rounding half to even -/

/-- A quotient that is rounded is off by at most a half, and even where it is off by a half. -/
theorem roundHalfEven_nearest {n d : Nat} (positive : 0 < d) :
    2 * ((roundHalfEven n d : Int) * d - n).natAbs ≤ d ∧
      (2 * ((roundHalfEven n d : Int) * d - n).natAbs = d → roundHalfEven n d % 2 = 0) := by
  have small : n % d < d := Nat.mod_lt n positive
  have split : (n : Int) = (n / d : Nat) * d + (n % d : Nat) := by
    exact_mod_cast (Nat.div_add_mod' n d).symm
  have down : ((n / d : Nat) : Int) * d - n = -((n % d : Nat) : Int) := by omega
  have up : ((n / d + 1 : Nat) : Int) * d - n = (d : Int) - (n % d : Nat) := by
    rw [Int.natCast_add, Int.add_mul]
    omega
  simp only [roundHalfEven]
  split
  · rw [up]
    omega
  · rw [down]
    omega

theorem Decimal.signedMantissa_round {d : Decimal} {places : Nat} (longer : places < d.scale) :
    (d.round places).signedMantissa =
      if d.negative then -(roundHalfEven d.mantissa (tenTo (d.scale - places)) : Int)
      else roundHalfEven d.mantissa (tenTo (d.scale - places)) := by
  rw [round, dif_neg (Nat.not_le.2 longer), signedMantissa]
  by_cases zero : roundHalfEven d.mantissa (tenTo (d.scale - places)) = 0
  · simp [zero]
  · simp [zero]

/-- **Rounding is to the nearest decimal of the scale.** In units of the last digit of the decimal
it is off by at most half a unit of the scale, and the last digit is even where it is off by
exactly half. -/
theorem Decimal.round_nearest {d : Decimal} {places : Nat} (longer : places < d.scale) :
    (d.round places).scale = places ∧
      2 * ((d.round places).signedMantissa * tenTo (d.scale - places) - d.signedMantissa).natAbs ≤
        tenTo (d.scale - places) ∧
      (2 * ((d.round places).signedMantissa * tenTo (d.scale - places) -
          d.signedMantissa).natAbs = tenTo (d.scale - places) →
        (d.round places).mantissa % 2 = 0) := by
  have parts : (d.round places).scale = places ∧
      (d.round places).mantissa = roundHalfEven d.mantissa (tenTo (d.scale - places)) := by
    rw [round, dif_neg (Nat.not_le.2 longer)]
    exact ⟨rfl, rfl⟩
  have off : ((d.round places).signedMantissa * tenTo (d.scale - places) -
      d.signedMantissa).natAbs =
      ((roundHalfEven d.mantissa (tenTo (d.scale - places)) : Int) * tenTo (d.scale - places) -
        d.mantissa).natAbs := by
    rw [signedMantissa_round longer, signedMantissa]
    cases d.negative with
    | false => rfl
    | true =>
      rw [if_pos rfl, if_pos rfl, Int.neg_mul]
      omega
  rw [off, parts.2]
  exact ⟨parts.1, roundHalfEven_nearest (tenTo_pos _)⟩

variable {dialect : Dialect} {c : ColumnDef} {v w : Value}

/-- A column whose scale is that of its kind rounds to the scale of its kind. -/
theorem ColumnDef.scaledAs_effectiveScale (scaled : c.prototype.ScaledAs c.scale) :
    c.prototype.ScaledAs c.effectiveScale := by
  rw [c.effectiveScale_eq]
  cases declared : c.scale with
  | none => exact c.prototype.scaledAs_ownScale
  | some scale =>
    rw [declared] at scaled
    exact scaled

/-! ## One kind of values after the other -/

theorem decode_scalar_plain (plain : c.storage = .plain) (free : c.converter = none)
    (content : v.isNull = false) : decode (.scalar v) c = coerce c.prototype v := by
  rw [decode_scalar free content, plain]
  rfl

/-- Dates and times are bound as they are, as long as their moment in UTC is one. -/
theorem bindTemporal_plain {kind : Value} (content : v.isNull = false)
    (temporal : v.isTemporal = true) (inRange : ∀ z, v = .zoned (some z) → ∃ m, z.utc? = some m) :
    bindTemporal v .plain kind = .ok (.scalar v) := by
  rcases time_or_instant content temporal inRange with ⟨t, rfl⟩ | ⟨m, found⟩
  · exact bindTemporal_time
  · exact bindTemporal_instant found

theorem bind_plain_of_isFlat (plain : c.storage = .plain)
    (scaled : c.prototype.ScaledAs c.scale) (flat : v.isFlat = true) (content : v.isNull = false)
    (same : c.prototype.sameType v = true)
    (inRange : ∀ z, v = .zoned (some z) → ∃ m, z.utc? = some m) :
    bind dialect (.forColumn v c) = .ok (.scalar v) := by
  by_cases temporal : v.isTemporal = true
  · rw [bind_of_isTemporal content temporal]
    show bindTemporal v c.storage c.prototype = _
    rw [plain]
    exact bindTemporal_plain content temporal inRange
  · refine bind_kept (undated_of_sameType content (Bool.eq_false_iff.2 temporal) same) ?_ ?_ ?_
    · show c.storage.isLargeObject = false
      rw [plain]
      rfl
    · rintro d precision scale rfl
      cases flat
    · rintro k x rfl
      show c.effectiveScale = none
      cases scale : c.effectiveScale with
      | none => rfl
      | some places =>
        obtain ⟨_, _, kind⟩ := ColumnDef.scaledAs_effectiveScale scaled places scale
        rw [kind] at same
        cases same

/-- A decimal of the kind of its column is bound with its scale. -/
theorem bind_plain_decimal {d : Decimal} {p s : Nat} (plain : c.storage = .plain)
    (ofKind : (Value.decimal (some d) p s).IsOf c.prototype) :
    bind dialect (.forColumn (.decimal (some d) p s) c) =
      .ok (.scalar ((Value.decimal (some d) p s).rounded c.prototype c.effectiveScale)) := by
  have small : (Pair.forColumn (.decimal (some d) p s) c).storage.isLargeObject = false := by
    show c.storage.isLargeObject = false
    rw [plain]
    rfl
  rw [bind_decimal rfl small]
  show Except.ok (DriverValue.scalar (.decimal (some (d.round (c.effectiveScale.getD s))) p
    (c.effectiveScale.getD s))) = _
  obtain ⟨content, precision, scale, kind, shape⟩ := Value.isOf_decimal ofKind
  cases eff : c.effectiveScale with
  | some places => rw [kind]; rfl
  | none =>
    have own : s = d.scale := by
      rw [c.effectiveScale_eq, Option.or_eq_none_iff, kind, Value.ownScale] at eff
      rcases shape with ⟨_, _, own⟩ | ⟨bound, _⟩
      · exact own
      · rw [if_neg bound] at eff
        cases eff.2
    rw [kind, own]
    show Except.ok (DriverValue.scalar (.decimal (some (d.round d.scale)) p d.scale)) = _
    rw [Decimal.round_of_le (Nat.le_refl _)]
    rfl

/-- The rounded decimal is of the kind of its column; neither coercion nor rounding changes it
again. -/
theorem rounded_decimal {d : Decimal} {p s : Nat} (scaled : c.prototype.ScaledAs c.scale)
    (ofKind : (Value.decimal (some d) p s).IsOf c.prototype) :
    ∃ e t, (Value.decimal (some d) p s).rounded c.prototype c.effectiveScale =
        .decimal (some e) p t ∧
      (Value.decimal (some e) p t).IsOf c.prototype ∧
      (Value.decimal (some e) p t).rounded c.prototype c.effectiveScale = .decimal (some e) p t ∧
      coerce c.prototype (.decimal (some e) p t) = .ok (.decimal (some e) p t) := by
  obtain ⟨content, precision, scale, kind, shape⟩ := Value.isOf_decimal ofKind
  have scales := c.scaledAs_effectiveScale scaled
  cases eff : c.effectiveScale with
  | none =>
    rw [c.effectiveScale_eq, Option.or_eq_none_iff, kind, Value.ownScale] at eff
    rcases shape with ⟨free, rfl, rfl⟩ | ⟨bound, _⟩
    · refine ⟨d, d.scale, by rw [kind]; rfl, ofKind, by rw [kind]; rfl, ?_⟩
      rw [kind, coerce_decimal, if_pos free]
    · rw [if_neg bound] at eff
      cases eff.2
  | some places =>
    obtain ⟨_, _, same⟩ := scales places eff
    rw [kind] at same ofKind ⊢
    cases same
    refine ⟨d.round scale, scale, rfl, ?_, by rw [Value.rounded, d.round_round], ?_⟩
    · rcases shape with ⟨free, rfl, _⟩ | ⟨bound, rfl, _⟩
      · have few := d.scale_round_le scale
        rw [Value.IsOf, if_pos free]
        exact ⟨rfl, by omega⟩
      · rw [Value.IsOf, if_neg bound]
        exact ⟨rfl, rfl⟩
    · rcases shape with ⟨free, rfl, _⟩ | ⟨bound, rfl, _⟩
      · have few := d.scale_round_le scale
        have whole : (d.round scale).scale = scale := by omega
        rw [coerce_decimal, if_pos free, whole]
      · rw [coerce_decimal, if_neg bound, d.round_round]

theorem bind_plain_list {vs : List Value} {e : Value} (plain : c.storage = .plain) :
    bind dialect (.forColumn (.list (some vs) e) c) = .ok (.scalar (.list (some vs) e)) := by
  refine bind_kept ⟨rfl, rfl, rfl⟩ ?_ nofun nofun
  show c.storage.isLargeObject = false
  rw [plain]
  rfl

/-! ## All kinds together -/

/-- The value comes back rounded to the scale of its column, and from then on unchanged. -/
def ComesBack (dialect : Dialect) (c : ColumnDef) (v : Value) : Prop :=
  ∃ w, Returns dialect c v w ∧ w.equals (v.rounded c.prototype c.effectiveScale) = true ∧
    Returns dialect c w w

theorem comesBack_of_isNull (free : c.converter = none) (null : v.isNull = true)
    (ofKind : v.IsOf c.prototype) : ComesBack dialect c v := by
  have same := (Value.isOf_iff_sameType (.inl null)).1 ofKind
  refine ⟨_, returns_of_isNull free null, ?_, returns_of_isNull free (Value.isNull_prototype _)⟩
  rw [Value.rounded_of_isNull null]
  exact Value.equals_of_isNull (Value.isNull_prototype _) null
    ((Value.sameType_prototype _ _).trans same)

theorem comesBack_of_isFlat (free : c.converter = none) (plain : c.storage = .plain)
    (scaled : c.prototype.ScaledAs c.scale) (flat : v.isFlat = true) (content : v.isNull = false)
    (ofKind : v.IsOf c.prototype) (number : v.hasNaN = false)
    (inRange : ∀ z, v = .zoned (some z) → ∃ m, z.utc? = some m) : ComesBack dialect c v := by
  have same := (Value.isOf_iff_sameType (.inr flat)).1 ofKind
  have back : Returns dialect c v v :=
    ⟨_, bind_plain_of_isFlat plain scaled flat content same inRange,
      (decode_scalar_plain plain free content).trans (coerce_of_isFlat flat content same)⟩
  refine ⟨v, back, ?_, back⟩
  rw [Value.rounded_of_isFlat flat]
  exact Value.equals_self_of_isFlat flat number

theorem comesBack_decimal {d : Decimal} {p s : Nat} (free : c.converter = none)
    (plain : c.storage = .plain) (scaled : c.prototype.ScaledAs c.scale)
    (ofKind : (Value.decimal (some d) p s).IsOf c.prototype) :
    ComesBack dialect c (.decimal (some d) p s) := by
  obtain ⟨r, t, rounds, ofKind', kept, coerced⟩ := rounded_decimal scaled ofKind
  have decoded := (decode_scalar_plain (v := .decimal (some r) p t) plain free rfl).trans coerced
  refine ⟨.decimal (some r) p t, ⟨_, bind_plain_decimal plain ofKind, ?_⟩, ?_, _,
    bind_plain_decimal plain ofKind', ?_⟩
  · rw [rounds]
    exact decoded
  · rw [rounds]
    exact Value.equals_decimal_self r p t
  · rw [kept]
    exact decoded

/-- The values of a list are bound as they are; it is decoding that rounds them. -/
theorem comesBack_list {vs : List Value} {e : Value} (free : c.converter = none)
    (plain : c.storage = .plain) (ofKind : (Value.list (some vs) e).IsOf c.prototype)
    (number : (Value.list (some vs) e).hasNaN = false) :
    ComesBack dialect c (.list (some vs) e) := by
  obtain ⟨content, element, kind, same, members⟩ := Value.isOf_list ofKind
  obtain ⟨ws, each⟩ := Outcome.exists_forall₂ fun v member =>
    Value.exists_settles element (members v member)
  have settled : Value.Settles (.list content element) _ _ := Value.settles_list same each
  rw [← kind] at settled
  refine ⟨.list (some ws) element, ⟨_, bind_plain_list plain, ?_⟩, ?_, _,
    bind_plain_list plain, ?_⟩
  · exact (decode_scalar_plain plain free rfl).trans settled.coerced
  · have equal := settled.rounds number
    rw [kind] at equal ⊢
    exact equal
  · exact (decode_scalar_plain plain free rfl).trans settled.kept

/-- **Plain storage gives values back, rounded to the scale of their column.** What has come back
once comes back unchanged the next time, under every dialect. Decimals that fit their scale are not
changed at all, and those of the unconstrained kind are never changed unless the column declares a
scale: a declared scale of zero is one, and rounds them to whole numbers. A null comes back as the
null of its column under every storage. -/
theorem returns_plain (dialect : Dialect) {c : ColumnDef} {v : Value} (free : c.converter = none) :
    (v.isNull = true → Returns dialect c v c.prototype.prototype) ∧
      (c.storage = .plain → c.prototype.ScaledAs c.scale → v.IsOf c.prototype →
        v.hasNaN = false → (∀ z, v = .zoned (some z) → ∃ m, z.utc? = some m) →
        ∃ w, Returns dialect c v w ∧ w.equals (v.rounded c.prototype c.effectiveScale) = true ∧
          (v.FitsScale c.prototype c.effectiveScale → w.equals v = true) ∧
          (∀ content, c.prototype = .decimal content 0 0 → c.scale = none → w.equals v = true) ∧
          Returns dialect c w w) := by
  refine ⟨returns_of_isNull free, fun plain scaled ofKind number inRange => ?_⟩
  have scales := c.scaledAs_effectiveScale scaled
  suffices back : ComesBack dialect c v by
    obtain ⟨w, back, equal, again⟩ := back
    have kept : v.FitsScale c.prototype c.effectiveScale → w.equals v = true := fun fits =>
      Value.rounded_of_fitsScale ofKind scales fits ▸ equal
    refine ⟨w, back, equal, kept, fun content kind undeclared => kept ?_, again⟩
    rw [c.effectiveScale_eq, undeclared, kind]
    exact v.fitsScale_decimal_none
  by_cases null : v.isNull = true
  · exact comesBack_of_isNull free null ofKind
  have content : v.isNull = false := Bool.eq_false_iff.2 null
  by_cases flat : v.isFlat = true
  · exact comesBack_of_isFlat free plain scaled flat content ofKind number inRange
  rcases Value.decimal_or_list content (Bool.eq_false_iff.2 flat) with
    ⟨d, p, s, rfl⟩ | ⟨vs, e, rfl⟩
  · exact comesBack_decimal free plain scaled ofKind
  · exact comesBack_list free plain ofKind number

/-- A column of lists of decimals with two digits after the point. -/
def pricesColumn : ColumnDef where
  field := "prices"
  name := "PRICES"
  storage := .plain
  prototype := .list none (.decimal none 6 2)
  nullable := false
  key := .outside
  position := 0
  charset := .utf8
  scale := none
  converter := none

/-- The decimals `2.125` and `-0.5`, and an absent one. -/
def pricesSample : Value :=
  .list (some [.decimal (some ⟨false, 2125, 3, by decide, by decide⟩) 6 2,
    .decimal (some ⟨true, 5, 1, by decide, by decide⟩) 6 2, .decimal none 6 2])
    (.decimal none 6 2)

theorem isOf_pricesSample : pricesSample.IsOf pricesColumn.prototype := by
  refine ⟨rfl, fun v member => ?_⟩
  simp only [List.mem_cons, List.not_mem_nil, or_false] at member
  rcases member with rfl | rfl | rfl
  · exact ⟨rfl, rfl⟩
  · exact ⟨rfl, rfl⟩
  · rfl

theorem returns_plain_pricesSample :
    pricesSample.IsOf pricesColumn.prototype ∧ pricesSample.hasNaN = false ∧
      Returns .oracle pricesColumn (.varchar none) (.list none (.decimal none 6 2)) ∧
      ∃ w, Returns .oracle pricesColumn pricesSample w ∧
        w.equals (.list (some [.decimal (some ⟨false, 212, 2, by decide, by decide⟩) 6 2,
          .decimal (some ⟨true, 5, 1, by decide, by decide⟩) 6 2, .decimal none 6 2])
            (.decimal none 6 2)) = true ∧
        Returns .oracle pricesColumn w w := by
  have scaled : pricesColumn.prototype.ScaledAs none := fun places declared => nomatch declared
  obtain ⟨w, there, rounds, -, -, again⟩ :=
    (returns_plain .oracle (c := pricesColumn) (v := pricesSample) rfl).2 rfl scaled
      isOf_pricesSample rfl (fun z same => nomatch same)
  exact ⟨isOf_pricesSample, rfl,
    (returns_plain .oracle (c := pricesColumn) (v := .varchar none) rfl).1 rfl, w, there, rounds,
    again⟩

end EntitySql
