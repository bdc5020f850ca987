import EntitySql.Marshal.Bind
import EntitySql.Marshal.Decode
import EntitySql.Proofs.Outcome

/-!
# Binding and decoding, case by case

The driver value of a parameter depends on its value and its storage; there is one law for each
case that differs.

**Bound.** A null is bound as a null. A time of day and what lies on the line of time follow the
storage (`bindTemporal_time`, `bindTemporal_instant`). Everything else is undated: a stream under
the storages of large objects, a decimal rounded to the scale of the column, and any other value as
it is.

**Decoded.** Where no converter sees it, a null becomes the null of the column and a scalar is
coerced, or read as milliseconds.
-/

namespace EntitySql

set_option autoImplicit false

variable {dialect : Dialect} {p : Pair} {c : ColumnDef} {v : Value}

/-! ## Bound -/

theorem bind_of_isNull (null : p.value.isNull = true) :
    bind dialect p = .ok (.null (nullKind p.storage p.kind p.value)) := by
  rw [bind, if_pos null]

theorem bind_of_isTemporal (content : p.value.isNull = false)
    (temporal : p.value.isTemporal = true) :
    bind dialect p = bindTemporal p.value p.storage p.kind := by
  rw [bind, if_neg (Bool.eq_false_iff.1 content), temporal, Bool.true_or, if_pos rfl]

/-- The value is neither null nor temporal, nor text for a temporal kind. -/
structure Pair.Undated (p : Pair) : Prop where
  content : p.value.isNull = false
  value : p.value.isTemporal = false
  text : (p.value.isTextual && p.kind.isTemporal) = false

/-- Text is of no temporal kind. -/
theorem textual_and_temporal {kind : Value} (same : kind.sameType v = true) :
    (v.isTextual && kind.isTemporal) = false := by
  cases v <;> first | rfl | (cases kind <;> first | rfl | cases same)

theorem undated_of_sameType (content : v.isNull = false) (temporal : v.isTemporal = false)
    (same : c.prototype.sameType v = true) : (Pair.forColumn v c).Undated :=
  ⟨content, temporal, textual_and_temporal same⟩

theorem bind_of_isLargeObject (undated : p.Undated) (large : p.storage.isLargeObject = true) :
    bind dialect p = (bytesOf p.value p.storage p.charset).map fun bytes =>
      if p.storage = .largeCharacter then .characters (.ofBytes bytes)
      else .binary (.ofBytes bytes) := by
  rw [bind, if_neg (Bool.eq_false_iff.1 undated.content), undated.value, undated.text,
    Bool.false_or, if_neg Bool.false_ne_true, if_pos large]
  rfl

theorem bind_decimal {d : Decimal} {precision declared : Nat}
    (value : p.value = .decimal (some d) precision declared)
    (small : p.storage.isLargeObject = false) :
    bind dialect p = .ok (.scalar (.decimal (some (d.round (p.scale.getD declared))) precision
      (p.scale.getD declared))) := by
  obtain ⟨_, storage, kind, scale, charset⟩ := p
  cases value
  show (if storage.isLargeObject = true then _ else _) = _
  rw [if_neg (Bool.eq_false_iff.1 small)]

theorem bindFloat_of_none {k : FloatKind} {x : Option (Binary k)} :
    bindFloat dialect (.float k x) none = .ok (.scalar (.float k x)) := by
  cases dialect <;> cases k <;> cases x <;> rfl

/-- Undated values are bound as they are, but for decimals and for floating-point numbers of a
declared scale. -/
theorem bind_kept (undated : p.Undated) (small : p.storage.isLargeObject = false)
    (decimal : ∀ d precision scale, p.value ≠ .decimal (some d) precision scale)
    (float : ∀ k x, p.value = .float k x → p.scale = none) :
    bind dialect p = .ok (.scalar p.value) := by
  rw [bind, if_neg (Bool.eq_false_iff.1 undated.content), undated.value, undated.text,
    Bool.false_or, if_neg Bool.false_ne_true, small, if_neg Bool.false_ne_true]
  split
  · rename_i k x value
    rw [float k x value, bindFloat_of_none, value]
  · rename_i d precision scale value
    exact absurd value (decimal d precision scale)
  · rfl

/-! ### Dates and times -/

theorem bindTemporal_time {storage : Storage} {kind : Value} {t : TimeOfDay} :
    bindTemporal (.time (some t)) storage kind =
      match storage with
      | .plain => .ok (.scalar (.time (some t)))
      | .longDate => .ok (.scalar (.int .int64 (some (.clamp .int64 t.millis))))
      | _ => .error (.ofValue (.time (some t)) storage.name) := by
  cases storage <;> rfl

/-- What a storage makes of a value at a moment of UTC. -/
def storedInstant (storage : Storage) (v : Value) (m : Moment) : Value :=
  match storage with
  | .longDate => .int .int64 (some (.clamp .int64 (millisOf m)))
  | .dateTime => .timestamp (some m)
  | .timestamp => .zoned (some (.ofUtc m))
  | _ => v

theorem bindTemporal_instant {storage : Storage} {kind : Value} {m : Moment}
    (found : instantOf? v = some (.ok m)) :
    bindTemporal v storage kind = .ok (.scalar (storedInstant storage v m)) := by
  cases v with
  | date d =>
    cases d with
    | none => cases found
    | some d =>
      cases found
      cases storage <;> rfl
  | timestamp n =>
    cases n with
    | none => cases found
    | some n =>
      cases found
      cases storage <;> rfl
  | zoned z =>
    cases z with
    | none => cases found
    | some z =>
      have utc : Primitive.utc z = .ok m := Option.some.inj found
      show (Primitive.utc z >>= fun instant => _) = _
      rw [utc]
      cases storage <;> rfl
  | _ => cases found

/-- Dates and times are times of day or have a moment in UTC, if that is in range. -/
theorem time_or_instant (content : v.isNull = false) (temporal : v.isTemporal = true)
    (inRange : ∀ z, v = .zoned (some z) → ∃ m, z.utc? = some m) :
    (∃ t, v = .time (some t)) ∨ ∃ m, instantOf? v = some (.ok m) := by
  cases v with
  | time t =>
    obtain ⟨t, rfl⟩ := Option.isSome_iff_exists.1 (Option.isNone_eq_false_iff.1 content)
    exact .inl ⟨t, rfl⟩
  | date d =>
    obtain ⟨d, rfl⟩ := Option.isSome_iff_exists.1 (Option.isNone_eq_false_iff.1 content)
    exact .inr ⟨_, rfl⟩
  | timestamp m =>
    obtain ⟨m, rfl⟩ := Option.isSome_iff_exists.1 (Option.isNone_eq_false_iff.1 content)
    exact .inr ⟨_, rfl⟩
  | zoned z =>
    obtain ⟨z, rfl⟩ := Option.isSome_iff_exists.1 (Option.isNone_eq_false_iff.1 content)
    obtain ⟨m, utc⟩ := inRange z rfl
    exact .inr ⟨m, by rw [instantOf?, Primitive.utc, utc]; rfl⟩
  | _ => cases temporal

/-! ## Decoded -/

theorem converted_of_none (plain : c.converter = none) : converted v c = .ok none := by
  rw [converted, plain]

theorem decode_null {kind : Value} (plain : c.converter = none) :
    decode (.null kind) c = .ok c.prototype.prototype := by
  show (converted .null c >>= fun replaced => _) = _
  rw [converted_of_none plain]
  rfl

/-- Where the converter leaves a value alone, the value is coerced, or read as milliseconds. -/
theorem decode_of_passed {raw : DriverValue} (passed : converted v c = .ok none)
    (given : received raw c = .ok v) (content : v.isNull = false) :
    decode raw c =
      if c.storage = .longDate then decodeLongDate v c.prototype else coerce c.prototype v := by
  rw [decode, given]
  show (converted v c >>= fun replaced => _) = _
  rw [passed]
  show (if v.isNull = true then _ else _) = _
  rw [if_neg (Bool.eq_false_iff.1 content)]

theorem decode_of_received {raw : DriverValue} (plain : c.converter = none)
    (given : received raw c = .ok v) (content : v.isNull = false) :
    decode raw c =
      if c.storage = .longDate then decodeLongDate v c.prototype else coerce c.prototype v :=
  decode_of_passed (converted_of_none plain) given content

theorem decode_scalar (plain : c.converter = none) (content : v.isNull = false) :
    decode (.scalar v) c =
      if c.storage = .longDate then decodeLongDate v c.prototype else coerce c.prototype v :=
  decode_of_received plain rfl content

/-! ## There and back -/

/-- Bound for a column and decoded for it again, the value becomes `w`; neither step fails. -/
def Returns (dialect : Dialect) (c : ColumnDef) (v w : Value) : Prop :=
  ∃ raw, bind dialect (.forColumn v c) = .ok raw ∧ decode raw c = .ok w

/-- **A null comes back as the null of its column,** whatever kind it had. -/
theorem returns_of_isNull (plain : c.converter = none) (null : v.isNull = true) :
    Returns dialect c v c.prototype.prototype :=
  ⟨_, bind_of_isNull null, decode_null plain⟩

end EntitySql
