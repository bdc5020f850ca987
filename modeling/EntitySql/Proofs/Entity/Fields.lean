import EntitySql.Entity.Declared
import EntitySql.Proofs.Marshal.Instants
import EntitySql.Proofs.Marshal.Streams

/-!
# A field through its column

The value of a field is bound for its column, decoded for it, and read as a member of the type of
the field. Where its column can represent the member (`FieldType.Fits`), what comes out is the
member that went in, up to the zone of a moment (`FieldType.exists_decode`), or nothing.

**Absent and present.** An absent option is a null, so a present one must not be written as a null:
an option inside another one, or inside a box inside another one, has to be present too. This holds
at every depth of a list (`FieldType.Solid`).

**Milliseconds.** A column of milliseconds reads every number as a moment before it looks at the
kind of the field. A field that is no date or time is given back if nothing about it is read as a
number, or if it is such a number itself (`FieldType.GivenBack`); otherwise decoding fails
(`FieldType.givenBack_of_decode`).
-/

namespace EntitySql

set_option autoImplicit false

variable {dialect : Dialect} {raw : DriverValue} {v : Value}

/-! ## Types of fields -/

namespace FieldType

theorem isNull_empty : ∀ t : FieldType, t.empty.isNull = true
  | primitive p => by cases p <;> rfl
  | option t => t.isNull_empty
  | box t => t.isNull_empty
  | list _ => rfl

theorem prototype_empty : ∀ t : FieldType, t.empty.prototype = t.empty
  | primitive p => by cases p <;> rfl
  | option t => t.prototype_empty
  | box t => t.prototype_empty
  | list _ => rfl

/-- No present option is written as a null. -/
def Solid : (t : FieldType) → t.Carrier → Prop
  | primitive _, _ => True
  | option _, none => True
  | option t, some x => (t.toValue x).isNull = false ∧ t.Solid x
  | box t, x => t.Solid x
  | list t, xs => ∀ x ∈ xs, t.Solid x

/-- **A member is read back from its value.** -/
theorem ofValue_toValue : ∀ (t : FieldType) (x : t.Carrier), t.Solid x →
    t.ofValue (t.toValue x) = .ok x
  | primitive p, x, _ => p.ofValue_toValue x
  | option t, none, _ => if_pos t.isNull_empty
  | option t, some x, ⟨content, solid⟩ => by
    show (if (t.toValue x).isNull = true then _ else (t.ofValue (t.toValue x)).map some) = _
    rw [if_neg (Bool.eq_false_iff.1 content), t.ofValue_toValue x solid]
    rfl
  | box t, x, solid => t.ofValue_toValue x solid
  | list t, xs, solid => by
    show (xs.map t.toValue).mapM t.ofValue = .ok xs
    rw [Outcome.mapM_eq_ok, List.forall₂_map_left_iff]
    exact List.forall₂_same.2 fun x member => t.ofValue_toValue x (solid x member)

/-- The value of a member is of the kind of its type. -/
theorem coerce_empty_toValue : ∀ (t : FieldType) (x : t.Carrier),
    coerce t.empty (t.toValue x) = .ok (t.toValue x)
  | primitive p, x => by
    by_cases decimal : p = .decimal
    · subst decimal
      exact coerce_decimal
    · exact coerce_toValue decimal (primitive p).prototype_empty x
  | option t, none => (coerce_of_isNull t.isNull_empty).trans (congrArg _ t.prototype_empty)
  | option t, some x => t.coerce_empty_toValue x
  | box t, x => t.coerce_empty_toValue x
  | list t, xs => by
    show coerce (.list none t.empty) (.list (some (xs.map t.toValue)) t.empty) = _
    rw [coerce_list, Outcome.map_eq_ok]
    refine ⟨xs.map t.toValue, ?_, rfl⟩
    rw [Outcome.mapM_eq_ok]
    refine List.forall₂_same.2 fun v member => ?_
    obtain ⟨x, _, rfl⟩ := List.mem_map.1 member
    exact t.coerce_empty_toValue x

end FieldType

/-- The members are equal; moments with a zone are when they are the same instant. -/
def Primitive.Same : (p : Primitive) → p.Carrier → p.Carrier → Prop
  | zoned, y, z => z.instant = y.instant
  | _, x, y => y = x

theorem Primitive.same_refl (p : Primitive) (x : p.Carrier) : p.Same x x := by
  cases p <;> rfl

namespace FieldType

/-- The members agree in what is present, in the length of lists, and in what they consist of. -/
def Same : (t : FieldType) → t.Carrier → t.Carrier → Prop
  | primitive p, x, y => p.Same x y
  | option _, none, none => True
  | option t, some x, some y => t.Same x y
  | option _, _, _ => False
  | box t, x, y => t.Same x y
  | list t, xs, ys => List.Forall₂ t.Same xs ys

theorem same_refl : ∀ (t : FieldType) (x : t.Carrier), t.Same x x
  | primitive p, x => p.same_refl x
  | option _, none => trivial
  | option t, some x => t.same_refl x
  | box t, x => t.same_refl x
  | list t, _ => List.forall₂_same.2 fun x _ => t.same_refl x

end FieldType

/-! ## Kinds of columns -/

namespace ColumnField

variable {c : ColumnField} {n : Nat}

theorem prototype_of_empty {kind : Value} (empty : c.type.empty = kind)
    (notDecimal : ∀ content p s, kind ≠ .decimal content p s) : c.prototype = kind := by
  rw [prototype, empty]
  cases kind with
  | decimal content p s => exact absurd rfl (notDecimal content p s)
  | _ => cases c.precision <;> rfl

/-- Columns of decimals have a kind that is unconstrained, or has the scale numbers are rounded
to. -/
theorem prototype_of_decimal (empty : c.type.empty = .decimal none 0 0) :
    ∃ p s, c.prototype = .decimal none p s ∧
      (¬(p = 0 ∧ s = 0) → (c.toColumnDef n).effectiveScale = some s) := by
  have scales := (c.toColumnDef n).effectiveScale_eq
  have kind : c.prototype = c.precision.elim (.decimal none 0 0) fun precision =>
      .decimal none precision (c.scale.getD 0) := by
    rw [prototype, empty]
    cases c.precision <;> rfl
  change _ = c.scale.or c.prototype.ownScale at scales
  rw [scales, kind]
  cases c.precision with
  | none => exact ⟨0, 0, rfl, fun bound => absurd ⟨rfl, rfl⟩ bound⟩
  | some precision =>
    refine ⟨precision, c.scale.getD 0, rfl, fun bound => ?_⟩
    cases declared : c.scale with
    | some scale => rfl
    | none =>
      rw [declared] at bound
      exact if_neg bound

end ColumnField

/-! ## What a column can represent -/

/-- The column of a field can represent a value: decimals have no more digits than its scale,
floating-point numbers are not rounded, milliseconds are whole and mean what they are, and bytes are
not kept as characters. -/
structure ColumnField.Represents (c : ColumnField) (v : Value) : Prop where
  digits : v.FitsScale c.prototype (c.toColumnDef 0).effectiveScale
  unrounded : ∀ k x, v = .float k x → c.scale = none
  whole : c.storage = .longDate → v.IsWholeMillis
  uninterpreted : c.storage = .largeCharacter → ∀ b, v ≠ .blob (some b)

/-- The column of a field can represent a member, wherever that is present. -/
def FieldType.Fits (c : ColumnField) : (t : FieldType) → t.Carrier → Prop
  | primitive p, x => c.Represents (p.toValue x)
  | option _, none => True
  | option t, some x => (t.toValue x).isNull = false ∧ t.Fits c x
  | box t, x => t.Fits c x
  | list t, xs => ∀ x ∈ xs, t.Solid x

/-- The column of a field gives a value back: it keeps no milliseconds, or the value is a date or
time, or nothing about the value is read as milliseconds, or it is their number itself. -/
def ColumnField.GivesBack (c : ColumnField) (v : Value) : Prop :=
  c.storage = .longDate → v.isTemporal = false →
    millisOfValue v = .ok none ∨
      ∃ n m, v = .int .int64 (some n) ∧ Moment.ofNanos? (n.val * nanosPerMilli) = some m

/-- The column of a field gives a member back, wherever that is present. -/
def FieldType.GivenBack (c : ColumnField) : (t : FieldType) → t.Carrier → Prop
  | primitive p, x => c.GivesBack (p.toValue x)
  | option _, none => True
  | option t, some x => t.GivenBack c x
  | box t, x => t.GivenBack c x
  | list _, _ => True

/-! ## Dates and times -/

theorem Returns.decode_eq {c : ColumnDef} {w : Value} (back : Returns dialect c v w)
    (bound : bind dialect (.forColumn v c) = .ok raw) : decode raw c = .ok w := by
  obtain ⟨found, same, decoded⟩ := back
  rw [bound] at same
  cases same
  exact decoded

/-- A moment with a zone that is bound has a moment in UTC. -/
theorem exists_utc {storage : Storage} {kind : Value}
    (bound : bindTemporal v storage kind = .ok raw) :
    ∀ z, v = .zoned (some z) → ∃ m, z.utc? = some m := by
  rintro z rfl
  change (Primitive.utc z >>= fun instant => _) = _ at bound
  obtain ⟨m, utc, _⟩ := Outcome.bind_eq_ok.1 bound
  rw [Primitive.utc] at utc
  cases found : z.utc? with
  | some n => exact ⟨n, rfl⟩
  | none =>
    rw [found] at utc
    cases utc

theorem flat_of_isTemporal (temporal : v.isTemporal = true) : v.isFlat = true := by
  cases v <;> first | rfl | cases temporal

/-- Dates and times come back under every storage under which they can be bound. -/
theorem decode_temporal {c : ColumnDef} (free : c.converter = none)
    (same : c.prototype.sameType v = true) (content : v.isNull = false)
    (temporal : v.isTemporal = true) (whole : c.storage = .longDate → v.IsWholeMillis)
    (bound : bind dialect (.forColumn v c) = .ok raw) :
    ∃ w, decode raw c = .ok w ∧ v.SameMoment w := by
  have bound' := bound
  rw [bind_of_isTemporal content temporal] at bound'
  change bindTemporal v c.storage c.prototype = _ at bound'
  rcases time_or_instant content temporal (exists_utc bound') with ⟨t, rfl⟩ | ⟨m, found⟩
  · have storage : c.storage = .plain ∨ c.storage = .longDate := by
      rw [bindTemporal_time] at bound'
      cases storage : c.storage <;> rw [storage] at bound' <;>
        first | exact .inl rfl | exact .inr rfl | cases bound'
    exact ⟨_, (returns_time free same storage whole).decode_eq bound, .inl rfl⟩
  · by_cases kept : c.storage = .longDate ∨ c.storage = .dateTime ∨ c.storage = .timestamp
    · obtain ⟨w, back, moment⟩ := returns_instant free same kept whole found
      exact ⟨w, back.decode_eq bound, moment⟩
    · have unchanged : storedInstant c.storage v m = v := by
        cases storage : c.storage <;> rw [storage] at kept <;> first | rfl | simp at kept
      have long : c.storage ≠ .longDate := fun long => kept (.inl long)
      rw [bindTemporal_instant found, unchanged] at bound'
      cases bound'
      refine ⟨v, ?_, .inl rfl⟩
      rw [decode_scalar free content, if_neg long]
      exact coerce_of_isFlat (flat_of_isTemporal temporal) content same

/-! ## Other fields -/

/-- A scalar of the kind of its column is not changed by decoding, if no milliseconds are read
from it or if it is them. -/
theorem decode_scalar_kept {c : ColumnDef} {w : Value} (free : c.converter = none)
    (content : v.isNull = false) (same : c.prototype.sameType v = true)
    (millis : c.storage = .longDate → millisOfValue v = .ok none ∨
      ∃ n m, v = .int .int64 (some n) ∧ Moment.ofNanos? (n.val * nanosPerMilli) = some m)
    (coerced : coerce c.prototype v = .ok w) : decode (.scalar v) c = .ok w := by
  rw [decode_scalar free content]
  split
  · rename_i long
    rcases millis long with nothing | ⟨n, m, rfl, found⟩
    · rw [decodeLongDate, nothing]
      exact coerced
    · rw [coerce_of_isFlat rfl rfl same] at coerced
      cases coerced
      rw [decodeLongDate, millisOfValue_int]
      cases kind : c.prototype with
      | int k content =>
        rw [kind] at same
        cases eq_of_beq same
        simp only [Bind.bind, Except.bind, found]
        show Except.ok (Value.int .int64 (some (.clamp .int64 n.val))) = _
        rw [n.clamp_val]
      | _ =>
        rw [kind] at same
        cases same
  · exact coerced

/-- Only texts, characters and bytes are bound as large objects. -/
theorem isStreamable_of_bytesOf {storage : Storage} {charset : Text.Charset} {bytes : List UInt8}
    {p : Primitive} {x : p.Carrier} (found : bytesOf (p.toValue x) storage charset = .ok bytes) :
    (p.toValue x).isStreamable = true := by
  cases p <;> first | rfl | cases found

/-- A decimal is always read as milliseconds, if it can be. -/
theorem millisOfValue_decimal {d : Decimal} {p s : Nat} :
    millisOfValue (.decimal (some d) p s) ≠ .ok none := by
  intro nothing
  unfold millisOfValue at nothing
  dsimp only at nothing
  cases whole : FixedInt.ofInt? .int64 d.truncated with
  | some n =>
    rw [whole] at nothing
    cases nothing
  | none =>
    rw [whole] at nothing
    cases nothing

namespace ColumnField

variable {c : ColumnField} {n : Nat}

/-- A decimal is bound as it is, whatever scale is written beside it. -/
theorem exists_bound_decimal {d : Decimal} (fits : c.Represents (.decimal (some d) 0 d.scale))
    (bound : bind dialect (.forColumn (.decimal (some d) 0 d.scale) (c.toColumnDef n)) = .ok raw) :
    ∃ k, raw = .scalar (.decimal (some d) 0 k) := by
  have kept : d.round ((c.toColumnDef n).effectiveScale.getD d.scale) = d := by
    refine Decimal.round_of_le ?_
    have all := fits.digits
    change Value.FitsScale _ _ (c.toColumnDef n).effectiveScale at all
    cases scale : (c.toColumnDef n).effectiveScale with
    | none => exact Nat.le_refl _
    | some places =>
      rw [scale] at all
      exact Value.fitsScale_decimal.1 all
  by_cases large : c.storage.isLargeObject = true
  · rw [bind_of_isLargeObject ⟨rfl, rfl, rfl⟩ large] at bound
    cases bound
  have scalar : bind dialect (.forColumn (.decimal (some d) 0 d.scale) (c.toColumnDef n)) =
      .ok (.scalar (.decimal (some (d.round ((c.toColumnDef n).effectiveScale.getD d.scale))) 0
        ((c.toColumnDef n).effectiveScale.getD d.scale))) :=
    bind_decimal rfl (Bool.eq_false_iff.2 large)
  rw [kept] at scalar
  cases bound.symm.trans scalar
  exact ⟨_, rfl⟩

/-- A decimal comes back from every storage under which it can be bound, but for milliseconds. -/
theorem decode_decimal {d : Decimal} (empty : c.type.empty = .decimal none 0 0)
    (free : c.converter = none) (fits : c.Represents (.decimal (some d) 0 d.scale))
    (given : c.GivesBack (.decimal (some d) 0 d.scale))
    (bound : bind dialect (.forColumn (.decimal (some d) 0 d.scale) (c.toColumnDef n)) = .ok raw) :
    ∃ p s, decode raw (c.toColumnDef n) = .ok (.decimal (some d) p s) := by
  have long : c.storage ≠ .longDate := by
    intro long
    rcases given long rfl with nothing | ⟨_, _, ⟨⟩, _⟩
    exact millisOfValue_decimal nothing
  obtain ⟨k, rfl⟩ := exists_bound_decimal fits bound
  have decoded : decode (.scalar (.decimal (some d) 0 k)) (c.toColumnDef n) =
      coerce c.prototype (.decimal (some d) 0 k) :=
    (decode_scalar free rfl).trans (if_neg long)
  obtain ⟨p, s, kind, bounded⟩ := prototype_of_decimal (n := n) empty
  rw [decoded, kind, coerce_decimal]
  by_cases unbounded : p = 0 ∧ s = 0
  · rw [if_pos unbounded]
    exact ⟨_, _, rfl⟩
  · have digits := fits.digits
    change Value.FitsScale _ _ (c.toColumnDef n).effectiveScale at digits
    rw [bounded unbounded] at digits
    rw [if_neg unbounded, Decimal.round_of_le (Value.fitsScale_decimal.1 digits)]
    exact ⟨_, _, rfl⟩

theorem sameType_empty {p : Primitive} (notDecimal : p ≠ .decimal) (x : p.Carrier) :
    p.empty.sameType (p.toValue x) = true := by
  cases p with
  | decimal => exact absurd rfl notDecimal
  | int k => exact beq_self_eq_true k
  | float k => exact beq_self_eq_true k
  | _ => rfl

theorem isNull_toValue (p : Primitive) (x : p.Carrier) : (p.toValue x).isNull = false := by
  cases p <;> rfl

theorem prototype_of_primitive {p : Primitive} (notDecimal : p ≠ .decimal)
    (empty : c.type.empty = p.empty) : c.prototype = p.empty := by
  refine prototype_of_empty empty fun _ _ _ => ?_
  cases p <;> first | exact absurd rfl notDecimal | exact nofun

/-- What is no decimal, no date and no time is bound as it is where it is no large object. -/
theorem bind_primitive {p : Primitive} {x : p.Carrier} (notDecimal : p ≠ .decimal)
    (empty : c.type.empty = p.empty) (plain : (p.toValue x).isTemporal = false)
    (fits : c.Represents (p.toValue x)) (small : c.storage.isLargeObject = false) :
    bind dialect (.forColumn (p.toValue x) (c.toColumnDef n)) = .ok (.scalar (p.toValue x)) := by
  have kind := prototype_of_primitive notDecimal empty
  have same : (c.toColumnDef n).prototype.sameType (p.toValue x) = true := by
    show c.prototype.sameType _ = true
    rw [kind]
    exact sameType_empty notDecimal x
  refine bind_kept (undated_of_sameType (isNull_toValue p x) plain same) small
    (fun d precision scale same => ?_) fun k y same => ?_
  · cases p <;> first | exact notDecimal rfl | cases same
  · have float : c.prototype.ownScale = none := by
      rw [kind]
      cases p <;> rfl
    show (c.toColumnDef n).effectiveScale = none
    rw [ColumnDef.effectiveScale_eq, Option.or_eq_none_iff]
    exact ⟨fits.unrounded k y same, float⟩

/-- **The value of a present primitive field comes back.** -/
theorem decode_primitive {p : Primitive} {x : p.Carrier} (empty : c.type.empty = p.empty)
    (free : c.converter = none) (fits : c.Represents (p.toValue x))
    (given : c.GivesBack (p.toValue x))
    (bound : bind dialect (.forColumn (p.toValue x) (c.toColumnDef n)) = .ok raw)
    (short : ∀ o, raw.stream? = some o → o.declared < LargeObject.lengthBound) :
    ∃ w y, decode raw (c.toColumnDef n) = .ok w ∧ w.isNull = false ∧ p.ofValue w = .ok y ∧
      p.Same x y := by
  by_cases decimal : p = .decimal
  · subst decimal
    obtain ⟨precision, scale, decoded⟩ := decode_decimal empty free fits given bound
    exact ⟨_, x, decoded, rfl, rfl, rfl⟩
  have kind := prototype_of_primitive decimal empty
  have same : (c.toColumnDef n).prototype.sameType (p.toValue x) = true := by
    show c.prototype.sameType _ = true
    rw [kind]
    exact sameType_empty decimal x
  have content := isNull_toValue p x
  have unchanged (decoded : decode raw (c.toColumnDef n) = .ok (p.toValue x)) :
      ∃ w y, decode raw (c.toColumnDef n) = .ok w ∧ w.isNull = false ∧ p.ofValue w = .ok y ∧
        p.Same x y :=
    ⟨_, x, decoded, content, p.ofValue_toValue x, p.same_refl x⟩
  by_cases temporal : (p.toValue x).isTemporal = true
  · obtain ⟨w, decoded, rfl | ⟨y, z, zoned, rfl, instant⟩⟩ :=
      decode_temporal free same content temporal fits.whole bound
    · exact unchanged decoded
    · cases p <;> cases zoned
      exact ⟨_, z, decoded, rfl, rfl, instant⟩
  have plain := Bool.eq_false_iff.2 temporal
  by_cases large : c.storage.isLargeObject = true
  · obtain ⟨bytes, found, rfl⟩ := Outcome.map_eq_ok.1
      ((bind_of_isLargeObject (undated_of_sameType content plain same) large).symm.trans bound)
    refine unchanged (decode_streamed free large (isStreamable_of_bytesOf found) content same found
      (short _ stream?_streamed) fun characters b bytes => ?_)
    exact absurd bytes (fits.uninterpreted characters b)
  · rw [bind_primitive decimal empty plain fits (Bool.eq_false_iff.2 large)] at bound
    cases bound
    have null : c.prototype.prototype = p.empty := by
      rw [kind]
      exact (FieldType.primitive p).prototype_empty
    exact unchanged (decode_scalar_kept free content same (fun long => given long plain)
      (coerce_toValue decimal null x))

theorem decode_longDate (free : c.converter = none) (long : c.storage = .longDate)
    (content : v.isNull = false) :
    decode (.scalar v) (c.toColumnDef n) = decodeLongDate v c.prototype :=
  (decode_scalar free content).trans (if_pos long)

/-- **A primitive field that is decoded has been given back.** A number other than their own is not
made from the moment that milliseconds are. -/
theorem givesBack_of_decode {p : Primitive} {x : p.Carrier} {w : Value}
    (empty : c.type.empty = p.empty) (free : c.converter = none)
    (fits : c.Represents (p.toValue x))
    (bound : bind dialect (.forColumn (p.toValue x) (c.toColumnDef n)) = .ok raw)
    (decoded : decode raw (c.toColumnDef n) = .ok w) : c.GivesBack (p.toValue x) := by
  intro long plain
  by_cases decimal : p = .decimal
  · subst decimal
    obtain ⟨k, rfl⟩ := exists_bound_decimal fits bound
    obtain ⟨precision, scale, kind, _⟩ := prototype_of_decimal (n := n) empty
    rw [decode_longDate free long rfl, kind] at decoded
    have parts := (decodeLongDate_eq_ok_iff (by rfl) (by nofun) (by nofun)).1 decoded
    rcases parts with ⟨nothing, _⟩ | ⟨_, _, _, ⟨⟩, _⟩
    exact absurd nothing millisOfValue_decimal
  rw [bind_primitive decimal empty plain fits (by rw [long]; rfl)] at bound
  cases bound
  rw [decode_longDate free long (isNull_toValue p x), prototype_of_primitive decimal empty]
    at decoded
  have sound : p.empty.isTemporal = false := by cases p <;> first | rfl | cases plain
  rw [decodeLongDate_eq_ok_iff sound (by cases p <;> nofun) (by cases p <;> nofun)] at decoded
  rcases decoded with ⟨nothing, _⟩ | ⟨k, content, number, kind, ⟨m, inRange⟩, _⟩
  · exact .inl nothing
  · cases p <;> cases kind
    rw [Primitive.toValue, millisOfValue_int] at number
    cases number
    exact .inr ⟨x, m, rfl, inRange⟩

/-- The value of a list comes back as it is, whatever is in it. -/
theorem decode_list {t : FieldType} {xs : t.list.Carrier} (empty : c.type.empty = t.list.empty)
    (free : c.converter = none)
    (bound : bind dialect (.forColumn (t.list.toValue xs) (c.toColumnDef n)) = .ok raw) :
    decode raw (c.toColumnDef n) = .ok (t.list.toValue xs) := by
  by_cases large : c.storage.isLargeObject = true
  · rw [bind_of_isLargeObject ⟨rfl, rfl, rfl⟩ large] at bound
    cases bound
  have scalar : bind dialect (.forColumn (t.list.toValue xs) (c.toColumnDef n)) =
      .ok (.scalar (t.list.toValue xs)) :=
    bind_kept ⟨rfl, rfl, rfl⟩ (Bool.eq_false_iff.2 large) (fun _ _ _ same => nomatch same)
      (fun _ _ same => nomatch same)
  rw [bound] at scalar
  cases scalar
  have kind : c.prototype = .list none t.empty := prototype_of_empty empty nofun
  have same : c.prototype.sameType (t.list.toValue xs) = true := by
    rw [kind]
    exact t.empty.sameType_refl
  have coerced : coerce c.prototype (t.list.toValue xs) = .ok (t.list.toValue xs) := by
    rw [kind]
    exact t.list.coerce_empty_toValue xs
  exact decode_scalar_kept free rfl same (fun _ => .inl rfl) coerced

end ColumnField

/-- **A field comes back through its column,** if the column can represent it and gives it back. The
induction is on the type of the field; options and boxes around it change neither what is bound nor
the column. -/
theorem FieldType.exists_decode {c : ColumnField} {n : Nat} (free : c.converter = none) :
    ∀ (t : FieldType) (x : t.Carrier), c.type.empty = t.empty → t.Fits c x → t.GivenBack c x →
      bind dialect (.forColumn (t.toValue x) (c.toColumnDef n)) = .ok raw →
      (∀ o, raw.stream? = some o → o.declared < LargeObject.lengthBound) →
      ∃ w y, decode raw (c.toColumnDef n) = .ok w ∧ w.isNull = (t.toValue x).isNull ∧
        t.ofValue w = .ok y ∧ t.Same x y
  | primitive p, x, empty, fits, given, bound, short => by
    obtain ⟨w, y, decoded, content, read, same⟩ :=
      ColumnField.decode_primitive empty free fits given bound short
    exact ⟨w, y, decoded, content.trans (ColumnField.isNull_toValue p x).symm, read, same⟩
  | option t, none, empty, _, _, bound, _ => by
    have null : (Pair.forColumn t.empty (c.toColumnDef n)).value.isNull = true := t.isNull_empty
    change bind dialect (.forColumn t.empty (c.toColumnDef n)) = _ at bound
    rw [bind_of_isNull null] at bound
    cases bound
    refine ⟨_, none, decode_null free, ?_, ?_, trivial⟩
    · rw [Value.isNull_prototype]
      exact t.isNull_empty.symm
    · exact if_pos (Value.isNull_prototype _)
  | option t, some x, empty, ⟨content, fits⟩, given, bound, short => by
    obtain ⟨w, y, decoded, null, read, same⟩ :=
      t.exists_decode free x empty fits given bound short
    refine ⟨w, some y, decoded, null, ?_, same⟩
    show (if w.isNull = true then _ else (t.ofValue w).map some) = _
    rw [if_neg (by rw [null, content]; exact Bool.false_ne_true), read]
    rfl
  | box t, x, empty, fits, given, bound, short =>
    t.exists_decode free x empty fits given bound short
  | list t, xs, empty, solid, _, bound, _ =>
    ⟨t.list.toValue xs, xs, ColumnField.decode_list empty free bound, rfl,
      t.list.ofValue_toValue xs solid, t.list.same_refl xs⟩

/-- **A field that is decoded has been given back.** So what is not given back fails. -/
theorem FieldType.givenBack_of_decode {c : ColumnField} {n : Nat} {w : Value}
    (free : c.converter = none) :
    ∀ (t : FieldType) (x : t.Carrier), c.type.empty = t.empty → t.Fits c x →
      bind dialect (.forColumn (t.toValue x) (c.toColumnDef n)) = .ok raw →
      decode raw (c.toColumnDef n) = .ok w → t.GivenBack c x
  | primitive _, _, empty, fits, bound, decoded =>
    ColumnField.givesBack_of_decode empty free fits bound decoded
  | option _, none, _, _, _, _ => trivial
  | option t, some x, empty, ⟨_, fits⟩, bound, decoded =>
    t.givenBack_of_decode free x empty fits bound decoded
  | box t, x, empty, fits, bound, decoded =>
    t.givenBack_of_decode free x empty fits bound decoded
  | list _, _, _, _, _, _ => trivial

/-- What a field is decoded to is read as the member that went in. -/
theorem FieldType.reads_of_decode {c : ColumnField} {n : Nat} {w : Value} {t : FieldType}
    {x : t.Carrier} (free : c.converter = none) (empty : c.type.empty = t.empty)
    (fits : t.Fits c x)
    (bound : bind dialect (.forColumn (t.toValue x) (c.toColumnDef n)) = .ok raw)
    (short : ∀ o, raw.stream? = some o → o.declared < LargeObject.lengthBound)
    (decoded : decode raw (c.toColumnDef n) = .ok w) :
    ∃ y, t.ofValue w = .ok y ∧ t.Same x y := by
  have given := t.givenBack_of_decode free x empty fits bound decoded
  obtain ⟨v, y, found, _, read, same⟩ := t.exists_decode free x empty fits given bound short
  cases decoded.symm.trans found
  exact ⟨y, read, same⟩

end EntitySql
