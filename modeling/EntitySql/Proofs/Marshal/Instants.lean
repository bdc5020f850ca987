import EntitySql.Proofs.Marshal.Binding
import EntitySql.Proofs.Marshal.Coercion

/-!
# Dates and times come back under every storage for them

What lies on the line of time is stored as milliseconds, as a moment of UTC or as an instant, and
read by way of another kind than it was written. Each of these storages keeps the moment in UTC, and
the moment decides the date, the moment without zone and, up to the zone, the moment with one
(`coerce_moment`). A time of day is kept as it is or as its milliseconds.

**Milliseconds.** Only whole ones survive (`Value.IsWholeMillis`). Every moment of the calendar is
far from the bounds of their number, and the division that cuts off towards 1970 is exact on whole
milliseconds, before 1970 too.
-/

namespace EntitySql

set_option autoImplicit false

variable {dialect : Dialect} {c : ColumnDef} {v : Value} {m : Moment}

/-! ## Milliseconds -/

/-- A date or time is a whole number of milliseconds. -/
def Value.IsWholeMillis : Value → Prop
  | time (some t) => t.nanos % nanosPerMilli = 0
  | timestamp (some m) => m.toNanos % nanosPerMilli = 0
  | zoned (some z) => z.instant % nanosPerMilli = 0
  | _ => True

theorem FixedInt.val_clamp {k : IntKind} {n : Int} (low : k.min ≤ n) (high : n ≤ k.max) :
    (clamp k n).val = n := by
  rw [clamp, dif_pos ⟨low, high⟩]

theorem FixedInt.clamp_val {k : IntKind} (n : FixedInt k) : clamp k n.val = n := by
  apply FixedInt.ext
  rw [val_clamp n.min_le n.le_max]

theorem millisOf_mul (whole : m.toNanos % nanosPerMilli = 0) :
    millisOf m * nanosPerMilli = m.toNanos :=
  Int.tdiv_mul_cancel (Int.dvd_of_emod_eq_zero whole)

/-- The milliseconds of a moment are in range of the kind they are stored as. -/
theorem val_clamp_millisOf (m : Moment) :
    (FixedInt.clamp .int64 (millisOf m)).val = millisOf m := by
  have early := m.date.min_le
  have late := m.date.le_max
  have start := m.time.zero_le
  have close := m.time.lt_day
  have low : IntKind.int64.min = -9223372036854775808 := rfl
  have high : IntKind.int64.max = 9223372036854775807 := rfl
  have size : (millisOf m).natAbs = m.toNanos.natAbs / 1000000 := Int.natAbs_tdiv ..
  simp only [Moment.toNanos, nanosPerDay] at size
  refine FixedInt.val_clamp ?_ ?_
  · omega
  · omega

/-- The milliseconds of a time of day are in range. -/
theorem val_clamp_millis (t : TimeOfDay) : (FixedInt.clamp .int64 t.millis).val = t.millis := by
  have start := t.zero_le
  have close := t.lt_day
  have low : IntKind.int64.min = -9223372036854775808 := rfl
  have high : IntKind.int64.max = 9223372036854775807 := rfl
  refine FixedInt.val_clamp ?_ ?_
  · rw [low, TimeOfDay.millis, nanosPerMilli]
    omega
  · rw [high, TimeOfDay.millis, nanosPerMilli]
    omega

theorem millisOfValue_int (n : FixedInt .int64) :
    millisOfValue (.int .int64 (some n)) = .ok (some n.val) := by
  show (Primitive.orFail _ (FixedInt.ofInt? .int64 n.val)).map _ = _
  rw [FixedInt.ofInt?_val]
  rfl

/-- A whole number of milliseconds makes up the time of day again. -/
theorem ofNanosMod_millis {t : TimeOfDay} (whole : t.nanos % nanosPerMilli = 0) :
    TimeOfDay.ofNanosMod (t.millis % millisPerDay * nanosPerMilli) = t := by
  have start := t.zero_le
  have close := t.lt_day
  apply TimeOfDay.ext
  simp only [TimeOfDay.ofNanosMod, TimeOfDay.millis, millisPerDay, nanosPerMilli, nanosPerDay]
    at whole ⊢
  omega

/-! ## Moments read back -/

/-- The values are the same, but for the zone of a moment. -/
def Value.SameMoment (v w : Value) : Prop :=
  w = v ∨ ∃ y z, v = .zoned (some y) ∧ w = .zoned (some z) ∧ z.instant = y.instant

theorem Value.SameMoment.equals {w : Value} (same : v.SameMoment w)
    (temporal : v.isTemporal = true) : w.equals v = true := by
  rcases same with rfl | ⟨y, z, rfl, rfl, instant⟩
  · cases w <;> first | exact Value.equals_self_of_isFlat rfl rfl | cases temporal
  · simp [Value.equals, Value.agree, instant]

theorem toNanos_of_instantOf? {z : ZonedMoment}
    (found : instantOf? (.zoned (some z)) = some (.ok m)) : m.toNanos = z.instant := by
  have utc : Primitive.orFail (.abort .instantOutOfRange) z.utc? = .ok m := Option.some.inj found
  cases inRange : z.utc? with
  | none =>
    rw [inRange] at utc
    cases utc
  | some n =>
    rw [inRange] at utc
    cases utc
    exact Moment.toNanos_of_ofNanos? inRange

/-- **The moment in UTC decides the value:** read as a moment of UTC or as an instant, it comes
back. -/
theorem coerce_moment {kind u : Value} (same : kind.sameType v = true)
    (found : instantOf? v = some (.ok m))
    (stored : u = .timestamp (some m) ∨ u = .zoned (some (.ofUtc m))) :
    ∃ w, coerce kind u = .ok w ∧ v.SameMoment w := by
  have utc : Primitive.utc (.ofUtc m) = .ok m := by
    rw [Primitive.utc, ZonedMoment.utc?_ofUtc]
    rfl
  cases v with
  | date d =>
    cases d with
    | none => cases found
    | some d =>
      cases found
      cases kind <;> cases same
      rcases stored with rfl | rfl
      · exact ⟨_, rfl, .inl rfl⟩
      · refine ⟨.date (some d), ?_, .inl rfl⟩
        show ((Primitive.utc _).map Moment.date).map Primitive.date.toValue = _
        rw [utc]
        rfl
  | timestamp n =>
    cases n with
    | none => cases found
    | some n =>
      cases found
      cases kind <;> cases same
      rcases stored with rfl | rfl
      · exact ⟨_, rfl, .inl rfl⟩
      · refine ⟨.timestamp (some m), ?_, .inl rfl⟩
        show (Primitive.utc _).map Primitive.moment.toValue = _
        rw [utc]
        rfl
  | zoned z =>
    cases z with
    | none => cases found
    | some z =>
      have instant := toNanos_of_instantOf? found
      have back : (ZonedMoment.ofUtc m).instant = z.instant := by
        rw [ZonedMoment.instant_ofUtc, instant]
      cases kind <;> cases same
      rcases stored with rfl | rfl
      · exact ⟨_, rfl, .inr ⟨z, _, rfl, rfl, back⟩⟩
      · exact ⟨_, rfl, .inr ⟨z, _, rfl, rfl, back⟩⟩
  | _ => cases found

/-- A number of milliseconds that is a moment is read by way of the instant, unless a time of day or
a number is wanted. -/
theorem decodeLongDate_instant {kind : Value} {n : FixedInt .int64} {utc : Except Error Moment}
    (found : Moment.ofNanos? (n.val * nanosPerMilli) = some m) (same : kind.sameType v = true)
    (instant : instantOf? v = some utc) :
    decodeLongDate (.int .int64 (some n)) kind = coerce kind (.zoned (some (.ofUtc m))) := by
  rw [decodeLongDate, millisOfValue_int]
  simp only [Bind.bind, Except.bind, found]
  cases v <;> first | cases instant | (cases kind <;> first | rfl | cases same)

/-- Only dates and times, and what has no kind of its own, are made from an instant. -/
theorem coerce_instant_ne_ok {kind w : Value} {z : ZonedMoment} (plain : kind.isTemporal = false)
    (known : kind ≠ .null) (typed : ∀ s, kind ≠ .unknown s) :
    coerce kind (.zoned (some z)) ≠ .ok w := by
  intro coerced
  cases kind with
  | null => exact known rfl
  | unknown s => exact typed s rfl
  | date _ | time _ | timestamp _ | zoned _ => cases plain
  | _ => cases coerced

/-- **What a column of milliseconds decodes for a kind that is no date or time:** a value about
which
nothing is read as a number, as in any other column, and a number of one kind, if it is a moment. -/
theorem decodeLongDate_eq_ok_iff {kind w : Value} (plain : kind.isTemporal = false)
    (known : kind ≠ .null) (typed : ∀ s, kind ≠ .unknown s) :
    decodeLongDate v kind = .ok w ↔
      (millisOfValue v = .ok none ∧ coerce kind v = .ok w) ∨
        ∃ n content, millisOfValue v = .ok (some n) ∧ kind = .int .int64 content ∧
          (∃ m, Moment.ofNanos? (n * nanosPerMilli) = some m) ∧
          w = .int .int64 (some (.clamp .int64 n)) := by
  rw [decodeLongDate, Outcome.bind_eq_ok]
  constructor
  · rintro ⟨found, number, decoded⟩
    cases found with
    | none => exact .inl ⟨number, decoded⟩
    | some n =>
      refine .inr ⟨n, ?_⟩
      dsimp only at decoded
      split at decoded
      · cases plain
      · split at decoded
        · cases decoded
        · rename_i m inRange
          split at decoded
          · exact ⟨_, number, rfl, ⟨m, inRange⟩, (Except.ok.inj decoded).symm⟩
          · exact absurd rfl known
          · exact absurd decoded (coerce_instant_ne_ok plain known typed)
  · rintro (⟨nothing, coerced⟩ | ⟨n, content, number, rfl, ⟨m, inRange⟩, rfl⟩)
    · exact ⟨none, nothing, coerced⟩
    · refine ⟨some n, number, ?_⟩
      dsimp only
      rw [inRange]
      rfl

theorem Value.IsWholeMillis.toNanos (whole : v.IsWholeMillis)
    (found : instantOf? v = some (.ok m)) : m.toNanos % nanosPerMilli = 0 := by
  cases v with
  | date d =>
    cases d with
    | none => cases found
    | some d =>
      cases found
      show (d.day * nanosPerDay + 0) % nanosPerMilli = 0
      simp only [nanosPerDay, nanosPerMilli]
      omega
  | timestamp n =>
    cases n with
    | none => cases found
    | some n =>
      cases found
      exact whole
  | zoned z =>
    cases z with
    | none => cases found
    | some z =>
      rw [toNanos_of_instantOf? found]
      exact whole
  | _ => cases found

/-- What a storage for moments makes of a value is read back. -/
theorem decode_storedInstant (free : c.converter = none) (same : c.prototype.sameType v = true)
    (storage : c.storage = .longDate ∨ c.storage = .dateTime ∨ c.storage = .timestamp)
    (whole : c.storage = .longDate → v.IsWholeMillis) (found : instantOf? v = some (.ok m)) :
    ∃ w, decode (.scalar (storedInstant c.storage v m)) c = .ok w ∧ v.SameMoment w := by
  rcases storage with long | day | instant
  · have back := millisOf_mul ((whole long).toNanos found)
    have clamped : Moment.ofNanos? ((FixedInt.clamp .int64 (millisOf m)).val * nanosPerMilli) =
        some m := by
      rw [val_clamp_millisOf, back, Moment.ofNanos?_toNanos]
    rw [long, storedInstant, decode_scalar free rfl, if_pos long,
      decodeLongDate_instant clamped same found]
    exact coerce_moment same found (.inr rfl)
  · rw [day, storedInstant, decode_scalar free rfl, day]
    exact coerce_moment same found (.inl rfl)
  · rw [instant, storedInstant, decode_scalar free rfl, instant]
    exact coerce_moment same found (.inr rfl)

/-! ## There and back -/

theorem isTemporal_of_instantOf? {found : Except Error Moment} (h : instantOf? v = some found) :
    v.isTemporal = true ∧ v.isNull = false := by
  cases v with
  | date d => cases d <;> first | exact ⟨rfl, rfl⟩ | cases h
  | timestamp m => cases m <;> first | exact ⟨rfl, rfl⟩ | cases h
  | zoned z => cases z <;> first | exact ⟨rfl, rfl⟩ | cases h
  | _ => cases h

theorem returns_instant (free : c.converter = none) (same : c.prototype.sameType v = true)
    (storage : c.storage = .longDate ∨ c.storage = .dateTime ∨ c.storage = .timestamp)
    (whole : c.storage = .longDate → v.IsWholeMillis) (found : instantOf? v = some (.ok m)) :
    ∃ w, Returns dialect c v w ∧ v.SameMoment w := by
  obtain ⟨temporal, content⟩ := isTemporal_of_instantOf? found
  obtain ⟨w, decoded, moment⟩ := decode_storedInstant free same storage whole found
  exact ⟨w, ⟨_, (bind_of_isTemporal content temporal).trans (bindTemporal_instant found), decoded⟩,
    moment⟩

theorem returns_time {t : TimeOfDay} (free : c.converter = none)
    (same : c.prototype.sameType (.time (some t)) = true)
    (storage : c.storage = .plain ∨ c.storage = .longDate)
    (whole : c.storage = .longDate → t.nanos % nanosPerMilli = 0) :
    Returns dialect c (.time (some t)) (.time (some t)) := by
  have bound : bind dialect (.forColumn (.time (some t)) c) =
      bindTemporal (.time (some t)) c.storage c.prototype := bind_of_isTemporal rfl rfl
  rw [bindTemporal_time] at bound
  rcases storage with plain | long
  · rw [plain] at bound
    refine ⟨_, bound, ?_⟩
    rw [decode_scalar free rfl, plain]
    exact coerce_of_isFlat rfl rfl same
  · rw [long] at bound
    refine ⟨_, bound, ?_⟩
    rw [decode_scalar free rfl, if_pos long, decodeLongDate, millisOfValue_int]
    cases kind : c.prototype with
    | time content =>
      show Except.ok (Value.time (some (.ofNanosMod
        ((FixedInt.clamp .int64 t.millis).val % millisPerDay * nanosPerMilli)))) = _
      rw [val_clamp_millis, ofNanosMod_millis (whole long)]
    | _ =>
      rw [kind] at same
      cases same

/-- The storages that keep the values of a kind of dates or times. -/
def Storage.Keeps (s : Storage) : (kind : Value) → Prop
  | .date _ | .timestamp _ | .zoned _ => s = .longDate ∨ s = .dateTime ∨ s = .timestamp
  | .time _ => s = .plain ∨ s = .longDate
  | _ => False

/-- What has a kind that a storage keeps is a time of day or has a moment in UTC. -/
theorem Storage.Keeps.cases {s : Storage} {kind : Value} (keeps : s.Keeps kind)
    (same : kind.sameType v = true) (content : v.isNull = false)
    (inRange : ∀ z, v = .zoned (some z) → ∃ m, z.utc? = some m) :
    (∃ t, v = .time (some t) ∧ (s = .plain ∨ s = .longDate)) ∨
      (∃ m, instantOf? v = some (.ok m)) ∧ (s = .longDate ∨ s = .dateTime ∨ s = .timestamp) := by
  have temporal : v.isTemporal = true := by
    cases kind <;> first | exact keeps.elim | (cases v <;> first | rfl | cases same)
  rcases time_or_instant content temporal inRange with ⟨t, rfl⟩ | ⟨m, found⟩
  · refine .inl ⟨t, rfl, ?_⟩
    cases kind <;> first | exact keeps | cases same
  · refine .inr ⟨⟨m, found⟩, ?_⟩
    cases kind with
    | time _ => cases v <;> first | cases found | cases same
    | date _ => exact keeps
    | timestamp _ => exact keeps
    | zoned _ => exact keeps
    | _ => exact keeps.elim

/-- **Dates and times come back under every storage that keeps their kind:** dates and moments from
milliseconds, moments of UTC and instants, times of day as they are and from milliseconds. Binding
does not fail as long as the moment in UTC is one; as milliseconds the value has to be a whole
number of them. Moments with a zone come back as the same instant. -/
theorem returns_temporal (dialect : Dialect) {c : ColumnDef} {v : Value}
    (free : c.converter = none) (keeps : c.storage.Keeps c.prototype)
    (same : c.prototype.sameType v = true)
    (inRange : ∀ z, v = .zoned (some z) → ∃ m, z.utc? = some m)
    (whole : c.storage = .longDate → v.IsWholeMillis) :
    ∃ w, Returns dialect c v w ∧ w.equals v = true := by
  by_cases null : v.isNull = true
  · exact ⟨_, returns_of_isNull free null, Value.equals_of_isNull (Value.isNull_prototype _) null
      ((Value.sameType_prototype _ _).trans same)⟩
  rcases keeps.cases same (Bool.eq_false_iff.2 null) inRange with
    ⟨t, rfl, storage⟩ | ⟨⟨m, found⟩, storage⟩
  · exact ⟨_, returns_time free same storage whole, Value.equals_self_of_isFlat rfl rfl⟩
  · obtain ⟨w, back, moment⟩ := returns_instant free same storage whole found
    exact ⟨w, back, moment.equals (isTemporal_of_instantOf? found).1⟩

/-- A column of moments with a zone, kept as milliseconds. -/
def loginColumn : ColumnDef where
  field := "lastLogin"
  name := "LAST_LOGIN"
  storage := .longDate
  prototype := .zoned none
  nullable := false
  key := .outside
  position := 0
  charset := .utf8
  scale := none
  converter := none

/-- One millisecond before 1970, on a clock two hours ahead of UTC. -/
def loginSample : ZonedMoment :=
  ⟨⟨⟨0, by decide, by decide⟩, ⟨7199999000000, by decide, by decide⟩⟩, 7200, by decide, by decide⟩

theorem returns_temporal_loginSample :
    loginSample.instant = -1000000 ∧
      ∃ w, Returns .postgres loginColumn (.zoned (some loginSample)) w ∧
        w.equals (.zoned (some loginSample)) = true := by
  have inRange : ∀ z, Value.zoned (some loginSample) = .zoned (some z) →
      ∃ m, z.utc? = some m := by
    rintro z ⟨⟩
    exact Option.isSome_iff_exists.1 (by decide)
  exact ⟨rfl, returns_temporal .postgres (c := loginColumn) rfl (.inl rfl) rfl inRange
    fun _ => rfl⟩

end EntitySql
