import EntitySql.Proofs.Calendar.Timeline
import EntitySql.Proofs.Marshal.Instants
import Mathlib.Order.Bounds.Defs

/-!
# Milliseconds kept of a date or time

Under the storage for milliseconds a date or time is bound as a number of them. The part of a
millisecond is cut off towards 1970, and decoding takes the number back to its place on the line of
time. A time of day and what is not before 1970 so come back at the greatest whole millisecond not
after them.

Before 1970 the cut goes the other way. A value with a part of a millisecond comes back later than
it was, at the next whole millisecond, and on the next day if it was in the last millisecond of its
day (`returns_milliseconds`).
-/

namespace EntitySql

set_option autoImplicit false

variable {dialect : Dialect} {c : ColumnDef} {v : Value} {m : Moment} {n : Int}

/-! ## Whole milliseconds -/

/-- The whole milliseconds of a number of nanoseconds, the rest cut off towards zero. -/
def keptNanos (n : Int) : Int := n.tdiv nanosPerMilli * nanosPerMilli

/-- The cut goes down from zero on and up below it. -/
theorem keptNanos_cases (n : Int) :
    0 ≤ n ∧ keptNanos n = n / 1000000 * 1000000 ∨
      n < 0 ∧ keptNanos n = -(-n / 1000000 * 1000000) := by
  rcases Int.lt_or_le n 0 with early | late
  · refine .inr ⟨early, ?_⟩
    have opposite : n.tdiv 1000000 = -(-n / 1000000) := by
      rw [← Int.tdiv_eq_ediv_of_nonneg (by omega), Int.neg_tdiv, Int.neg_neg]
    rw [keptNanos, nanosPerMilli, opposite, Int.neg_mul]
  · exact .inl ⟨late, by rw [keptNanos, nanosPerMilli, Int.tdiv_eq_ediv_of_nonneg late]⟩

/-- What is kept is the greatest whole millisecond not after, from zero on and for whole
milliseconds. -/
theorem isGreatest_keptNanos_iff (n : Int) :
    IsGreatest {k | nanosPerMilli ∣ k ∧ k ≤ n} (keptNanos n) ↔ 0 ≤ n ∨ nanosPerMilli ∣ n := by
  have cut := keptNanos_cases n
  constructor
  · rintro ⟨⟨_, before⟩, _⟩
    simp only [nanosPerMilli]
    omega
  · intro kept
    refine ⟨⟨Int.dvd_mul_left .., ?_⟩, ?_⟩
    · simp only [nanosPerMilli] at kept
      omega
    · rintro k ⟨whole, before⟩
      simp only [nanosPerMilli] at kept whole
      omega

/-- Below zero, what is kept is the least whole millisecond not before. -/
theorem isLeast_keptNanos (early : n < 0) :
    IsLeast {k | nanosPerMilli ∣ k ∧ n ≤ k} (keptNanos n) := by
  have cut := keptNanos_cases n
  refine ⟨⟨Int.dvd_mul_left .., by omega⟩, ?_⟩
  rintro k ⟨whole, after⟩
  simp only [nanosPerMilli] at whole
  omega

theorem keptNanos_le_iff (n : Int) : keptNanos n ≤ n ↔ 0 ≤ n ∨ nanosPerMilli ∣ n := by
  have cut := keptNanos_cases n
  simp only [nanosPerMilli]
  omega

/-- What is kept is of the next day only for the last millisecond of a day before zero. -/
theorem keptNanos_day_iff (n : Int) :
    keptNanos n / nanosPerDay = n / nanosPerDay ↔
      0 ≤ n ∨ n % nanosPerDay ≤ nanosPerDay - nanosPerMilli := by
  have cut := keptNanos_cases n
  simp only [nanosPerDay, nanosPerMilli]
  omega

/-- A moment cut to whole milliseconds is in range: the cut goes towards 1970. -/
theorem exists_ofNanos?_keptNanos (m : Moment) :
    ∃ kept, Moment.ofNanos? (keptNanos m.toNanos) = some kept := by
  have cut := keptNanos_cases m.toNanos
  have first := m.date.min_le
  have last := m.date.le_max
  have start := m.time.zero_le
  have close := m.time.lt_day
  have day : -4371587 ≤ keptNanos m.toNanos / nanosPerDay ∧
      keptNanos m.toNanos / nanosPerDay ≤ 2932896 := by
    simp only [Moment.toNanos, nanosPerDay] at cut ⊢
    omega
  rw [Moment.ofNanos?, Date.ofDay?, dif_pos day]
  exact ⟨_, rfl⟩

/-! ## There and back -/

/-- The moment of UTC of a value is at the place of the value. -/
theorem Value.nanos?_of_instantOf? (found : instantOf? v = some (.ok m)) :
    v.nanos? = some m.toNanos := by
  cases v with
  | date d =>
    cases d with
    | none => cases found
    | some d =>
      cases found
      rfl
  | timestamp x =>
    cases x with
    | none => cases found
    | some x =>
      cases found
      rfl
  | zoned z =>
    cases z with
    | none => cases found
    | some z => rw [nanos?, toNanos_of_instantOf? found]
  | _ => cases found

/-- A moment of UTC read as a kind for dates or moments is at its place; a date has to start its
day. -/
theorem coerce_utc {kind : Value} {kept : Moment} (same : kind.sameType v = true)
    (found : instantOf? v = some (.ok m))
    (day : ∀ d, v = .date (some d) → kept = .atMidnight d) :
    ∃ w, coerce kind (.zoned (some (.ofUtc kept))) = .ok w ∧ w.sameType v = true ∧
      w.nanos? = some kept.toNanos := by
  have utc : Primitive.utc (.ofUtc kept) = .ok kept := by
    rw [Primitive.utc, ZonedMoment.utc?_ofUtc]
    rfl
  cases v with
  | date d =>
    cases d with
    | none => cases found
    | some d =>
      cases kind <;> cases same
      refine ⟨.date (some kept.date), ?_, rfl, ?_⟩
      · show ((Primitive.utc _).map Moment.date).map Primitive.date.toValue = _
        rw [utc]
        rfl
      · rw [day d rfl]
        rfl
  | timestamp x =>
    cases kind <;> cases same
    refine ⟨.timestamp (some kept), ?_, rfl, rfl⟩
    show (Primitive.utc _).map Primitive.moment.toValue = _
    rw [utc]
    rfl
  | zoned z =>
    cases kind <;> cases same
    exact ⟨_, rfl, rfl, congrArg some (ZonedMoment.instant_ofUtc kept)⟩
  | _ => cases found

/-- The milliseconds of a moment lead back to the moment cut to them. -/
theorem decode_keptNanos {k : FixedInt .int64}
    (passed : converted (.int .int64 (some k)) c = .ok none) (long : c.storage = .longDate)
    (same : c.prototype.sameType v = true) (found : instantOf? v = some (.ok m))
    (stored : k.val * nanosPerMilli = keptNanos m.toNanos) :
    ∃ w, decode (.scalar (.int .int64 (some k))) c = .ok w ∧ w.sameType v = true ∧
      w.nanos? = some (k.val * nanosPerMilli) := by
  obtain ⟨kept, inRange⟩ := exists_ofNanos?_keptNanos m
  have day : ∀ d, v = .date (some d) → kept = .atMidnight d := by
    rintro d rfl
    cases found
    have whole : keptNanos (Moment.atMidnight d).toNanos = (Moment.atMidnight d).toNanos := by
      have cut := keptNanos_cases (Moment.atMidnight d).toNanos
      have start : (Moment.atMidnight d).toNanos = d.day * 86400000000000 + 0 := rfl
      omega
    rw [whole, Moment.ofNanos?_toNanos] at inRange
    exact (Option.some.inj inRange).symm
  rw [decode_of_passed passed rfl rfl, if_pos long,
    decodeLongDate_instant (stored ▸ inRange) same found, stored,
    ← Moment.toNanos_of_ofNanos? inRange]
  exact coerce_utc same found day

/-- The milliseconds of a time of day lead back to the time cut to them. -/
theorem decode_time {k : FixedInt .int64} {t : TimeOfDay}
    (passed : converted (.int .int64 (some k)) c = .ok none) (long : c.storage = .longDate)
    (same : c.prototype.sameType (.time (some t)) = true) (stored : k.val = t.millis) :
    ∃ w, decode (.scalar (.int .int64 (some k))) c = .ok w ∧
      w.sameType (.time (some t)) = true ∧ w.nanos? = some (k.val * nanosPerMilli) := by
  have start := t.zero_le
  have close := t.lt_day
  have sameDay : k.val % millisPerDay * nanosPerMilli % nanosPerDay = k.val * nanosPerMilli := by
    rw [stored, TimeOfDay.millis]
    simp only [millisPerDay, nanosPerMilli, nanosPerDay]
    omega
  rw [decode_of_passed passed rfl rfl, if_pos long, decodeLongDate, millisOfValue_int]
  cases kind : c.prototype with
  | time content => exact ⟨_, rfl, rfl, congrArg some sameDay⟩
  | _ =>
    rw [kind] at same
    cases same

/-- **Dates and times are kept as whole milliseconds, cut towards 1970.** Bound for a column of
their kind that stores milliseconds and decoded again, they come back, in UTC, at the milliseconds
that were stored. These are the greatest whole milliseconds not after the value exactly when it is
not before 1970 or is whole itself; before 1970 they are the least ones not before it. So only a
value before 1970 with a part of a millisecond comes back later than it was, and on another day of
UTC if that part belongs to the last millisecond of its day. -/
theorem returns_milliseconds (dialect : Dialect) {c : ColumnDef} {v : Value} {n : Int}
    (passed : ∀ k, converted (.int .int64 (some k)) c = .ok none) (long : c.storage = .longDate)
    (same : c.prototype.sameType v = true) (place : v.nanos? = some n)
    (inRange : ∀ z, v = .zoned (some z) → ∃ m, z.utc? = some m) :
    ∃ (k : FixedInt .int64) (w : Value) (stored : Int),
      bind dialect (.forColumn v c) = .ok (.scalar (.int .int64 (some k))) ∧
      decode (.scalar (.int .int64 (some k))) c = .ok w ∧
      w.sameType v = true ∧ w.nanos? = some stored ∧ stored = k.val * nanosPerMilli ∧
      (IsGreatest {k | nanosPerMilli ∣ k ∧ k ≤ n} stored ↔ 0 ≤ n ∨ nanosPerMilli ∣ n) ∧
      (n < 0 → IsLeast {k | nanosPerMilli ∣ k ∧ n ≤ k} stored) ∧
      (stored ≤ n ↔ 0 ≤ n ∨ nanosPerMilli ∣ n) ∧
      (stored / nanosPerDay = n / nanosPerDay ↔
        0 ≤ n ∨ n % nanosPerDay ≤ nanosPerDay - nanosPerMilli) := by
  obtain ⟨temporal, content⟩ := Value.isTemporal_of_nanos? place
  have back : ∃ (k : FixedInt .int64) (w : Value),
      bind dialect (.forColumn v c) = .ok (.scalar (.int .int64 (some k))) ∧
      decode (.scalar (.int .int64 (some k))) c = .ok w ∧ w.sameType v = true ∧
      w.nanos? = some (k.val * nanosPerMilli) ∧ k.val * nanosPerMilli = keptNanos n := by
    rcases time_or_instant content temporal inRange with ⟨t, rfl⟩ | ⟨m, found⟩
    · cases place
      have stored := val_clamp_millis t
      obtain ⟨w, decoded, kind, lies⟩ := decode_time (passed _) long same stored
      refine ⟨_, w, ?_, decoded, kind, lies, ?_⟩
      · refine (bind_of_isTemporal content temporal).trans (bindTemporal_time.trans ?_)
        rw [show (Pair.forColumn (.time (some t)) c).storage = .longDate from long]
      · rw [stored, TimeOfDay.millis, keptNanos, Int.tdiv_eq_ediv_of_nonneg t.zero_le]
    · rw [Value.nanos?_of_instantOf? found] at place
      cases place
      have stored : (FixedInt.clamp .int64 (millisOf m)).val * nanosPerMilli =
          keptNanos m.toNanos := by
        rw [val_clamp_millisOf, millisOf, keptNanos]
      obtain ⟨w, decoded, kind, lies⟩ := decode_keptNanos (passed _) long same found stored
      refine ⟨_, w, ?_, decoded, kind, lies, stored⟩
      refine (bind_of_isTemporal content temporal).trans ((bindTemporal_instant found).trans ?_)
      show Except.ok (DriverValue.scalar (storedInstant c.storage v m)) = _
      rw [long]
      rfl
  obtain ⟨k, w, bound, decoded, kind, lies, kept⟩ := back
  refine ⟨k, w, _, bound, decoded, kind, lies, rfl, ?_⟩
  rw [kept]
  exact ⟨isGreatest_keptNanos_iff n, isLeast_keptNanos, keptNanos_le_iff n, keptNanos_day_iff n⟩

/-- A column of moments without a zone, kept as milliseconds. -/
def departureColumn : ColumnDef :=
  { loginColumn with field := "departure", name := "DEPARTURE", prototype := .timestamp none }

/-- A hundred nanoseconds before 1970. -/
def eveSample : Moment :=
  ⟨⟨-1, by decide, by decide⟩, ⟨86399999999900, by decide, by decide⟩⟩

theorem returns_milliseconds_eveSample :
    ∃ (k : FixedInt .int64) (w : Value) (stored : Int),
      bind .generic (.forColumn (.timestamp (some eveSample)) departureColumn) =
        .ok (.scalar (.int .int64 (some k))) ∧
      decode (.scalar (.int .int64 (some k))) departureColumn = .ok w ∧
      w.nanos? = some stored ∧ IsLeast {k | nanosPerMilli ∣ k ∧ -100 ≤ k} stored := by
  obtain ⟨k, w, stored, bound, decoded, -, lies, -, -, least, -⟩ :=
    returns_milliseconds .generic (c := departureColumn) (v := .timestamp (some eveSample))
      (n := -100) (fun _ => rfl) rfl rfl rfl (by rintro z ⟨⟩)
  exact ⟨k, w, stored, bound, decoded, lies, least (by decide)⟩

/-- The last hundred nanoseconds before 1970 come back as the start of 1970: later, and on the next
day. -/
theorem returns_milliseconds_nextDay :
    ∃ (k : FixedInt .int64) (back : Moment),
      bind .generic (.forColumn (.timestamp (some eveSample)) departureColumn) =
        .ok (.scalar (.int .int64 (some k))) ∧
      decode (.scalar (.int .int64 (some k))) departureColumn =
        .ok (.timestamp (some back)) ∧
      eveSample.toNanos < back.toNanos ∧ eveSample.date ≠ back.date := by
  refine ⟨⟨0, by decide, by decide⟩, .atMidnight ⟨0, by decide, by decide⟩, rfl, rfl, ?_, ?_⟩
  · decide
  · decide

end EntitySql
