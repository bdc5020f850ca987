import EntitySql.Catalog.Converters
import EntitySql.Proofs.Marshal.Milliseconds
import EntitySql.Proofs.Number.Digits
import EntitySql.Proofs.Value.Literals

/-!
# What carries milliseconds

A column of milliseconds takes their number from whatever carries it: an integer of any kind, a
decimal, whose fraction is cut off towards zero, or the digits of a text between blanks. Only the
number counts for a column of dates or times: all carriers are decoded to the value at that number,
and all are refused if the calendar has none (`decode_carried`). A converter sees the carrier
first, so carriers it replaces may differ (`decode_carried_shouted`).

A column of integers under this storage keeps a number as it is when it is bound. When it is decoded
the number has to be a moment all the same, and the moment becomes an integer again only for the
kind with a sign and 64 bits (`returns_integer_iff`).
-/

namespace EntitySql

set_option autoImplicit false

variable {c : ColumnDef} {v : Value} {m : FixedInt .int64} {n : Int}

/-! ## Carriers -/

/-- The text is an integer in digits with blanks around it. -/
def Text.Writes (s : String) (n : Int) : Prop :=
  ∃ before digits after, s.toList = before ++ (digits ++ after) ∧
    (∀ c ∈ before, isBlank c = true) ∧ (∀ c ∈ after, isBlank c = true) ∧ Numeral digits n

/-- The value carries the number. A decimal carries what is left of it without its fraction. -/
inductive Value.Carries : Value → Int → Prop
  | int {k : IntKind} (n : FixedInt k) : Carries (.int k (some n)) n.val
  | decimal (d : Decimal) (precision scale : Nat) :
      Carries (.decimal (some d) precision scale) (d.signedMantissa.tdiv (tenTo d.scale))
  | varchar {s : String} {n : Int} (text : Text.Writes s n) : Carries (.varchar (some s)) n
  | unknown {s : String} {n : Int} (text : Text.Writes s n) : Carries (.unknown (some s)) n

theorem Value.Carries.isNull (carried : v.Carries n) : v.isNull = false := by
  cases carried <;> rfl

/-- Cutting off the fraction is division towards zero. -/
theorem Decimal.truncated_eq_tdiv (d : Decimal) :
    d.truncated = d.signedMantissa.tdiv (tenTo d.scale) := by
  rw [truncated, signedMantissa]
  cases d.negative with
  | true =>
    show -((d.mantissa / tenTo d.scale : Nat) : Int) = (-(d.mantissa : Int)).tdiv (tenTo d.scale)
    rw [Int.neg_tdiv]
    rfl
  | false => rfl

theorem Numeral.trimmed {cs : List Char} (written : Numeral cs n) : Text.Trimmed cs := by
  have digit : ∀ {ds : List Char}, AreDigits ds → ∀ c ∈ ds, Text.isBlank c = false :=
    fun digits c member => Text.isBlank_of_isAlphanum (by simp [Char.isAlphanum, digits c member])
  cases written with
  | unsigned digits nonempty => exact .of_forall nonempty (digit digits)
  | positive digits _ =>
    exact .of_forall (List.cons_ne_nil _ _) (List.forall_mem_cons.2 ⟨rfl, digit digits⟩)
  | negative digits _ =>
    exact .of_forall (List.cons_ne_nil _ _) (List.forall_mem_cons.2 ⟨rfl, digit digits⟩)

/-- The number of a text is read without the blanks. -/
theorem parse_trim {s : String} (text : Text.Writes s n)
    (inRange : FixedInt.ofInt? .int64 n = some m) :
    (Primitive.int .int64).parse (Text.trim s) = .ok m := by
  obtain ⟨before, digits, after, chars, first, last, written⟩ := text
  have whole : (Primitive.int .int64).readWhole digits = some m := by
    have read := FixedInt.read?_of_numeral written inRange
    simp only [Primitive.readWhole, Primitive.scan, read]
  rw [Text.trim_eq chars first last written.trimmed, Primitive.parse, String.toList_ofList, whole]
  rfl

/-- **Every carrier is read as its number,** if that has 64 bits. -/
theorem millisOfValue_of_carries (carried : v.Carries n)
    (inRange : FixedInt.ofInt? .int64 n = some m) : millisOfValue v = .ok (some m.val) := by
  unfold millisOfValue
  cases carried with
  | int k =>
    show (Primitive.orFail _ (FixedInt.ofInt? .int64 k.val)).map _ = _
    rw [inRange]
    rfl
  | decimal d precision scale =>
    dsimp only
    rw [d.truncated_eq_tdiv, inRange]
  | varchar text =>
    dsimp only
    rw [parse_trim text inRange]
  | unknown text =>
    dsimp only
    rw [parse_trim text inRange]

/-! ## Dates and times -/

/-- The value of a kind of dates or times at a number of milliseconds since 1970, if the calendar
has it. A time of day is what is left without whole days. -/
def Value.ofMillis? (kind : Value) (n : Int) : Option Value :=
  match kind with
  | date _ => (Moment.ofNanos? (n * nanosPerMilli)).map fun m => date (some m.date)
  | time _ => some (time (some (.ofNanosMod (n * nanosPerMilli))))
  | timestamp _ => (Moment.ofNanos? (n * nanosPerMilli)).map fun m => timestamp (some m)
  | zoned _ => (Moment.ofNanos? (n * nanosPerMilli)).map fun m => zoned (some (.ofUtc m))
  | _ => none

/-- Whole days of milliseconds do not change the time of day. -/
theorem ofNanosMod_emod (n : Int) :
    TimeOfDay.ofNanosMod (n % millisPerDay * nanosPerMilli) =
      TimeOfDay.ofNanosMod (n * nanosPerMilli) := by
  apply TimeOfDay.ext
  simp only [TimeOfDay.ofNanosMod, millisPerDay, nanosPerMilli, nanosPerDay]
  omega

/-- A number of milliseconds is decoded to the value at it. -/
theorem decodeLongDate_of_millis {kind : Value} (temporal : kind.isTemporal = true)
    (number : millisOfValue v = .ok (some n)) :
    decodeLongDate v kind =
      Primitive.orFail (.ofValue v Primitive.zoned.name) (kind.ofMillis? n) := by
  have utc : ∀ x : Moment, Primitive.utc (.ofUtc x) = .ok x := fun x => by
    rw [Primitive.utc, ZonedMoment.utc?_ofUtc]
    rfl
  rw [decodeLongDate, number]
  simp only [Bind.bind, Except.bind]
  cases kind with
  | time content =>
    show Except.ok _ = Except.ok _
    rw [ofNanosMod_emod]
  | date content =>
    rw [Value.ofMillis?]
    cases Moment.ofNanos? (n * nanosPerMilli) with
    | none => rfl
    | some x =>
      show ((Primitive.utc _).map Moment.date).map Primitive.date.toValue = _
      rw [utc]
      rfl
  | timestamp content =>
    rw [Value.ofMillis?]
    cases Moment.ofNanos? (n * nanosPerMilli) with
    | none => rfl
    | some x =>
      show (Primitive.utc _).map Primitive.moment.toValue = _
      rw [utc]
      rfl
  | zoned content =>
    rw [Value.ofMillis?]
    cases Moment.ofNanos? (n * nanosPerMilli) <;> rfl
  | _ => cases temporal

/-- **Only the number of milliseconds counts, not what carries it.** A column of dates or times
under the storage for milliseconds decodes every carrier of a number that its converter leaves alone
to the value at the number, and refuses every one if the calendar has no such value. So all carriers
of a number are decoded alike, and for a time of day all carriers of numbers that differ by whole
days. -/
theorem decode_carried (long : c.storage = .longDate) (temporal : c.prototype.isTemporal = true)
    (carried : v.Carries m.val) (passed : converted v c = .ok none) :
    decode (.scalar v) c =
        Primitive.orFail (.ofValue v Primitive.zoned.name) (c.prototype.ofMillis? m.val) ∧
      (∀ w : Value, w.Carries m.val → converted w c = .ok none →
        (decode (.scalar w) c).toOption = (decode (.scalar v) c).toOption) ∧
      ∀ content, c.prototype = .time content →
        ∀ (k : FixedInt .int64) (w : Value), w.Carries k.val → converted w c = .ok none →
          k.val % millisPerDay = m.val % millisPerDay →
            decode (.scalar w) c = decode (.scalar v) c := by
  have decoded : ∀ {k : FixedInt .int64} {w : Value}, w.Carries k.val →
      converted w c = .ok none → decode (.scalar w) c =
        Primitive.orFail (.ofValue w Primitive.zoned.name) (c.prototype.ofMillis? k.val) := by
    intro k w carried passed
    rw [decode_of_passed passed rfl carried.isNull, if_pos long]
    exact decodeLongDate_of_millis temporal (millisOfValue_of_carries carried k.ofInt?_val)
  refine ⟨decoded carried passed, fun w carried' passed' => ?_, ?_⟩
  · rw [decoded carried passed, decoded carried' passed']
    cases c.prototype.ofMillis? m.val <;> rfl
  · intro content kind k w carried' passed' sameTime
    rw [decoded carried passed, decoded carried' passed', kind]
    show Except.ok (Value.time (some _)) = Except.ok (Value.time (some _))
    rw [← ofNanosMod_emod, sameTime, ofNanosMod_emod]

/-- One and a half milliseconds before 1970, with zeros at the end, to be cut to one. -/
def halfMilliSample : Decimal := ⟨true, 15000, 4, by decide, by decide⟩

theorem decode_carried_halfMilli :
    (Value.decimal (some halfMilliSample) 0 4).Carries (-1) ∧
      (Value.unknown (some " -01\n")).Carries (-1) ∧
      (decode (.scalar (.unknown (some " -01\n"))) departureColumn).toOption =
        (decode (.scalar (.decimal (some halfMilliSample) 0 4)) departureColumn).toOption := by
  have decimal : (Value.decimal (some halfMilliSample) 0 4).Carries (-1) := .decimal _ 0 4
  have digits : Numeral ('-' :: ['0', '1']) (-1) := .negative (List.all_eq_true.1 rfl) nofun
  have text : (Value.unknown (some " -01\n")).Carries (-1) :=
    .unknown ⟨[' '], ['-', '0', '1'], ['\n'], rfl, List.all_eq_true.1 rfl,
      List.all_eq_true.1 rfl, digits⟩
  exact ⟨decimal, text, (decode_carried (c := departureColumn) (m := ⟨-1, by decide, by decide⟩)
    rfl rfl decimal rfl).2.1 _ text rfl⟩

/-- A column of moments kept as milliseconds, whose converter writes texts in upper case. -/
def shoutedColumn : ColumnDef := { departureColumn with converter := some Converters.upper }

/-- Under a converter for texts, five milliseconds are a moment as a number, but stay text as
text. -/
theorem decode_carried_shouted :
    shoutedColumn.storage = .longDate ∧ shoutedColumn.prototype.isTemporal = true ∧
      (Value.int .int64 (some ⟨5, by decide, by decide⟩)).Carries 5 ∧
      (Value.varchar (some "5")).Carries 5 ∧
      decode (.scalar (.int .int64 (some ⟨5, by decide, by decide⟩))) shoutedColumn =
        .ok (.timestamp (some ⟨⟨0, by decide, by decide⟩, ⟨5000000, by decide, by decide⟩⟩)) ∧
      decode (.scalar (.varchar (some "5"))) shoutedColumn = .ok (.varchar (some "5")) := by
  have digits : Numeral ['5'] 5 := .unsigned (List.all_eq_true.1 rfl) nofun
  exact ⟨rfl, rfl, .int _, .varchar ⟨[], ['5'], [], rfl, nofun, nofun, digits⟩, rfl, rfl⟩

/-! ## Integers -/

theorem isSome_ofDay?_iff (day : Int) :
    (Date.ofDay? day).isSome = true ↔ -4371587 ≤ day ∧ day ≤ 2932896 := by
  unfold Date.ofDay?
  split
  · rename_i inYears
    exact ⟨fun _ => inYears, fun _ => rfl⟩
  · rename_i outside
    exact ⟨fun absent => absurd absent Bool.false_ne_true, fun inYears => absurd inYears outside⟩

/-- The milliseconds of the calendar are those from its first day to its last one. -/
theorem exists_ofNanos?_iff (n : Int) :
    (∃ x, Moment.ofNanos? (n * nanosPerMilli) = some x) ↔
      -4371587 * millisPerDay ≤ n ∧ n < 2932897 * millisPerDay := by
  rw [← Option.isSome_iff_exists, Moment.ofNanos?, Option.isSome_map, isSome_ofDay?_iff]
  simp only [nanosPerMilli, nanosPerDay, millisPerDay]
  omega

/-- Milliseconds are an integer again for one kind only, and if they are a moment. -/
theorem decodeLongDate_int_eq_ok {k : IntKind} {content : Option (FixedInt k)} {n : FixedInt k}
    {w : Value} : decodeLongDate (.int k (some n)) (.int k content) = .ok w ↔
      w = .int k (some n) ∧ k = .int64 ∧ ∃ x, Moment.ofNanos? (n.val * nanosPerMilli) = some x := by
  rw [decodeLongDate_eq_ok_iff (by rfl) (by nofun) (by nofun)]
  constructor
  · rintro (⟨nothing, _⟩ | ⟨number, _, read, ⟨⟩, inRange, rfl⟩)
    · obtain ⟨_, _, found⟩ := Outcome.map_eq_ok.1 nothing
      cases found
    · rw [millisOfValue_int] at read
      cases read
      rw [n.clamp_val]
      exact ⟨rfl, rfl, inRange⟩
  · rintro ⟨rfl, rfl, inRange⟩
    exact .inr ⟨_, _, millisOfValue_int n, rfl, inRange, by rw [n.clamp_val]⟩

/-- **Integers come back from a column of milliseconds for one kind only.** Binding keeps an integer
of the kind of its column as it is. What is decoded is that integer again if the kind has a sign and
64 bits and the number is a moment of the calendar, in milliseconds; otherwise decoding fails. -/
theorem returns_integer_iff (dialect : Dialect) {k : IntKind} (n : FixedInt k)
    (free : c.converter = none) (long : c.storage = .longDate)
    (same : c.prototype.sameType (.int k (some n)) = true) :
    bind dialect (.forColumn (.int k (some n)) c) = .ok (.scalar (.int k (some n))) ∧
      ∀ w, decode (.scalar (.int k (some n))) c = .ok w ↔
        w = .int k (some n) ∧ k = .int64 ∧
          -4371587 * millisPerDay ≤ n.val ∧ n.val < 2932897 * millisPerDay := by
  obtain ⟨content, kind⟩ : ∃ content, c.prototype = .int k content := by
    cases kind : c.prototype with
    | int l content =>
      rw [kind] at same
      cases eq_of_beq same
      exact ⟨content, rfl⟩
    | _ =>
      rw [kind] at same
      cases same
  have undated : (Pair.forColumn (.int k (some n)) c).Undated := undated_of_sameType rfl rfl same
  have small : (Pair.forColumn (.int k (some n)) c).storage.isLargeObject = false :=
    congrArg Storage.isLargeObject long
  refine ⟨bind_kept undated small nofun nofun, fun w => ?_⟩
  rw [decode_scalar free rfl, if_pos long, kind, decodeLongDate_int_eq_ok, exists_ofNanos?_iff]

/-- A column of a number of milliseconds. -/
def elapsedColumn (k : IntKind) : ColumnDef :=
  { departureColumn with field := "elapsed", name := "ELAPSED", prototype := .int k none }

theorem returns_integer_iff_elapsed :
    decode (.scalar (.int .int64 (some ⟨1710498600000, by decide, by decide⟩)))
        (elapsedColumn .int64) = .ok (.int .int64 (some ⟨1710498600000, by decide, by decide⟩)) :=
  ((returns_integer_iff .generic (c := elapsedColumn .int64) ⟨1710498600000, by decide, by decide⟩
    rfl rfl rfl).2 _).2 ⟨rfl, rfl, by decide, by decide⟩

/-- The first millisecond after the calendar is bound to a column of integers and cannot be decoded;
neither can five milliseconds of a narrower kind. -/
theorem returns_integer_iff_afterCalendar :
    bind .generic (.forColumn (.int .int64 (some ⟨253402300800000, by decide, by decide⟩))
        (elapsedColumn .int64)) =
        .ok (.scalar (.int .int64 (some ⟨253402300800000, by decide, by decide⟩))) ∧
      (∃ e, decode (.scalar (.int .int64 (some ⟨253402300800000, by decide, by decide⟩)))
        (elapsedColumn .int64) = .error e) ∧
      bind .generic (.forColumn (.int .int32 (some ⟨5, by decide, by decide⟩))
        (elapsedColumn .int32)) = .ok (.scalar (.int .int32 (some ⟨5, by decide, by decide⟩))) ∧
      ∃ e, decode (.scalar (.int .int32 (some ⟨5, by decide, by decide⟩)))
        (elapsedColumn .int32) = .error e :=
  ⟨rfl, ⟨_, rfl⟩, rfl, _, rfl⟩

end EntitySql
