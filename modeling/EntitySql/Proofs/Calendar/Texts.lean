import EntitySql.Calendar.Printer
import EntitySql.Calendar.Reading
import EntitySql.Proofs.Calendar.Civil
import EntitySql.Proofs.Number.Digits

/-!
# Dates and times are read back from their texts

A date written with a year of four characters, a time of day, and a moment made of both are read as
what was written. Each piece is read at the start of a text, with anything after it; a whole text
has nothing after it.

**Years.** The four characters of a year count its sign, so a year before year 0 has three digits,
or four from year -1000 back. A reader takes four digits after a sign: the years -999 to -1 are
written as no reader takes them (`readCivil_short`), all others are read back.

**Fractions.** Zeros at the end of a fraction count nothing, so that it is read as the same number
without them (`readFraction_fractionText`).
-/

namespace EntitySql

set_option autoImplicit false

/-! ## Dates -/

namespace Date

/-- The year is written with three digits and its sign. -/
def HasShortYear (d : Date) : Prop := -1000 < d.civil.year ∧ d.civil.year < 0

instance (d : Date) : Decidable d.HasShortYear := by
  unfold HasShortYear
  infer_instance

theorem year_range (d : Date) : -9999 ≤ d.civil.year ∧ d.civil.year ≤ 9999 :=
  CivilDate.year_range d.min_le d.le_max

end Date

theorem readSign_of_areDigits {ds : List Char} (digits : AreDigits ds) (nonempty : ds ≠ [])
    (rest : List Char) : readSign (ds ++ rest) = none := by
  cases ds with
  | nil => exact absurd rfl nonempty
  | cons d ds =>
    have digit : d.isDigit = true := digits d List.mem_cons_self
    rw [List.cons_append, readSign.eq_def]
    split
    · rename_i same
      cases same
      cases digit
    · rename_i same
      cases same
      cases digit
    · rfl

/-- A date without a sign is read by both readers of dates. -/
theorem readCivil_of_unsigned {cs : List Char} {found : CivilDate × List Char}
    (unsigned : readUnsignedCivil cs = some found) : readCivil cs = some found := by
  have noSign : readSign cs = none := by
    rw [readSign.eq_def]
    split
    · cases unsigned
    · cases unsigned
    · rfl
  rw [← unsigned, readCivil, noSign]
  rfl

namespace CivilDate

/-- Month and day of the month are read back. -/
theorem readMonthDay_monthAndDay {c : CivilDate} (valid : c.isValid = true) (rest : List Char) :
    readMonthDay c.year (c.monthAndDay.toList ++ rest) = some (c, rest) := by
  obtain ⟨_, month, _, day⟩ := month_day_range valid
  have text : c.monthAndDay.toList ++ rest =
      '-' :: ((padded 2 c.month).toList ++ '-' :: ((padded 2 c.day).toList ++ rest)) := by
    simp [monthAndDay, String.toList_append]
  have months := readFixed_padded 2 c.month (by decide)
    (Nat.lt_of_le_of_lt month (by decide))
  have days := readFixed_padded 2 c.day (by decide)
    (Nat.lt_of_le_of_lt day (by decide))
  rw [text]
  simp [readMonthDay, afterChar?, months, days]

/-- **A year with its sign and four digits is read back.** -/
theorem readCivil_compact {c : CivilDate} (valid : c.isValid = true) (low : -9999 ≤ c.year)
    (high : c.year ≤ 9999) (long : ¬(-1000 < c.year ∧ c.year < 0)) (rest : List Char) :
    readCivil ((compactYear c.year ++ c.monthAndDay).toList ++ rest) = some (c, rest) := by
  have monthDay := readMonthDay_monthAndDay valid rest
  have year := readFixed_padded 4 c.year.natAbs (by decide)
    (show c.year.natAbs < 10000 by omega)
  rw [String.toList_append, List.append_assoc]
  by_cases negative : c.year < 0
  · have value : -(c.year.natAbs : Int) = c.year := by omega
    have wide : padded 3 c.year.natAbs = padded 4 c.year.natAbs :=
      padded_eq_succ (by decide) (show 1000 ≤ c.year.natAbs by omega)
    have text : (compactYear c.year).toList = '-' :: (padded 4 c.year.natAbs).toList := by
      rw [compactYear, if_pos negative, String.toList_append, wide]
      rfl
    rw [text]
    generalize c.year.natAbs = n at year value ⊢
    simp [readCivil, readSign, year, value, monthDay]
  · have value : (c.year.natAbs : Int) = c.year := by omega
    have unsigned := readSign_of_areDigits (areDigits_padded 4 c.year.natAbs) (padded_ne_nil _ _)
    rw [compactYear, if_neg negative]
    generalize c.year.natAbs = n at year value unsigned ⊢
    simp [readCivil, unsigned, year, value, monthDay]

/-- **A year of three digits after its sign is not read.** -/
theorem readCivil_short {c : CivilDate} (low : -1000 < c.year) (high : c.year < 0)
    (rest : List Char) :
    readCivil ((compactYear c.year ++ c.monthAndDay).toList ++ rest) = none ∧
      readUnsignedCivil ((compactYear c.year ++ c.monthAndDay).toList ++ rest) = none := by
  have narrow : (padded 3 c.year.natAbs).toList.length < 4 := by
    rw [length_padded (by decide) (show c.year.natAbs < 1000 by omega)]
    decide
  obtain ⟨tail, hyphen⟩ : ∃ tail, c.monthAndDay.toList ++ rest = '-' :: tail :=
    ⟨_, by simp [monthAndDay, String.toList_append]; rfl⟩
  have year := readFixed_short (areDigits_padded 3 c.year.natAbs) (c := '-') rfl tail narrow 0
  have text : (compactYear c.year).toList = '-' :: (padded 3 c.year.natAbs).toList := by
    rw [compactYear, if_pos high, String.toList_append]
    rfl
  rw [String.toList_append, List.append_assoc, text, hyphen]
  exact ⟨by simp [readCivil, readSign, year], rfl⟩

end CivilDate

namespace Date

/-- **The text of a date is read back.** -/
theorem readCivil_toCompactText (d : Date) (long : ¬d.HasShortYear) (rest : List Char) :
    readCivil (d.toCompactText.toList ++ rest) = some (d.civil, rest) :=
  CivilDate.readCivil_compact (CivilDate.isValid_ofDays d.day) d.year_range.1 d.year_range.2 long
    rest

theorem ofText?_toCompactText (d : Date) (long : ¬d.HasShortYear) :
    ofText? d.toCompactText.toList = some d := by
  have read := d.readCivil_toCompactText long []
  rw [List.append_nil] at read
  simp [ofText?, read, exhausted, ofCivil?_civil]

end Date

/-! ## Times of day -/

/-- What the digits of a fraction are worth, the first one a weight and each further one a tenth of
the one before. -/
def fractionValue (weight : Nat) : List Char → Nat
  | [] => 0
  | c :: rest => Decimal.digitValue c * weight + fractionValue (weight / 10) rest

theorem readFractionTail_eq {ds : List Char} (digits : AreDigits ds) (acc weight : Nat) :
    readFractionTail acc weight ds = (acc + fractionValue weight ds, []) := by
  induction ds generalizing acc weight with
  | nil => rfl
  | cons d ds ih =>
    have digit : d.isDigit = true := digits d List.mem_cons_self
    rw [readFractionTail, if_pos digit,
      ih (fun e member => digits e (List.mem_cons_of_mem _ member)), fractionValue, Nat.add_assoc]
    rfl

theorem readFraction_eq {ds : List Char} (digits : AreDigits ds) (nonempty : ds ≠ []) :
    readFraction ds = some (fractionValue 100000000 ds, []) := by
  cases ds with
  | nil => exact absurd rfl nonempty
  | cons d ds =>
    have digit : d.isDigit = true := digits d List.mem_cons_self
    rw [readFraction, if_pos digit,
      readFractionTail_eq (fun e member => digits e (List.mem_cons_of_mem _ member))]
    rfl

theorem fractionValue_replicate_zero (count weight : Nat) :
    fractionValue weight (List.replicate count '0') = 0 := by
  induction count generalizing weight with
  | zero => rfl
  | succ count ih =>
    rw [List.replicate_succ, fractionValue, ih]
    simp [Decimal.digitValue]

/-- Zeros at the end are worth nothing. -/
theorem fractionValue_zeros (ds : List Char) (weight count : Nat) :
    fractionValue weight (ds ++ List.replicate count '0') = fractionValue weight ds := by
  induction ds generalizing weight with
  | nil => exact fractionValue_replicate_zero count weight
  | cons d ds ih => rw [List.cons_append, fractionValue, ih, fractionValue]

/-- Digits of a whole width are worth the number they write. -/
theorem fractionValue_eq (ds : List Char) (acc : Nat) :
    acc * tenTo ds.length + fractionValue (tenTo ds.length / 10) ds =
      Nat.ofDigitChars 10 ds acc := by
  induction ds generalizing acc with
  | nil => simp [fractionValue]
  | cons d ds ih =>
    rw [← ofDigitChars_step, ← ih, List.length_cons, tenTo_succ, fractionValue,
      Nat.mul_div_cancel _ (by decide), Nat.add_mul, Nat.add_assoc, Nat.mul_comm (tenTo _) 10,
      Nat.mul_assoc]

/-- Taking zeros from the end leaves digits that only zeros are missing from. -/
theorem exists_eq_append_zeros (ds : List Char) :
    ∃ count, ds = (ds.reverse.dropWhile (· == '0')).reverse ++ List.replicate count '0' := by
  have zeros : ∀ c ∈ ds.reverse.takeWhile (· == '0'), c = '0' := fun c member =>
    beq_iff_eq.1 (List.all_eq_true.1 List.all_takeWhile c member)
  refine ⟨(ds.reverse.takeWhile (· == '0')).length, ?_⟩
  rw [← List.reverse_inj, List.reverse_append, List.reverse_reverse, List.reverse_replicate,
    ← List.eq_replicate_of_mem zeros, List.takeWhile_append_dropWhile]

namespace TimeOfDay

variable (t : TimeOfDay)

theorem nano_lt : t.nano < 1000000000 := by
  simp only [nano]
  omega

/-- The digits of a fraction, of which there is at least one, are worth its nanoseconds. -/
theorem fractionText_digits :
    AreDigits t.fractionText.toList ∧ t.fractionText.toList ≠ [] ∧
      fractionValue 100000000 t.fractionText.toList = t.nano := by
  have value : fractionValue 100000000 (padded 9 t.nano).toList = t.nano := by
    have number := fractionValue_eq (padded 9 t.nano).toList 0
    rwa [length_padded (by decide) t.nano_lt, ofDigitChars_padded, Nat.zero_mul,
      Nat.zero_add] at number
  have digits := areDigits_padded 9 t.nano
  obtain ⟨count, split⟩ := exists_eq_append_zeros (padded 9 t.nano).toList
  simp only [fractionText, String.toList_ofList]
  generalize (List.dropWhile (· == '0') (padded 9 t.nano).toList.reverse).reverse = kept at split ⊢
  rw [split] at digits
  rw [split, fractionValue_zeros] at value
  by_cases none : kept = []
  · subst none
    exact ⟨areDigits_replicate 1, List.cons_ne_nil _ _, value⟩
  · rw [if_neg (by simpa using none)]
    exact ⟨fun d member => digits d (List.mem_append_left _ member), none, value⟩

/-- **A fraction is read back without the zeros at its end.** -/
theorem readFraction_fractionText : readFraction t.fractionText.toList = some (t.nano, []) := by
  obtain ⟨digits, nonempty, value⟩ := t.fractionText_digits
  rw [readFraction_eq digits nonempty, value]

/-- **Hour, minute and second are read back.** -/
theorem readClock_clockText (rest : List Char) :
    readClock (t.clockText.toList ++ rest) = some (⟨t.hour, t.minute, t.second, 0⟩, rest) := by
  have low := t.zero_le
  have high := t.lt_day
  have hours := readFixed_padded 2 t.hour (by decide)
    (show t.hour < 100 by simp only [hour]; omega)
  have minutes := readFixed_padded 2 t.minute (by decide)
    (show t.minute < 100 by simp only [minute]; omega)
  have seconds := readFixed_padded 2 t.second (by decide)
    (show t.second < 100 by simp only [second]; omega)
  have text : t.clockText.toList ++ rest = (padded 2 t.hour).toList ++ ':' ::
      ((padded 2 t.minute).toList ++ ':' :: ((padded 2 t.second).toList ++ rest)) := by
    simp [clockText, String.toList_append]
  rw [text]
  simp [readClock, readHourMinute, afterChar?, hours, minutes, seconds]

/-- The clock face of a time shows it. -/
theorem ofClock?_clock : ofClock? t.hour t.minute t.second t.nano = some t := by
  have low := t.zero_le
  have high := t.lt_day
  have inRange : t.hour < 24 ∧ t.minute < 60 ∧ t.second < 60 ∧ t.nano < 1000000000 := by
    simp only [hour, minute, second, nano]
    omega
  have nanos : ((((t.hour * 60 + t.minute) * 60 + t.second) * 1000000000 + t.nano : Nat) : Int) =
      t.nanos := by
    simp only [hour, minute, second, nano]
    omega
  rw [ofClock?, if_pos inRange, nanos, ofNanos?, dif_pos ⟨low, high⟩]

theorem readClock_toText : readClock t.toText.toList =
    some (⟨t.hour, t.minute, t.second, 0⟩, '.' :: t.fractionText.toList) := by
  rw [← t.readClock_clockText]
  simp [toText, String.toList_append]

/-- **The text of a time is read back.** -/
theorem readClockFraction_toText :
    readClockFraction t.toText.toList = some (⟨t.hour, t.minute, t.second, t.nano⟩, []) := by
  simp [readClockFraction, t.readClock_toText, t.readFraction_fractionText]

theorem ofText?_toText : ofText? t.toText.toList = some t := by
  rw [ofText?, t.readClockFraction_toText]
  exact t.ofClock?_clock

end TimeOfDay

/-! ## Moments -/

/-- Date and time with a blank between them, as literals have it. -/
def Moment.toCompactText (m : Moment) : String := m.date.toCompactText ++ " " ++ m.time.toText

namespace Moment

variable (m : Moment)

theorem toList_toCompactText :
    m.toCompactText.toList = m.date.toCompactText.toList ++ ' ' :: m.time.toText.toList := by
  simp [toCompactText, String.toList_append]

/-- **The text of a moment is read back.** -/
theorem ofText?_toCompactText (long : ¬m.date.HasShortYear) :
    ofText? m.toCompactText.toList = some m := by
  have date := m.date.readCivil_toCompactText long (' ' :: m.time.toText.toList)
  have clock := m.time.readClockFraction_toText
  have time : (ClockDigits.mk m.time.hour m.time.minute m.time.second m.time.nano).time? =
      some m.time := m.time.ofClock?_clock
  rw [toList_toCompactText]
  simp [ofText?, ofDateTimeText?, date, clock, time, exhausted, Date.ofCivil?_civil]

/-- **The text of a moment is read as that moment of UTC:** it names no zone, and the spaced form
takes no fraction. -/
theorem ofZonedText?_toCompactText (long : ¬m.date.HasShortYear) :
    ZonedMoment.ofText? m.toCompactText.toList = some (.ofUtc m) := by
  have date := m.date.readCivil_toCompactText long (' ' :: m.time.toText.toList)
  have clock := m.time.readClockFraction_toText
  have noInternet : ZonedMoment.ofInternetText? m.toCompactText.toList = none := by
    rw [toList_toCompactText]
    cases unsigned : readUnsignedCivil (m.date.toCompactText.toList ++ ' ' :: m.time.toText.toList)
    with
    | none => simp [ZonedMoment.ofInternetText?, unsigned]
    | some found =>
      have same : found = (m.date.civil, ' ' :: m.time.toText.toList) :=
        Option.some.inj ((readCivil_of_unsigned unsigned).symm.trans date)
      have noZone : ZonedMoment.readZone [] = none := rfl
      simp [ZonedMoment.ofInternetText?, unsigned, same, ZonedMoment.afterAnyAscii?, clock, noZone]
  have notSpaced : ZonedMoment.ofSpacedText? m.toCompactText.toList = none := by
    have noOffset : ∀ rest, ZonedMoment.readOffset ('.' :: rest) = none := fun _ => rfl
    rw [toList_toCompactText]
    simp [ZonedMoment.ofSpacedText?, date, afterChar?, m.time.readClock_toText, noOffset]
  rw [ZonedMoment.ofText?, noInternet, notSpaced, m.ofText?_toCompactText long]
  rfl

/-- **No reader takes a moment of a short year.** -/
theorem ofText?_short (short : m.date.HasShortYear) :
    ofText? m.toCompactText.toList = none ∧ ZonedMoment.ofText? m.toCompactText.toList = none := by
  have date := CivilDate.readCivil_short short.1 short.2 (' ' :: m.time.toText.toList)
  have unread : readCivil m.toCompactText.toList = none := m.toList_toCompactText ▸ date.1
  have unsigned : readUnsignedCivil m.toCompactText.toList = none := m.toList_toCompactText ▸ date.2
  have moment : ofText? m.toCompactText.toList = none := by
    simp [ofText?, ofDateTimeText?, Date.ofText?, unread]
  refine ⟨moment, ?_⟩
  simp [ZonedMoment.ofText?, ZonedMoment.ofInternetText?, ZonedMoment.ofSpacedText?, unread,
    unsigned, moment]

end Moment

end EntitySql
