import EntitySql.Proofs.Calendar.Timeline
import EntitySql.Proofs.Condition.Patterns
import EntitySql.Proofs.Sql.EndingDays

/-!
# The end of the day

Where a scope asks for it, a comparison that bounds its left side from above binds 23:59:59.999 of
the day of its value, on the clock of the value. The move changes neither day nor offset and is done
once and for all.

The bound is a millisecond while values are kept to the nanosecond. What lies in the last
millisecond of its day, after its start, is moved back, and the comparison loses rows that it
accepted before; all other values are moved forward or stay (`shiftEndOfDay_bounds`).
-/

namespace EntitySql

set_option autoImplicit false

open Outcome

/-! ## The moved value -/

namespace Value

/-- The moment a date or a moment shows on its own clock; a date starts its day. -/
def wall? : Value → Option Moment
  | date (some d) => some (.atMidnight d)
  | timestamp (some m) => some m
  | zoned (some z) => some z.wall
  | _ => none

/-- How far the clock of a value is ahead of UTC, in seconds. -/
def offset : Value → Int
  | zoned (some z) => z.offset
  | _ => 0

/-- What shows a moment is a date, a moment, or a moment with a zone. -/
theorem wall?_cases {v : Value} {m : Moment} (wall : v.wall? = some m) :
    (∃ d, v = date (some d) ∧ m = .atMidnight d) ∨ v = timestamp (some m) ∨
      ∃ z, v = zoned (some z) ∧ m = z.wall := by
  cases v with
  | date content =>
    cases content with
    | none => cases wall
    | some d => exact .inl ⟨d, rfl, (Option.some.inj wall).symm⟩
  | timestamp content =>
    cases content with
    | none => cases wall
    | some t => exact .inr (.inl (congrArg (timestamp ∘ some) (Option.some.inj wall)))
  | zoned content =>
    cases content with
    | none => cases wall
    | some z => exact .inr (.inr ⟨z, rfl, (Option.some.inj wall).symm⟩)
  | _ => cases wall

/-- It is at the place of that moment, seen from its offset. -/
theorem nanos?_of_wall? {v : Value} {m : Moment} (wall : v.wall? = some m) :
    v.nanos? = some (m.toNanos - v.offset * nanosPerSecond) := by
  rcases wall?_cases wall with ⟨d, rfl, rfl⟩ | rfl | ⟨z, rfl, rfl⟩
  · exact congrArg some (by simp [offset])
  · exact congrArg some (by simp [offset])
  · rfl

theorem isNull_of_wall? {v : Value} {m : Moment} (wall : v.wall? = some m) : v.isNull = false :=
  (isTemporal_of_nanos? (nanos?_of_wall? wall)).2

end Value

/-- The moved value shows the last millisecond of the same day, on the same clock. -/
theorem wall?_shiftEndOfDay {v : Value} {m : Moment} (wall : v.wall? = some m) :
    (shiftEndOfDay v).wall? = some ⟨m.date, .lastMilli⟩ ∧
      (shiftEndOfDay v).offset = v.offset := by
  rcases Value.wall?_cases wall with ⟨d, rfl, rfl⟩ | rfl | ⟨z, rfl, rfl⟩
  · exact ⟨rfl, rfl⟩
  · exact ⟨rfl, rfl⟩
  · exact ⟨rfl, rfl⟩

/-- A value without a moment stays. -/
theorem shiftEndOfDay_of_wall?_none {v : Value} (wall : v.wall? = none) : shiftEndOfDay v = v := by
  cases v with
  | date content => cases content <;> first | rfl | cases wall
  | timestamp content => cases content <;> first | rfl | cases wall
  | zoned content => cases content <;> first | rfl | cases wall
  | _ => rfl

/-- Moving a moved value changes nothing. -/
theorem shiftEndOfDay_shiftEndOfDay (v : Value) :
    shiftEndOfDay (shiftEndOfDay v) = shiftEndOfDay v := by
  cases wall : v.wall? with
  | none => rw [shiftEndOfDay_of_wall?_none wall, shiftEndOfDay_of_wall?_none wall]
  | some m =>
    rcases Value.wall?_cases wall with ⟨d, rfl, rfl⟩ | rfl | ⟨z, rfl, rfl⟩
    · rfl
    · rfl
    · rfl

/-- The moved value differs from the value as the times of the day do. -/
theorem nanos?_shiftEndOfDay {v : Value} {m : Moment} (wall : v.wall? = some m) :
    ∃ n, v.nanos? = some n ∧
      (shiftEndOfDay v).nanos? = some (n - m.time.nanos + TimeOfDay.lastMilli.nanos) := by
  obtain ⟨moved, offset⟩ := wall?_shiftEndOfDay wall
  refine ⟨_, Value.nanos?_of_wall? wall, ?_⟩
  rw [Value.nanos?_of_wall? moved, offset]
  simp only [Moment.toNanos]
  congr 1
  omega

/-! ## The comparison -/

namespace Comparison

/-- The comparison holds between two places on the line of time. -/
def Holds : Comparison → Int → Int → Prop
  | equal, row, bound => row = bound
  | notEqual, row, bound => row ≠ bound
  | less, row, bound => row < bound
  | lessEqual, row, bound => row ≤ bound
  | more, row, bound => bound < row
  | moreEqual, row, bound => bound ≤ row

/-- A row whose column lies at a place is accepted by the comparison with a parameter. -/
def Accepts (k : Comparison) (row : Int) (p : Pair) : Prop :=
  ∃ bound, p.value.nanos? = some bound ∧ k.Holds row bound

/-- Upper bounds accept the rows of another one exactly when it is not above them. -/
theorem forall_holds_iff {k : Comparison} (above : k.boundsAbove = true) (n n' : Int) :
    (∀ row, k.Holds row n → k.Holds row n') ↔ n ≤ n' := by
  cases k with
  | less =>
    constructor
    · intro every
      refine Int.not_lt.1 fun below => ?_
      exact Int.lt_irrefl n' (every n' below)
    · intro le row before
      exact Int.lt_of_lt_of_le before le
  | lessEqual =>
    constructor
    · intro every
      exact every n (Int.le_refl n)
    · intro le row before
      exact Int.le_trans before le
  | _ => cases above

end Comparison

/-- A comparison with a value that is not null is written alike in both scopes; with the days of
upper bounds ended the value is the moved one. -/
theorem Predicate.render_compare_endingDays {d : Dialect} {s : Scope} {c : Column} {k : Comparison}
    {v : Value} (above : k.boundsAbove = true) (content : v.isNull = false) (on : Bool) :
    (Predicate.compare c k (.value v)).render d (s.endingDays on) =
      (LeftSide.ofColumn d s c).map fun l =>
        [.text (l.expression ++ " " ++ k.symbol ++ " "),
          l.parameter (if on then shiftEndOfDay v else v)] := by
  rw [Predicate.render, LeftSide.ofColumn_endingDays]
  cases LeftSide.ofColumn d s c with
  | error e => rfl
  | ok l =>
    show compareTest d (s.endingDays on) l k (.value v) = _
    rw [compareTest, content, above, if_neg Bool.false_ne_true, Bool.and_true]
    rfl

/-- **The end of the day of a value.** The moved value is at 23:59:59.999 of the day of the value,
on the same clock, and moving it again changes nothing. It is before the value, by less than a
millisecond, exactly when the time of day is after 23:59:59.999. Upper bounds are written alike with
the value and with the moved one, and the second accepts all rows that the first does exactly when
the value is not after it. -/
theorem shiftEndOfDay_bounds {v : Value} {m : Moment} (wall : v.wall? = some m) :
    ∃ n n', v.nanos? = some n ∧ (shiftEndOfDay v).nanos? = some n' ∧
      (shiftEndOfDay v).wall? = some ⟨m.date, .lastMilli⟩ ∧
      (shiftEndOfDay v).offset = v.offset ∧
      shiftEndOfDay (shiftEndOfDay v) = shiftEndOfDay v ∧
      (n ≤ n' ↔ m.time.nanos ≤ TimeOfDay.lastMilli.nanos) ∧ n < n' + nanosPerMilli ∧
      ∀ (d : Dialect) (s : Scope) (c : Column) (k : Comparison), k.boundsAbove = true →
        (∀ e, (Predicate.compare c k (.value v)).render d (s.endingDays true) = .error e ↔
          (Predicate.compare c k (.value v)).render d (s.endingDays false) = .error e) ∧
        ∀ plain ended,
          (Predicate.compare c k (.value v)).render d (s.endingDays false) = .ok plain →
          (Predicate.compare c k (.value v)).render d (s.endingDays true) = .ok ended →
          ended.sql d = plain.sql d ∧ ∃ p q, plain.parameters = [p] ∧ ended.parameters = [q] ∧
            p.value = v ∧ q.value = shiftEndOfDay v ∧
            ((∀ row, k.Accepts row p → k.Accepts row q) ↔
              m.time.nanos ≤ TimeOfDay.lastMilli.nanos) := by
  obtain ⟨n, place, moved⟩ := nanos?_shiftEndOfDay wall
  obtain ⟨shown, offset⟩ := wall?_shiftEndOfDay wall
  have order : n ≤ n - m.time.nanos + TimeOfDay.lastMilli.nanos ↔
      m.time.nanos ≤ TimeOfDay.lastMilli.nanos := by omega
  have near : n < n - m.time.nanos + TimeOfDay.lastMilli.nanos + nanosPerMilli := by
    have close := m.time.lt_day
    simp only [TimeOfDay.lastMilli, nanosPerMilli]
    omega
  refine ⟨n, _, place, moved, shown, offset, shiftEndOfDay_shiftEndOfDay v, order, near, ?_⟩
  intro d s c k above
  have written := Predicate.render_compare_endingDays (d := d) (s := s) (c := c) above
    (Value.isNull_of_wall? wall)
  rw [written, written]
  refine ⟨fun e => by rw [map_eq_error, map_eq_error], ?_⟩
  intro plain ended off on
  obtain ⟨l, left, rfl⟩ := map_eq_ok.1 off
  obtain ⟨l', left', rfl⟩ := map_eq_ok.1 on
  cases left.symm.trans left'
  refine ⟨rfl, _, _, rfl, rfl, Pair.value_forColumn? .., Pair.value_forColumn? .., ?_⟩
  rw [← order, ← Comparison.forall_holds_iff above]
  constructor
  · intro every row accepted
    obtain ⟨bound, lies, holds⟩ := every row ⟨n, by rwa [Pair.value_forColumn?], accepted⟩
    rw [Pair.value_forColumn?, if_pos rfl, moved] at lies
    cases lies
    exact holds
  · rintro every row ⟨bound, lies, holds⟩
    rw [Pair.value_forColumn?, if_neg Bool.false_ne_true, place] at lies
    cases lies
    exact ⟨_, by rwa [Pair.value_forColumn?], every row holds⟩

/-- The start of 15 March 2024, on a clock five hours behind UTC. -/
def appointmentSample : Value :=
  .zoned (some ⟨.atMidnight ⟨19797, by decide, by decide⟩, -18000, by decide, by decide⟩)

theorem shiftEndOfDay_bounds_appointment :
    (shiftEndOfDay appointmentSample).offset = -18000 ∧ ∃ p q,
      (Predicate.compare (.ofName "AT") .less (.value appointmentSample)).render .generic
        (usersScope.endingDays false) = .ok [.text "AT < ", .parameter p] ∧
      (Predicate.compare (.ofName "AT") .less (.value appointmentSample)).render .generic
        (usersScope.endingDays true) = .ok [.text "AT < ", .parameter q] ∧
      q.value = shiftEndOfDay appointmentSample ∧
      ∀ row, Comparison.less.Accepts row p → Comparison.less.Accepts row q := by
  have early : TimeOfDay.midnight.nanos ≤ TimeOfDay.lastMilli.nanos := by decide
  obtain ⟨n, n', -, -, -, offset, -, -, -, comparisons⟩ :=
    shiftEndOfDay_bounds (v := appointmentSample) rfl
  obtain ⟨-, p, q, first, second, -, moved, accepts⟩ :=
    (comparisons .generic usersScope (.ofName "AT") .less rfl).2 _ _ rfl rfl
  cases first
  cases second
  exact ⟨offset, _, _, rfl, rfl, moved, accepts.2 early⟩

/-- Half a millisecond before the end of 15 March 2024. -/
def closingSample : Value :=
  .timestamp (some ⟨⟨19797, by decide, by decide⟩, ⟨86399999500000, by decide, by decide⟩⟩)

/-- The sample is moved back, and a row of its moment is lost. -/
theorem shiftEndOfDay_bounds_closing :
    ∃ n n', closingSample.nanos? = some n ∧ (shiftEndOfDay closingSample).nanos? = some n' ∧
      n' < n ∧ Comparison.lessEqual.Holds n n ∧ ¬ Comparison.lessEqual.Holds n n' := by
  refine ⟨_, _, rfl, rfl, ?_, Int.le_refl _, Int.not_le.2 ?_⟩
  · decide
  · decide

end EntitySql
