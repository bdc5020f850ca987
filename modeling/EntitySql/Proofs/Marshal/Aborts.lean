import EntitySql.Field.Type
import EntitySql.Marshal.Decode
import EntitySql.Proofs.Outcome
import EntitySql.Sql.Literal

/-!
# Conversions that end the work

A conversion reports what it cannot handle: a value or a text that cannot be converted. Two
situations are not reported but end the work.

**A text cut inside a character.** Bytes are read from untyped text by looking at its first two
bytes, also where the second one is in the middle of a character.

**An instant outside the calendar.** A zoned moment near the first or the last year may have no
moment of UTC. It is moved there to become a date or a moment, and to be written as a literal.

**Faults.** For each operation, `Faults` tells exactly where it ends the work; everywhere else it
yields a result or reports a failure. Faults of steps in sequence, and of a step for each member of
a list, follow from those of the steps (`Faults.bind`, `Faults.mapM`).
-/

namespace EntitySql

set_option autoImplicit false

/-- The failure is reported as a conversion or a decoding that is not possible. -/
def Error.IsReported : Error → Prop
  | conversion _ _ => True
  | decode _ _ => True
  | _ => False

theorem Error.isReported_ofValue (v : Value) (target : String) : (ofValue v target).IsReported :=
  trivial

theorem Error.isReported_ofText (s target : String) : (ofText s target).IsReported := trivial

/-- The failures of an outcome: it ends the work exactly as told, and every other failure is
reported. -/
structure Faults {α : Type} (x : Except Error α) (ends : Abort → Prop) : Prop where
  reported : ∀ e, x = .error e → e.IsReported ∨ ∃ cause, e = .abort cause
  aborts : ∀ cause, x = .error (.abort cause) ↔ ends cause

/-- Every failure is reported. -/
abbrev Sound {α : Type} (x : Except Error α) : Prop := Faults x fun _ => False

namespace Faults

variable {α β : Type} {x : Except Error α} {ends others : Abort → Prop}

theorem congr (h : Faults x ends) (same : ∀ cause, ends cause ↔ others cause) :
    Faults x others :=
  ⟨h.reported, fun cause => (h.aborts cause).trans (same cause)⟩

theorem ok (a : α) : Sound (.ok a : Except Error α) := ⟨nofun, fun _ => ⟨nofun, nofun⟩⟩

theorem refused {e : Error} (reported : e.IsReported) : Sound (.error e : Except Error α) where
  reported := by
    rintro _ ⟨⟩
    exact .inl reported
  aborts cause := by
    refine ⟨fun same => ?_, nofun⟩
    cases same
    exact reported

theorem ofValue (v : Value) (target : String) :
    Sound (.error (.ofValue v target) : Except Error α) :=
  refused (Error.isReported_ofValue v target)

theorem ofText (s target : String) : Sound (.error (.ofText s target) : Except Error α) :=
  refused (Error.isReported_ofText s target)

theorem decode (column : String) (fault : DecodeFault) :
    Sound (.error (.decode column fault) : Except Error α) := refused trivial

theorem aborted (cause : Abort) :
    Faults (.error (.abort cause) : Except Error α) fun c => c = cause where
  reported := by
    rintro _ ⟨⟩
    exact .inr ⟨cause, rfl⟩
  aborts c := by
    constructor
    · rintro ⟨⟩
      rfl
    · rintro rfl
      rfl

theorem orFail {e : Error} (reported : e.IsReported) (found : Option α) :
    Sound (Primitive.orFail e found) := by
  cases found with
  | none => exact refused reported
  | some a => exact ok a

/-- A result that is changed afterwards fails as before. -/
theorem map (h : Faults x ends) (f : α → β) : Faults (x.map f) ends where
  reported e failed := h.reported e (Outcome.map_eq_error.1 failed)
  aborts cause := Outcome.map_eq_error.trans (h.aborts cause)

/-- Of two steps the first one fails, or the second one on its result. -/
theorem bind {f : α → Except Error β} {next : α → Abort → Prop} (first : Faults x ends)
    (second : ∀ a, x = .ok a → Faults (f a) (next a)) :
    Faults (x >>= f) fun cause => ends cause ∨ ∃ a, x = .ok a ∧ next a cause where
  reported e failed := by
    rcases Outcome.bind_eq_error.1 failed with failed | ⟨a, done, failed⟩
    · exact first.reported e failed
    · exact (second a done).reported e failed
  aborts cause := by
    rw [Outcome.bind_eq_error, first.aborts]
    refine or_congr Iff.rfl (exists_congr fun a => and_congr_right fun done => ?_)
    exact (second a done).aborts cause

/-- The first member of a list that fails is the one of a kind. -/
def InFirst (f : α → Except Error β) (ends : α → Abort → Prop) (as : List α) (cause : Abort) :
    Prop :=
  ∃ before a after, as = before ++ a :: after ∧ (∀ b ∈ before, ∃ c, f b = .ok c) ∧ ends a cause

/-- Steps over a list fail at the first member that does. -/
theorem mapM {f : α → Except Error β} {next : α → Abort → Prop} {as : List α}
    (each : ∀ a ∈ as, Faults (f a) (next a)) : Faults (as.mapM f) (InFirst f next as) := by
  induction as with
  | nil =>
    refine (ok []).congr fun cause => ⟨False.elim, ?_⟩
    rintro ⟨before, a, after, same, _⟩
    simp at same
  | cons a as ih =>
    rw [List.mapM_cons]
    have first := each a List.mem_cons_self
    have rest := ih fun b member => each b (List.mem_cons_of_mem a member)
    refine (first.bind fun c _ => rest.bind fun cs _ => ok (c :: cs)).congr fun cause => ?_
    constructor
    · rintro (broken | ⟨c, done, (⟨before, b, after, rfl, fine, broken⟩ | ⟨_, _, ⟨⟩⟩)⟩)
      · exact ⟨[], a, as, rfl, nofun, broken⟩
      · refine ⟨a :: before, b, after, rfl, fun d member => ?_, broken⟩
        rcases List.mem_cons.1 member with rfl | member
        · exact ⟨c, done⟩
        · exact fine d member
    · rintro ⟨before, b, after, same, fine, broken⟩
      cases before with
      | nil =>
        cases same
        exact .inl broken
      | cons d before =>
        cases same
        obtain ⟨c, done⟩ := fine a List.mem_cons_self
        exact .inr ⟨c, done, .inl ⟨before, b, after, rfl,
          fun e member => fine e (List.mem_cons_of_mem a member), broken⟩⟩

/-- Work that never ends all the same does so exactly where it is guarded against a cut. -/
theorem unlessCut {cut : Bool} (h : Faults x fun _ => False) :
    Faults (if cut then .error (.abort .cutCharacter) else x) fun cause =>
      cause = .cutCharacter ∧ cut = true := by
  cases cut with
  | true => exact (aborted _).congr fun cause => ⟨fun same => ⟨same, rfl⟩, And.left⟩
  | false => exact h.congr fun cause => ⟨False.elim, nofun⟩

end Faults

/-! ## Reading text -/

namespace Primitive

/-- Reading a whole text ends the work where bytes are cut inside a character. -/
theorem faults_parse (p : Primitive) (s : String) :
    Faults (p.parse s) fun cause => cause = .cutCharacter ∧ p.cuts s.toList = true := by
  refine Faults.unlessCut ?_
  split
  · exact Faults.ok _
  · exact Faults.ofText _ _

theorem faults_extract (p : Primitive) (s : String) :
    Faults (p.extract s) fun cause => cause = .cutCharacter ∧ p.cuts s.toList = true := by
  refine Faults.unlessCut ?_
  split
  · exact Faults.ok _
  · exact Faults.ofText _ _

theorem cuts_eq_true {p : Primitive} {cs : List Char} :
    p.cuts cs = true ↔ p = .bytes ∧ Text.cutsCharacter 2 cs = true := by
  cases p <;> simp [cuts]

theorem sound_parse {p : Primitive} (notBytes : p ≠ .bytes) (s : String) : Sound (p.parse s) :=
  (p.faults_parse s).congr fun _ => ⟨fun h => notBytes (cuts_eq_true.1 h.2).1, nofun⟩

/-! ## Converting values -/

/-- Conversion of the value to the type ends the work: bytes cut a character, or a date or a moment
is not in the calendar of UTC. -/
inductive Ends : Primitive → Value → Abort → Prop
  | cut (s : String) (inside : Text.cutsCharacter 2 s.toList = true) :
    Ends .bytes (.unknown (some s)) .cutCharacter
  | date (z : ZonedMoment) (outside : z.utc? = none) :
    Ends .date (.zoned (some z)) .instantOutOfRange
  | moment (z : ZonedMoment) (outside : z.utc? = none) :
    Ends .moment (.zoned (some z)) .instantOutOfRange

theorem faults_utc (z : ZonedMoment) :
    Faults (utc z) fun cause => cause = .instantOutOfRange ∧ z.utc? = none := by
  rw [utc]
  cases z.utc? with
  | none => exact (Faults.aborted _).congr fun _ => ⟨fun same => ⟨same, rfl⟩, And.left⟩
  | some m => exact (Faults.ok m).congr fun _ => ⟨False.elim, fun h => nomatch h.2⟩

/-- All else is reported: other types, and what does not have to be moved to UTC. -/
theorem sound_ofValue {p : Primitive} {v : Value} (notBytes : p ≠ .bytes)
    (inPlace : ∀ z, v = .zoned (some z) → p ≠ .date ∧ p ≠ .moment) : Sound (p.ofValue v) := by
  have parsed := sound_parse notBytes
  cases p with
  | bytes => exact absurd rfl notBytes
  | _ =>
    simp only [ofValue, booleanOfValue, intOfValue, floatOfValue, charOfValue, textOfValue,
      decimalOfValue, dateOfValue, timeOfValue, momentOfValue, zonedOfValue, uuidOfValue]
    split <;> first
      | with_reducible exact .ok _
      | with_reducible exact .ofValue _ _
      | with_reducible exact .orFail (Error.isReported_ofValue _ _) _
      | exact absurd rfl (inPlace _ rfl).1
      | exact absurd rfl (inPlace _ rfl).2
      | exact parsed _

theorem faults_bytesOfValue (v : Value) : Faults (bytesOfValue v) (bytes.Ends v) := by
  unfold bytesOfValue
  split
  · exact (Faults.ok _).congr fun _ => ⟨False.elim, by rintro ⟨⟩⟩
  · exact (Faults.ok _).congr fun _ => ⟨False.elim, by rintro ⟨⟩⟩
  · rename_i s
    refine (faults_parse .bytes s).congr fun cause => ⟨?_, ?_⟩
    · rintro ⟨rfl, cut⟩
      exact .cut s cut
    · rintro ⟨⟩
      exact ⟨rfl, ‹_›⟩
  · rename_i other
    refine (Faults.ofValue _ _).congr fun cause => ⟨False.elim, ?_⟩
    rintro ⟨⟩
    exact other _ rfl

/-- **Conversion to a primitive type ends the work exactly where it cuts a character or leaves the
calendar.** -/
theorem faults_ofValue (p : Primitive) (v : Value) : Faults (p.ofValue v) (p.Ends v) := by
  by_cases isBytes : p = .bytes
  · subst isBytes
    exact faults_bytesOfValue v
  by_cases moved : ∃ z, v = .zoned (some z) ∧ (p = .date ∨ p = .moment)
  · obtain ⟨z, rfl, rfl | rfl⟩ := moved
    · refine ((faults_utc z).map Moment.date).congr fun cause => ⟨?_, ?_⟩
      · rintro ⟨rfl, outside⟩
        exact .date z outside
      · rintro ⟨⟩
        exact ⟨rfl, ‹_›⟩
    · refine (faults_utc z).congr fun cause => ⟨?_, ?_⟩
      · rintro ⟨rfl, outside⟩
        exact .moment z outside
      · rintro ⟨⟩
        exact ⟨rfl, ‹_›⟩
  · have inPlace : ∀ z, v = .zoned (some z) → p ≠ .date ∧ p ≠ .moment := fun z same =>
      ⟨fun isDate => moved ⟨z, same, .inl isDate⟩, fun isMoment => moved ⟨z, same, .inr isMoment⟩⟩
    refine (sound_ofValue isBytes inPlace).congr fun cause => ⟨False.elim, fun ends => ?_⟩
    cases ends with
    | cut => exact isBytes rfl
    | date z => exact moved ⟨z, rfl, .inl rfl⟩
    | moment z => exact moved ⟨z, rfl, .inr rfl⟩

theorem not_ends_of_isNull {p : Primitive} {v : Value} {cause : Abort} (null : v.isNull = true) :
    ¬p.Ends v cause := by
  rintro (_ | _ | _) <;> cases null

end Primitive

namespace FieldType

/-- Conversion of the value to the type ends the work; of a list the first member that cannot be
converted decides. -/
def Ends : FieldType → Value → Abort → Prop
  | primitive p, v, cause => p.Ends v cause
  | option t, v, cause => t.Ends v cause
  | box t, v, cause => t.Ends v cause
  | list t, v, cause => ∃ vs e, v = .list (some vs) e ∧ Faults.InFirst t.ofValue t.Ends vs cause

theorem not_ends_of_isNull {t : FieldType} {v : Value} {cause : Abort} (null : v.isNull = true) :
    ¬t.Ends v cause := by
  induction t with
  | primitive p => exact Primitive.not_ends_of_isNull null
  | option t ih => exact ih
  | box t ih => exact ih
  | list t ih =>
    rintro ⟨vs, e, rfl, _⟩
    cases null

theorem faults_ofValue (t : FieldType) (v : Value) : Faults (t.ofValue v) (t.Ends v) := by
  induction t generalizing v with
  | primitive p => exact p.faults_ofValue v
  | option t ih =>
    rw [ofValue]
    split
    · rename_i null
      exact (Faults.ok _).congr fun _ => ⟨False.elim, not_ends_of_isNull null⟩
    · exact (ih v).map some
  | box t ih => exact ih v
  | list t ih =>
    have other : ∀ {x : Except Error (List t.Carrier)}, (∀ vs e, v ≠ .list (some vs) e) →
        Sound x → Faults x (Ends (.list t) v) := fun noList sound =>
      sound.congr fun _ => ⟨False.elim, fun ⟨vs, e, same, _⟩ => noList vs e same⟩
    cases v with
    | list items e =>
      cases items with
      | none => exact other (by simp) (.ok [])
      | some vs =>
        refine (Faults.mapM fun u _ => ih u).congr fun cause =>
          ⟨fun first => ⟨vs, e, rfl, first⟩, ?_⟩
        rintro ⟨_, _, ⟨⟩, first⟩
        exact first
    | _ => exact other (by simp) (.ofValue _ _)

/-- The type is read from text as bytes are. -/
def readsBytes : FieldType → Bool
  | primitive p => p == .bytes
  | option t => t.readsBytes
  | box t => t.readsBytes
  | list _ => false

end FieldType

namespace Text

/-- Characters that differ from an ASCII character in case only have one byte. -/
theorem utf8Size_of_toLower {c d : Char} (ascii : d.val ≤ 127) (same : c.toLower = d) :
    c.utf8Size = 1 := by
  have small : c.val ≤ 127 := by
    rw [Char.toLower.eq_def] at same
    split at same
    · rename_i upper
      exact UInt32.le_trans upper.2 (by decide)
    · exact same ▸ ascii
  exact Char.utf8Size_eq_one_iff.2 small

/-- The word for null is not cut. -/
theorem not_cutsCharacter_null {s : String} (null : eqIgnoringCase s "null" = true) :
    cutsCharacter 2 s.toList = false := by
  have letters : s.toList.map Char.toLower = ['n', 'u', 'l', 'l'] := beq_iff_eq.1 null
  obtain ⟨a, rest, text, first, letters⟩ := List.map_eq_cons_iff.1 letters
  obtain ⟨b, rest, rfl, second, _⟩ := List.map_eq_cons_iff.1 letters
  have one := utf8Size_of_toLower (by decide) first
  have two := utf8Size_of_toLower (by decide) second
  cases rest <;> simp [text, cutsCharacter, one, two]

end Text

namespace FieldType

/-- Reading a whole text ends the work where bytes are cut inside a character. -/
theorem faults_parse (t : FieldType) (s : String) : Faults (t.parse s) fun cause =>
    cause = .cutCharacter ∧ t.readsBytes = true ∧ Text.cutsCharacter 2 s.toList = true := by
  induction t with
  | primitive p =>
    refine (p.faults_parse s).congr fun cause => and_congr_right fun _ => ?_
    rw [Primitive.cuts_eq_true, readsBytes, beq_iff_eq]
  | option t ih =>
    rw [parse]
    split
    · rename_i null
      refine (Faults.ok _).congr fun cause => ⟨False.elim, fun ⟨_, _, cut⟩ => ?_⟩
      exact Bool.false_ne_true ((Text.not_cutsCharacter_null null).symm.trans cut)
    · exact ih.map some
  | box t ih => exact ih
  | list t => exact (Faults.ofText _ _).congr fun _ => ⟨False.elim, fun h => nomatch h.2.1⟩

/-- Only primitive types are read from a part of a text. -/
theorem faults_extract (t : FieldType) (s : String) : Faults (t.extract s) fun cause =>
    cause = .cutCharacter ∧ t = .primitive .bytes ∧ Text.cutsCharacter 2 s.toList = true := by
  cases t with
  | primitive p =>
    refine (p.faults_extract s).congr fun cause => and_congr_right fun _ => ?_
    rw [Primitive.cuts_eq_true, primitive.injEq]
  | _ => exact (Faults.ofText _ _).congr fun _ => ⟨False.elim, fun h => nomatch h.2.1⟩

end FieldType

/-! ## Coercion -/

/-- Coercion of the value to the kind ends the work; of a list the first member that cannot be
coerced decides. -/
def CoercionEnds : (kind : Value) → Value → Abort → Prop
  | .blob _, v, cause => Primitive.bytes.Ends v cause
  | .date _, v, cause => Primitive.date.Ends v cause
  | .timestamp _, v, cause => Primitive.moment.Ends v cause
  | .list _ element, v, cause =>
    ∃ vs e, v = .list (some vs) e ∧ Faults.InFirst (coerce element) (CoercionEnds element) vs cause
  | _, _, _ => False
  termination_by structural kind => kind

theorem not_coercionEnds_of_isNull {kind v : Value} {cause : Abort} (null : v.isNull = true) :
    ¬CoercionEnds kind v cause := by
  cases kind with
  | blob => exact Primitive.not_ends_of_isNull null
  | date => exact Primitive.not_ends_of_isNull null
  | timestamp => exact Primitive.not_ends_of_isNull null
  | list =>
    rintro ⟨vs, e, rfl, _⟩
    cases null
  | _ => exact id

theorem faults_coerceVia (p : Primitive) (v : Value) : Faults (coerceVia p v) (p.Ends v) :=
  (p.faults_ofValue v).map p.toValue

/-- **Coercion ends the work exactly where the conversion to the type of the kind does.** The
induction is on the kind. -/
theorem faults_coerce (kind v : Value) : Faults (coerce kind v) (CoercionEnds kind v) := by
  by_cases null : v.isNull = true
  · rw [coerce.eq_def]
    dsimp only
    rw [if_pos null]
    exact (Faults.ok _).congr fun _ => ⟨False.elim, not_coercionEnds_of_isNull null⟩
  rw [coerce.eq_def]
  dsimp only
  rw [if_neg null]
  cases kind with
  | null => exact .ok v
  | unknown => exact .ok v
  | blob => exact faults_coerceVia .bytes v
  | date => exact faults_coerceVia .date v
  | timestamp => exact faults_coerceVia .moment v
  | decimal =>
    exact ((Primitive.decimal.faults_ofValue v).congr fun _ => ⟨by rintro ⟨⟩, False.elim⟩).map _
  | list content element =>
    have other : ∀ {x : Except Error Value}, (∀ vs e, v ≠ .list (some vs) e) → Sound x →
        Faults x (CoercionEnds (.list content element) v) := fun noList sound =>
      sound.congr fun _ => ⟨False.elim, fun ⟨vs, e, same, _⟩ => noList vs e same⟩
    cases v with
    | list items e =>
      cases items with
      | none => exact absurd rfl null
      | some vs =>
        refine ((Faults.mapM fun u _ => faults_coerce element u).congr fun cause =>
          ⟨fun first => ⟨vs, e, rfl, first⟩, ?_⟩).map _
        rintro ⟨_, _, ⟨⟩, first⟩
        exact first
    | _ => exact other (by simp) (.ofValue _ _)
  | _ => exact (faults_coerceVia _ v).congr fun _ => ⟨by rintro ⟨⟩, False.elim⟩

/-! ## Literals -/

mutual
/-- The value is a zoned moment that UTC cannot name, or a list with such a member at any depth. -/
def Value.leavesCalendar : Value → Bool
  | .zoned (some z) => z.utc?.isNone
  | .list (some vs) _ => Value.anyLeavesCalendar vs
  | _ => false
  termination_by structural v => v

/-- One of the values leaves the calendar. -/
def Value.anyLeavesCalendar : List Value → Bool
  | [] => false
  | v :: vs => v.leavesCalendar || Value.anyLeavesCalendar vs
  termination_by structural vs => vs
end

namespace Dialect

mutual
/-- Writing a literal fails in one way: a zoned moment leaves the calendar. The induction is on the
value: a list is written member by member. -/
theorem literal_eq_error (d : Dialect) (v : Value) (e : Error) :
    d.literal v = .error e ↔ e = .abort .instantOutOfRange ∧ v.leavesCalendar = true := by
  have written : ∀ {s : String}, v.leavesCalendar = false →
      ((.ok s : Except Error String) = .error e ↔
        e = .abort .instantOutOfRange ∧ v.leavesCalendar = true) := fun stays =>
    ⟨nofun, fun h => absurd (stays.symm.trans h.2) Bool.false_ne_true⟩
  cases v with
  | zoned z =>
    cases z with
    | none => exact written rfl
    | some z =>
      rw [literal, Outcome.map_eq_error, Primitive.utc, Value.leavesCalendar]
      cases z.utc? with
      | none => simp [Primitive.orFail, eq_comm]
      | some m => simp [Primitive.orFail]
  | list items member =>
    cases items with
    | none => exact written rfl
    | some vs =>
      rw [literal, Outcome.bind_eq_error, literals_eq_error d vs e]
      exact ⟨fun h => h.resolve_right nofun, .inl⟩
  | decimal content precision scale => cases content <;> exact written rfl
  | null => exact written rfl
  | _ =>
    rename_i content
    cases content <;> exact written rfl
  termination_by structural v

theorem literals_eq_error (d : Dialect) (vs : List Value) (e : Error) :
    d.literals vs = .error e ↔
      e = .abort .instantOutOfRange ∧ Value.anyLeavesCalendar vs = true := by
  cases vs with
  | nil => exact ⟨nofun, fun h => nomatch h.2⟩
  | cons v vs =>
    have first := literal_eq_error d v
    have rest := literals_eq_error d vs e
    rw [literals, Outcome.bind_eq_error, first, Value.anyLeavesCalendar, Bool.or_eq_true]
    simp only [Outcome.bind_pure_eq_map, Outcome.map_eq_error, rest]
    constructor
    · rintro (⟨same, leaves⟩ | ⟨_, _, same, leaves⟩)
      · exact ⟨same, .inl leaves⟩
      · exact ⟨same, .inr leaves⟩
    · rintro ⟨same, leaves⟩
      cases written : d.literal v with
      | error e' => exact .inl ⟨same, ((first e').1 written).2⟩
      | ok text =>
        have stays : ¬v.leavesCalendar = true := fun leaves => by
          have failed := (first e).2 ⟨same, leaves⟩
          rw [written] at failed
          cases failed
        exact .inr ⟨text, rfl, same, leaves.resolve_left stays⟩
  termination_by structural vs
end

/-- **Writing a literal ends the work exactly where a zoned moment leaves the calendar.** -/
theorem faults_literal (d : Dialect) (v : Value) : Faults (d.literal v) fun cause =>
    cause = .instantOutOfRange ∧ v.leavesCalendar = true where
  reported e failed := .inr ⟨_, ((d.literal_eq_error v e).1 failed).1⟩
  aborts cause := by rw [literal_eq_error, Error.abort.injEq]

end Dialect

end EntitySql
