import EntitySql.Proofs.Marshal.Aborts
import EntitySql.Proofs.Marshal.Binding

/-!
# What ends the work outright

Values are bound and decoded by conversions, so that they end the work where those do, and in one
situation more.

**Binding** moves every zoned moment to UTC, under storages that keep its zone too.

**Decoding** reads streams first. The declared length of a stream is not compared with what can be
held, and a length beyond every memory ends the work. The converter of a column is not part of the
library; what it fails with is passed on.

For every operation these are all the situations there are (`failures_reported`): it ends the work
exactly in them, and every other failure is a report.
-/

namespace EntitySql

set_option autoImplicit false

/-! ## Binding -/

section Bound

variable {v : Value} {kind : Value} {storage : Storage}

theorem isTextual_of_isTemporal (temporal : v.isTemporal = true) : v.isTextual = false := by
  cases v <;> first | rfl | cases temporal

/-- Text for a temporal kind is read or refused. -/
theorem sound_readTemporal (v kind : Value) : Sound (readTemporal v kind) := by
  have parsed : ∀ s, Sound ((temporalType kind).parse s) := fun s =>
    Primitive.sound_parse (by cases kind <;> nofun) s
  unfold readTemporal
  split
  · dsimp only
    split
    · exact .ok _
    · rename_i cause aborted
      exact absurd ((parsed _).aborts cause |>.1 aborted) id
    · exact .ofText _ _
  · exact .ok v

theorem readTemporal_of_notText (notText : v.isTextual = false) : readTemporal v kind = .ok v := by
  unfold readTemporal
  exact if_neg (Bool.eq_false_iff.1 notText)

/-- What is read for a temporal kind is no text any more. -/
theorem isTextual_of_readTemporal {w : Value} (read : readTemporal v kind = .ok w) :
    w.isTextual = false := by
  unfold readTemporal at read
  split at read
  · dsimp only at read
    split at read
    · cases read
      cases kind <;> rfl
    · cases read
    · cases read
  · rename_i notText
    cases read
    exact Bool.eq_false_iff.2 notText

theorem bindTemporal_of_readTemporal {w : Value} (read : readTemporal v kind = .ok w) :
    bindTemporal v storage kind = bindTemporal w storage kind := by
  rw [bindTemporal, bindTemporal, read,
    readTemporal_of_notText (isTextual_of_readTemporal read)]

/-- A moment with an offset is stored by its form in UTC, if it has one. -/
theorem faults_storedZoned (z : ZonedMoment) :
    Faults (bindTemporal (.zoned (some z)) storage kind) fun cause =>
      cause = .instantOutOfRange ∧ z.utc? = none := by
  cases utc : z.utc? with
  | none =>
    have failed : Primitive.utc z = .error (.abort .instantOutOfRange) := by
      rw [Primitive.utc, utc]
      rfl
    have aborted : bindTemporal (.zoned (some z)) storage kind =
        .error (.abort .instantOutOfRange) := by
      show (Primitive.utc z >>= fun instant => _) = _
      rw [failed]
      rfl
    rw [aborted]
    exact (Faults.aborted _).congr fun _ => (and_iff_left rfl).symm
  | some m =>
    have found : instantOf? (.zoned (some z)) = some (.ok m) := by
      rw [instantOf?, Primitive.utc, utc]
      rfl
    rw [bindTemporal_instant found]
    exact (Faults.ok _).congr fun cause =>
      ⟨False.elim, fun outside => Option.some_ne_none m outside.2⟩

/-- What a storage makes of a value that is no text. -/
theorem faults_stored (notText : v.isTextual = false) :
    Faults (bindTemporal v storage kind) fun cause =>
      cause = .instantOutOfRange ∧ ∃ z, v = .zoned (some z) ∧ z.utc? = none := by
  have other : ∀ {x : Except Error DriverValue}, (∀ z, v ≠ .zoned (some z)) → Sound x →
      Faults x fun cause => cause = .instantOutOfRange ∧ ∃ z, v = .zoned (some z) ∧ z.utc? = none :=
    fun noZoned sound => sound.congr fun cause => by simp [noZoned]
  cases v with
  | zoned z =>
    cases z with
    | none => exact other (by simp) (.ofValue _ _)
    | some z =>
      refine (faults_storedZoned z).congr fun cause => and_congr_right fun _ => ⟨?_, ?_⟩
      · exact fun outside => ⟨z, rfl, outside⟩
      · rintro ⟨_, ⟨⟩, outside⟩
        exact outside
  | date d =>
    cases d with
    | none => exact other (by simp) (.ofValue _ _)
    | some d =>
      rw [bindTemporal_instant rfl]
      exact other (by simp) (.ok _)
  | timestamp m =>
    cases m with
    | none => exact other (by simp) (.ofValue _ _)
    | some m =>
      rw [bindTemporal_instant rfl]
      exact other (by simp) (.ok _)
  | time t =>
    cases t with
    | none => exact other (by simp) (.ofValue _ _)
    | some t =>
      rw [bindTemporal_time]
      cases storage <;> first | exact other (by simp) (.ok _) | exact other (by simp) (.ofValue _ _)
  | char | varchar | unknown => cases notText
  | _ => exact other (by simp) (.ofValue _ _)

theorem faults_bindTemporal (v : Value) (storage : Storage) (kind : Value) :
    Faults (bindTemporal v storage kind) fun cause => cause = .instantOutOfRange ∧
      ∃ z, readTemporal v kind = .ok (.zoned (some z)) ∧ z.utc? = none := by
  cases read : readTemporal v kind with
  | error e =>
    have failed : bindTemporal v storage kind = .error e := by
      rw [bindTemporal, read]
      rfl
    have sound := sound_readTemporal v kind
    rw [read] at sound
    rw [failed]
    exact (sound.map DriverValue.scalar).congr fun _ =>
      ⟨False.elim, fun ⟨_, _, impossible, _⟩ => nomatch impossible⟩
  | ok w =>
    rw [bindTemporal_of_readTemporal read]
    exact (faults_stored (isTextual_of_readTemporal read)).congr fun cause =>
      and_congr_right fun _ => exists_congr fun z => and_congr_left fun _ => by rw [Except.ok.injEq]

end Bound

/-- Binding the parameter ends the work: it is, or its text is read as, a zoned moment that UTC
cannot name. -/
structure Pair.Ends (p : Pair) (cause : Abort) : Prop where
  cause : cause = .instantOutOfRange
  content : p.value.isNull = false
  forTemporal : p.value.isTextual = true → p.kind.isTemporal = true
  outside : ∃ z, readTemporal p.value p.kind = .ok (.zoned (some z)) ∧ z.utc? = none

theorem sound_bytesOf (v : Value) (storage : Storage) (charset : Text.Charset) :
    Sound (bytesOf v storage charset) := by
  unfold bytesOf encodeText
  split <;> first
    | with_reducible exact .ok _
    | with_reducible exact .ofValue _ _
    | with_reducible exact .orFail (Error.isReported_ofText _ _) _

theorem sound_bindFloat (dialect : Dialect) (v : Value) (scale : Option Nat) :
    Sound (bindFloat dialect v scale) := by
  have decimal : Sound (decimalOfFloat v scale) := by
    unfold decimalOfFloat
    rw [Outcome.bind_pure_eq_map]
    exact (Faults.orFail (Error.isReported_ofValue _ _) _).map _
  unfold bindFloat
  split
  · exact decimal.map _
  · exact .ok _
  · exact .ok _

/-- **Binding ends the work exactly where a zoned moment has to be moved out of the calendar.** -/
theorem faults_bind (dialect : Dialect) (p : Pair) : Faults (bind dialect p) p.Ends := by
  have other : ∀ {x : Except Error DriverValue}, (∀ cause, ¬p.Ends cause) → Sound x →
      Faults x p.Ends := fun fine sound => sound.congr fun cause => ⟨False.elim, fine cause⟩
  unfold bind
  by_cases null : p.value.isNull = true
  · rw [if_pos null]
    exact other (fun _ ends => Bool.false_ne_true (ends.content.symm.trans null)) (.ok _)
  rw [if_neg null]
  by_cases temporal : (p.value.isTemporal || (p.value.isTextual && p.kind.isTemporal)) = true
  · rw [if_pos temporal]
    have forTemporal : p.value.isTextual = true → p.kind.isTemporal = true := by
      rcases Bool.or_eq_true_iff.1 temporal with temporal | text
      · exact fun text =>
          absurd ((isTextual_of_isTemporal temporal).symm.trans text) Bool.false_ne_true
      · exact fun _ => (Bool.and_eq_true_iff.1 text).2
    refine (faults_bindTemporal p.value p.storage p.kind).congr fun cause => ⟨?_, ?_⟩
    · exact fun ⟨same, outside⟩ => ⟨same, Bool.eq_false_iff.2 null, forTemporal, outside⟩
    · exact fun ends => ⟨ends.cause, ends.outside⟩
  rw [if_neg temporal]
  have fine : ∀ cause, ¬p.Ends cause := fun cause ends => by
    obtain ⟨z, read, _⟩ := ends.outside
    by_cases text : p.value.isTextual = true
    · exact temporal (by rw [text, ends.forTemporal text, Bool.and_self, Bool.or_true])
    · rw [readTemporal_of_notText (Bool.eq_false_iff.2 text)] at read
      exact temporal (by rw [Except.ok.inj read]; rfl)
  split
  · exact other fine ((sound_bytesOf _ _ _).map _)
  · split
    · exact other fine (sound_bindFloat _ _ _)
    · exact other fine (.ok _)
    · exact other fine (.ok _)

/-! ## Decoding -/

/-- The stream declares more than every memory holds, or it is read to its end or found unsound. -/
theorem LargeObject.drain_cases (o : LargeObject) :
    (LargeObject.lengthBound ≤ o.declared ∧ o.drain = .error (.inl .lengthOutOfRange)) ∨
      (¬LargeObject.lengthBound ≤ o.declared ∧
        ((∃ fault, o.drain = .error (.inr fault)) ∨ ∃ bytes, o.drain = .ok bytes)) := by
  by_cases long : lengthBound ≤ o.declared
  · exact .inl ⟨long, by rw [drain, if_pos long]⟩
  · refine .inr ⟨long, ?_⟩
    rw [drain, if_neg long]
    split
    · exact .inl ⟨_, rfl⟩
    · split
      · exact .inl ⟨_, rfl⟩
      · exact .inr ⟨_, rfl⟩

/-- Reading a stream for a column ends the work where its declared length exceeds every memory. -/
def LargeObject.Ends (o : LargeObject) (cause : Abort) : Prop :=
  cause = .lengthOutOfRange ∧ LargeObject.lengthBound ≤ o.declared

theorem faults_drainBytes (o : LargeObject) (column : String) :
    Faults (drainBytes o column) o.Ends := by
  unfold drainBytes
  rcases o.drain_cases with ⟨long, drained⟩ | ⟨short, ⟨fault, drained⟩ | ⟨bytes, drained⟩⟩ <;>
    rw [drained]
  · exact (Faults.aborted _).congr fun _ => ⟨fun same => ⟨same, long⟩, And.left⟩
  · exact (Faults.decode _ _).congr fun _ => ⟨False.elim, fun h => short h.2⟩
  · exact (Faults.ok bytes).congr fun _ => ⟨False.elim, fun h => short h.2⟩

theorem faults_drainText (o : LargeObject) (charset : Text.Charset) (column : String) :
    Faults (drainText o charset column) o.Ends := by
  unfold drainText
  rcases o.drain_cases with ⟨long, drained⟩ | ⟨short, ⟨fault, drained⟩ | ⟨bytes, drained⟩⟩ <;>
    rw [drained]
  · exact (Faults.aborted _).congr fun _ => ⟨fun same => ⟨same, long⟩, And.left⟩
  · exact (Faults.decode _ _).congr fun _ => ⟨False.elim, fun h => short h.2⟩
  · dsimp only
    cases charset.decode bytes with
    | ok s => exact (Faults.ok s).congr fun _ => ⟨False.elim, fun h => short h.2⟩
    | error fault => exact (Faults.decode _ _).congr fun _ => ⟨False.elim, fun h => short h.2⟩

/-- The driver value is a stream that cannot be read. -/
def DriverValue.Ends (raw : DriverValue) (cause : Abort) : Prop :=
  ∃ o, (raw = .characters o ∨ raw = .binary o) ∧ o.Ends cause

theorem faults_received (raw : DriverValue) (c : ColumnDef) :
    Faults (received raw c) raw.Ends := by
  cases raw with
  | null => exact (Faults.ok _).congr fun _ => ⟨False.elim, fun ⟨_, given, _⟩ => nomatch given⟩
  | scalar => exact (Faults.ok _).congr fun _ => ⟨False.elim, fun ⟨_, given, _⟩ => nomatch given⟩
  | characters o =>
    refine ((faults_drainText o c.charset c.name).map _).congr fun cause =>
      ⟨fun ends => ⟨o, .inl rfl, ends⟩, fun ⟨_, given, ends⟩ => ?_⟩
    rcases given with same | same <;> cases same
    exact ends
  | binary o =>
    have stream : ∀ cause, o.Ends cause ↔ (DriverValue.binary o).Ends cause := by
      refine fun cause => ⟨fun ends => ⟨o, .inr rfl, ends⟩, fun ⟨_, given, ends⟩ => ?_⟩
      rcases given with same | same <;> cases same
      exact ends
    rw [received]
    split
    · exact ((faults_drainText o c.charset c.name).map _).congr stream
    · exact ((faults_drainBytes o c.name).map _).congr stream

theorem sound_millisOfValue (v : Value) : Sound (millisOfValue v) := by
  unfold millisOfValue
  split
  · exact (Primitive.sound_ofValue (p := .int .int64) nofun fun _ _ => ⟨nofun, nofun⟩).map _
  · split
    · exact .ok _
    · exact .ofValue _ _
  · split <;> exact .ok _
  · split <;> exact .ok _
  · split <;> exact .ok _
  · exact .ok none

/-- A moment of UTC does not leave the calendar. -/
theorem not_coercionEnds_ofUtc {kind : Value} {m : Moment} {cause : Abort} :
    ¬CoercionEnds kind (.zoned (some (.ofUtc m))) cause := by
  have inRange : (ZonedMoment.ofUtc m).utc? ≠ none := by simp
  cases kind with
  | blob => rintro ⟨⟩
  | date =>
    rintro ⟨⟩
    exact inRange ‹_›
  | timestamp =>
    rintro ⟨⟩
    exact inRange ‹_›
  | list => exact fun ⟨_, _, same, _⟩ => nomatch same
  | _ => exact id

/-- A value stored as milliseconds is coerced if it is no number. -/
theorem faults_decodeLongDate (v kind : Value) : Faults (decodeLongDate v kind) fun cause =>
    millisOfValue v = .ok none ∧ CoercionEnds kind v cause := by
  have rebuilt : ∀ m : Moment, Sound (coerce kind (.zoned (some (.ofUtc m)))) := fun m =>
    (faults_coerce kind _).congr fun _ => ⟨not_coercionEnds_ofUtc, nofun⟩
  let next : Option Int → Abort → Prop := fun found cause =>
    found = none ∧ CoercionEnds kind v cause
  have ends : Faults (decodeLongDate v kind) fun cause =>
      False ∨ ∃ found, millisOfValue v = .ok found ∧ next found cause := by
    refine (sound_millisOfValue v).bind fun found _ => ?_
    cases found with
    | none => exact (faults_coerce kind v).congr fun _ => ⟨fun ends => ⟨rfl, ends⟩, And.right⟩
    | some millis =>
      have other : ∀ {x : Except Error Value}, Sound x → Faults x (next (some millis)) :=
        fun sound => sound.congr fun _ => ⟨False.elim, fun h => nomatch h.1⟩
      dsimp only
      split
      · exact other (.ok _)
      · split
        · exact other (.ofValue _ _)
        · split
          · exact other (.ok _)
          · exact other (.ok _)
          · exact other (rebuilt _)
  refine ends.congr fun cause => ⟨?_, fun ⟨found, ends⟩ => .inr ⟨none, found, rfl, ends⟩⟩
  rintro (⟨⟨⟩⟩ | ⟨_, found, rfl, ends⟩)
  exact ⟨found, ends⟩

/-- Decoding ends the work: the stream cannot be read, or coercion ends it, of a value that no
converter replaces and that is not read as milliseconds. -/
inductive DecodingEnds (raw : DriverValue) (c : ColumnDef) (cause : Abort) : Prop
  | stream (ends : raw.Ends cause) : DecodingEnds raw c cause
  | coercion (v : Value) (given : received raw c = .ok v) (kept : converted v c = .ok none)
    (noMillis : c.storage = .longDate → millisOfValue v = .ok none)
    (ends : CoercionEnds c.prototype v cause) : DecodingEnds raw c cause

/-- **Decoding ends the work exactly where a stream or a coercion does,** if converters report
their failures. -/
theorem faults_decode {raw : DriverValue} {c : ColumnDef}
    (reports : ∀ v, received raw c = .ok v → Sound (converted v c)) :
    Faults (decode raw c) (DecodingEnds raw c) := by
  let next : Value → Option Value → Abort → Prop := fun v replaced cause =>
    replaced = none ∧ (c.storage = .longDate → millisOfValue v = .ok none) ∧
      CoercionEnds c.prototype v cause
  have ends : Faults (decode raw c) fun cause => raw.Ends cause ∨ ∃ v, received raw c = .ok v ∧
      (False ∨ ∃ replaced, converted v c = .ok replaced ∧ next v replaced cause) := by
    refine (faults_received raw c).bind fun v given => (reports v given).bind fun replaced _ => ?_
    cases replaced with
    | some w => exact (Faults.ok w).congr fun _ => ⟨False.elim, fun h => nomatch h.1⟩
    | none =>
      dsimp only
      split
      · rename_i null
        exact (Faults.ok _).congr fun _ =>
          ⟨False.elim, fun h => not_coercionEnds_of_isNull null h.2.2⟩
      · split
        · rename_i long
          exact (faults_decodeLongDate v c.prototype).congr fun _ =>
            ⟨fun h => ⟨rfl, fun _ => h.1, h.2⟩, fun h => ⟨h.2.1 long, h.2.2⟩⟩
        · rename_i plain
          exact (faults_coerce c.prototype v).congr fun _ =>
            ⟨fun h => ⟨rfl, fun long => absurd long plain, h⟩, fun h => h.2.2⟩
  refine ends.congr fun cause => ⟨?_, ?_⟩
  · rintro (ends | ⟨v, given, ⟨⟨⟩⟩ | ⟨_, kept, rfl, noMillis, ends⟩⟩)
    · exact .stream ends
    · exact .coercion v given kept noMillis ends
  · rintro (ends | ⟨v, given, kept, noMillis, ends⟩)
    · exact .inl ends
    · exact .inr ⟨v, given, .inr ⟨none, kept, rfl, noMillis, ends⟩⟩

/-- What a converter fails with is passed on. -/
theorem decode_of_converted {raw : DriverValue} {c : ColumnDef} {v : Value} {e : Error}
    (given : received raw c = .ok v) (failed : converted v c = .error e) :
    decode raw c = .error e := by
  rw [decode, given]
  show (converted v c >>= fun replaced => _) = _
  rw [failed]
  rfl

/-! ## All operations -/

/-- **All failures are reported but in three situations, which end the work.** Binding, decoding,
coercion, conversion to a field type, reading a whole text or a part of it, and writing a literal
yield a result or report a conversion or a decoding that is not possible. They end the work exactly
where a text is cut inside a character, a zoned moment leaves the calendar, or a stream declares a
length that exceeds every memory. A converter, which is not part of the library, may fail in its own
way; its failure is passed on. -/
theorem failures_reported (dialect : Dialect) (p : Pair) (raw : DriverValue) (c : ColumnDef)
    (kind v : Value) (t : FieldType) (s : String) :
    Faults (bind dialect p) p.Ends ∧
      ((∀ w, received raw c = .ok w → Sound (converted w c)) →
        Faults (decode raw c) (DecodingEnds raw c)) ∧
      (∀ w e, received raw c = .ok w → converted w c = .error e → decode raw c = .error e) ∧
      Faults (coerce kind v) (CoercionEnds kind v) ∧
      Faults (t.ofValue v) (t.Ends v) ∧
      (Faults (t.parse s) fun cause =>
        cause = .cutCharacter ∧ t.readsBytes = true ∧ Text.cutsCharacter 2 s.toList = true) ∧
      (Faults (t.extract s) fun cause =>
        cause = .cutCharacter ∧ t = .primitive .bytes ∧ Text.cutsCharacter 2 s.toList = true) ∧
      Faults (dialect.literal v) fun cause =>
        cause = .instantOutOfRange ∧ v.leavesCalendar = true :=
  ⟨faults_bind dialect p, faults_decode, fun _ _ => decode_of_converted, faults_coerce kind v,
    t.faults_ofValue v, t.faults_parse s, t.faults_extract s, dialect.faults_literal v⟩

/-- A column of bytes. -/
def bodyColumn : ColumnDef where
  field := "body"
  name := "BODY"
  storage := .plain
  prototype := .blob none
  nullable := true
  key := .outside
  position := 0
  charset := .utf8
  scale := none
  converter := none

/-- Untyped text whose second byte is in the middle of a character ends the work; the two characters
in the other order are read up to the one that is no digit, and refused. -/
theorem failures_reported_accents :
    decode (.scalar (.unknown (some "aé"))) bodyColumn = .error (.abort .cutCharacter) ∧
      ∃ e, decode (.scalar (.unknown (some "éa"))) bodyColumn = .error e ∧ e.IsReported := by
  have laws := fun raw : DriverValue => failures_reported .generic (.ofValue .null) raw bodyColumn
    (.blob none) .null (.primitive .bytes) "aé"
  have decoded := fun raw : DriverValue => (laws raw).2.1 fun _ _ => .ok none
  refine ⟨((decoded _).aborts _).2 ?_, ?_⟩
  · exact .coercion _ rfl rfl nofun (.cut "aé" (by decide))
  · exact ⟨_, rfl, trivial⟩

/-- Not every failure is reported: reading bytes from a text of two characters ends the work. -/
theorem failures_reported_cutText :
    ¬∀ (t : FieldType) (s : String) (e : Error), t.parse s = .error e → e.IsReported :=
  fun reported => reported (.primitive .bytes) "aé" (.abort .cutCharacter) rfl

end EntitySql
