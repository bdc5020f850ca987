import EntitySql.Proofs.Marshal.Binding
import EntitySql.Proofs.Marshal.Coercion
import EntitySql.Proofs.Text.Charsets

/-!
# Texts and bytes as large objects

Under the storages of large objects texts and bytes are bound as streams. A text is written in the
character set of the column and read in the same one, so it comes back under each of these storages.
Bytes are written as they are. They are read as bytes from a binary stream, but as a text from a
stream of characters, and that text is turned into bytes of UTF-8: they come back exactly when they
are legible in the character set of the column and the same in UTF-8 (`decode_stream_iff`).

A stream is only drained when its declared length is one a memory can have.
-/

namespace EntitySql

set_option autoImplicit false

variable {dialect : Dialect} {c : ColumnDef} {v : Value} {raw : DriverValue}

/-- Texts, characters and bytes. -/
def Value.isStreamable : Value → Bool
  | varchar _ | char _ | blob _ => true
  | _ => false

/-- The stream of a driver value that is one. -/
def DriverValue.stream? : DriverValue → Option LargeObject
  | characters o | binary o => some o
  | _ => none

/-- What is said of the bytes of a column of characters that come back: they are a text in its
character set, and the same text in UTF-8. Everything else always comes back. -/
def ColumnDef.Legible (c : ColumnDef) (v : Value) : Prop :=
  c.storage = .largeCharacter → ∀ b, v = .blob (some b) →
    ∃ s, c.charset.decode b = .ok s ∧ Text.utf8 s = b

/-! ## Streams drained -/

theorem drain_ofBytes {bytes : List UInt8} (short : bytes.length < LargeObject.lengthBound) :
    (LargeObject.ofBytes bytes).drain = .ok bytes := by
  rw [LargeObject.drain, LargeObject.ofBytes, if_neg (Nat.not_le.2 short)]
  exact if_neg (Nat.lt_irrefl _)

theorem drainBytes_ofBytes {bytes : List UInt8} {column : String}
    (short : bytes.length < LargeObject.lengthBound) :
    drainBytes (.ofBytes bytes) column = .ok bytes := by
  rw [drainBytes, drain_ofBytes short]

theorem drainText_ofBytes {bytes : List UInt8} {charset : Text.Charset} {column s : String}
    (short : bytes.length < LargeObject.lengthBound) :
    drainText (.ofBytes bytes) charset column = .ok s ↔ charset.decode bytes = .ok s := by
  rw [drainText, drain_ofBytes short]
  dsimp only
  cases charset.decode bytes with
  | ok t => simp only [Except.ok.injEq]
  | error fault => simp only [reduceCtorEq]

/-! ## Streams bound -/

/-- The driver value of the bytes of a large object. -/
def streamed (storage : Storage) (bytes : List UInt8) : DriverValue :=
  if storage = .largeCharacter then .characters (.ofBytes bytes) else .binary (.ofBytes bytes)

theorem stream?_streamed {storage : Storage} {bytes : List UInt8} :
    (streamed storage bytes).stream? = some (.ofBytes bytes) := by
  rw [streamed]
  split <;> rfl

/-- What is streamable is bound as the stream of its bytes. -/
theorem bind_streamable (large : c.storage.isLargeObject = true)
    (streamable : v.isStreamable = true) (content : v.isNull = false)
    (same : c.prototype.sameType v = true) (bound : bind dialect (.forColumn v c) = .ok raw) :
    ∃ bytes, bytesOf v c.storage c.charset = .ok bytes ∧ raw = streamed c.storage bytes := by
  have temporal : v.isTemporal = false := by
    cases v <;> first | rfl | cases streamable
  rw [bind_of_isLargeObject (undated_of_sameType content temporal same) large,
    Outcome.map_eq_ok] at bound
  obtain ⟨bytes, found, rfl⟩ := bound
  exact ⟨bytes, found, rfl⟩

theorem encodeText_eq_ok_iff {charset : Text.Charset} {s : String} {bytes : List UInt8} :
    encodeText charset s = .ok bytes ↔ charset.encode? s = some bytes := by
  rw [encodeText]
  cases charset.encode? s with
  | none => exact ⟨nofun, nofun⟩
  | some b => simp [Primitive.orFail]

/-! ## Streams decoded -/

/-- A stream for a textual kind, or of characters, is a text. -/
theorem received_text {bytes : List UInt8} (short : bytes.length < LargeObject.lengthBound)
    (text : c.storage = .largeCharacter ∨ c.prototype.isTextual = true) :
    received (streamed c.storage bytes) c = .ok v ↔
      ∃ s, c.charset.decode bytes = .ok s ∧ .varchar (some s) = v := by
  have drained : received (streamed c.storage bytes) c =
      (drainText (.ofBytes bytes) c.charset c.name).map fun s => .varchar (some s) := by
    rw [streamed]
    split
    · rfl
    · rename_i binary
      exact if_pos (text.resolve_left binary)
  rw [drained, Outcome.map_eq_ok]
  simp only [drainText_ofBytes short]

theorem received_bytes {bytes : List UInt8} (short : bytes.length < LargeObject.lengthBound)
    (binary : c.storage ≠ .largeCharacter) (kind : c.prototype.isTextual = false) :
    received (streamed c.storage bytes) c = .ok (.blob (some bytes)) := by
  rw [streamed, if_neg binary]
  show (if c.prototype.isTextual = true then _ else _) = _
  rw [if_neg (Bool.eq_false_iff.1 kind), drainBytes_ofBytes short]
  rfl

theorem decode_received (free : c.converter = none) (large : c.storage.isLargeObject = true)
    (given : received raw c = .ok v) (content : v.isNull = false) :
    decode raw c = coerce c.prototype v := by
  rw [decode_of_received free given content, if_neg]
  intro long
  rw [long] at large
  cases large

/-- A text in the character set of the column is read as a text and coerced. -/
theorem decode_streamed_text {bytes : List UInt8} {s : String} (free : c.converter = none)
    (large : c.storage.isLargeObject = true) (short : bytes.length < LargeObject.lengthBound)
    (text : c.storage = .largeCharacter ∨ c.prototype.isTextual = true)
    (read : c.charset.decode bytes = .ok s) :
    decode (streamed c.storage bytes) c = coerce c.prototype (.varchar (some s)) :=
  decode_received free large ((received_text short text).2 ⟨s, read, rfl⟩) rfl

theorem isTextual_of_sameType {kind : Value} (same : kind.sameType v = true)
    (textual : v.isTextual = true) : kind.isTextual = true := by
  cases v <;> cases kind <;>
    first | rfl | exact absurd same Bool.false_ne_true | exact absurd textual Bool.false_ne_true

/-- A text of one character is coerced to that character. -/
theorem coerce_char {kind : Value} {ch : Char} (same : kind.sameType (.char (some ch)) = true) :
    coerce kind (.varchar (some (String.singleton ch))) = .ok (.char (some ch)) := by
  have read : Primitive.char.parse (String.singleton ch) = .ok ch := by
    rw [Primitive.parse, String.toList_singleton]
    rfl
  cases kind with
  | char content =>
    show (Primitive.char.parse (String.singleton ch)).map Primitive.char.toValue = _
    rw [read]
    rfl
  | _ => cases same

/-- **What is legible is read back from its stream.** -/
theorem decode_streamed {bytes : List UInt8} (free : c.converter = none)
    (large : c.storage.isLargeObject = true) (streamable : v.isStreamable = true)
    (content : v.isNull = false) (same : c.prototype.sameType v = true)
    (found : bytesOf v c.storage c.charset = .ok bytes)
    (short : bytes.length < LargeObject.lengthBound) (legible : c.Legible v) :
    decode (streamed c.storage bytes) c = .ok v := by
  cases v with
  | varchar t =>
    obtain ⟨s, rfl⟩ := Option.isSome_iff_exists.1 (Option.isNone_eq_false_iff.1 content)
    have written := Text.Charset.decode_of_encode? (encodeText_eq_ok_iff.1 found)
    rw [decode_streamed_text free large short (.inr (isTextual_of_sameType same rfl)) written]
    exact coerce_of_isFlat rfl rfl same
  | char t =>
    obtain ⟨ch, rfl⟩ := Option.isSome_iff_exists.1 (Option.isNone_eq_false_iff.1 content)
    have written := Text.Charset.decode_of_encode? (encodeText_eq_ok_iff.1 found)
    rw [decode_streamed_text free large short (.inr (isTextual_of_sameType same rfl)) written]
    exact coerce_char same
  | blob t =>
    obtain ⟨b, rfl⟩ := Option.isSome_iff_exists.1 (Option.isNone_eq_false_iff.1 content)
    cases found
    by_cases characters : c.storage = .largeCharacter
    · obtain ⟨s, read, back⟩ := legible characters _ rfl
      rw [decode_streamed_text free large short (.inl characters) read]
      cases kind : c.prototype with
      | blob _ =>
        show Except.ok (Value.blob (some (Text.utf8 s))) = _
        rw [back]
      | _ =>
        rw [kind] at same
        cases same
    · have binary : c.prototype.isTextual = false := by
        cases kind : c.prototype <;> rw [kind] at same <;> first | rfl | cases same
      rw [decode_received free large (received_bytes short characters binary) rfl]
      exact coerce_of_isFlat rfl rfl same
  | _ => cases streamable

/-- Bytes that come back from a stream of characters are legible. -/
theorem legible_of_decode {bytes : List UInt8} {w : Value} (free : c.converter = none)
    (large : c.storage.isLargeObject = true) (same : c.prototype.sameType v = true)
    (found : bytesOf v c.storage c.charset = .ok bytes)
    (short : bytes.length < LargeObject.lengthBound)
    (decoded : decode (streamed c.storage bytes) c = .ok w) (equal : w.equals v = true) :
    c.Legible v := by
  rintro characters b rfl
  cases found
  obtain ⟨u, given, _⟩ := Outcome.bind_eq_ok.1 decoded
  obtain ⟨s, read, rfl⟩ := (received_text short (.inl characters)).1 given
  refine ⟨s, read, ?_⟩
  rw [decode_streamed_text free large short (.inl characters) read] at decoded
  cases kind : c.prototype with
  | blob _ =>
    rw [kind] at decoded
    cases decoded
    exact eq_of_beq equal
  | _ =>
    rw [kind] at same
    cases same

/-- Streamable values equal themselves. -/
theorem equals_self_of_isStreamable (streamable : v.isStreamable = true) : v.equals v = true := by
  cases v <;>
    first | exact Value.equals_self_of_isFlat rfl rfl | exact absurd streamable Bool.false_ne_true

theorem isStreamable_of_sameType {kind : Value} (same : kind.sameType v = true)
    (streamable : kind.isStreamable = true) : v.isStreamable = true := by
  cases kind <;> cases v <;>
    first | rfl | exact absurd same Bool.false_ne_true | exact absurd streamable Bool.false_ne_true

/-- **Texts and bytes under the storages of large objects.** What is bound is a stream, unless it is
null, and declares the length of its bytes. Decoding it for the same column gives a value equal to
the one bound exactly when that one is legible: always, but for bytes in a column of characters. -/
theorem decode_stream_iff (dialect : Dialect) {c : ColumnDef} {v : Value} {raw : DriverValue}
    (free : c.converter = none) (large : c.storage.isLargeObject = true)
    (kind : c.prototype.isStreamable = true) (same : c.prototype.sameType v = true)
    (bound : bind dialect (.forColumn v c) = .ok raw) :
    (v.isNull = false → ∃ o, raw.stream? = some o) ∧
      (∀ o, raw.stream? = some o → o.declared = o.bytes.length) ∧
      ((∀ o, raw.stream? = some o → o.declared < LargeObject.lengthBound) →
        ((∃ w, decode raw c = .ok w ∧ w.equals v = true) ↔ c.Legible v)) := by
  by_cases null : v.isNull = true
  · rw [bind_of_isNull null] at bound
    cases bound
    refine ⟨fun content => absurd null (Bool.eq_false_iff.1 content), nofun, fun _ => ?_⟩
    have legible : c.Legible v := by
      rintro _ b rfl
      cases null
    have equal := Value.equals_of_isNull c.prototype.isNull_prototype null
      ((Value.sameType_prototype _ _).trans same)
    exact iff_of_true ⟨_, decode_null free, equal⟩ legible
  have content : v.isNull = false := Bool.eq_false_iff.2 null
  have streamable := isStreamable_of_sameType same kind
  obtain ⟨bytes, found, rfl⟩ := bind_streamable large streamable content same bound
  rw [stream?_streamed]
  refine ⟨fun _ => ⟨_, rfl⟩, ?_, fun short => ⟨?_, fun legible => ?_⟩⟩
  · rintro o ⟨⟩
    rfl
  · rintro ⟨w, decoded, equal⟩
    exact legible_of_decode free large same found (short _ rfl) decoded equal
  · exact ⟨v, decode_streamed free large streamable content same found (short _ rfl) legible,
      equals_self_of_isStreamable streamable⟩

/-- A column of bytes kept as characters of Latin-1. -/
def scanColumn : ColumnDef where
  field := "data"
  name := "DATA"
  storage := .largeCharacter
  prototype := .blob none
  nullable := false
  key := .outside
  position := 0
  charset := .latin1
  scale := none
  converter := none

/-- Bytes that are letters come back. -/
theorem decode_stream_iff_scanColumn :
    ∃ raw w, bind .generic (.forColumn (.blob (some [0x61, 0x62])) scanColumn) = .ok raw ∧
      decode raw scanColumn = .ok w ∧ w.equals (.blob (some [0x61, 0x62])) = true := by
  have bound : bind .generic (.forColumn (.blob (some [0x61, 0x62])) scanColumn) =
      .ok (.characters (.ofBytes [0x61, 0x62])) := rfl
  have short : ∀ o, DriverValue.stream? (.characters (.ofBytes [0x61, 0x62])) = some o →
      o.declared < LargeObject.lengthBound := by
    rintro o ⟨⟩
    decide
  have legible : scanColumn.Legible (.blob (some [0x61, 0x62])) := by
    rintro _ b ⟨⟩
    exact ⟨"ab", by decide, by decide⟩
  obtain ⟨w, decoded, equal⟩ :=
    ((decode_stream_iff .generic rfl rfl rfl rfl bound).2.2 short).2 legible
  exact ⟨_, w, bound, decoded, equal⟩

/-- A byte above the ASCII ones becomes two. -/
theorem decode_stream_iff_latinByte :
    ∃ raw, bind .generic (.forColumn (.blob (some [0xff])) scanColumn) = .ok raw ∧
      decode raw scanColumn = .ok (.blob (some [0xc3, 0xbf])) ∧
      Value.equals (.blob (some [0xc3, 0xbf])) (.blob (some [0xff])) = false := by
  exact ⟨_, rfl, rfl, rfl⟩

end EntitySql
