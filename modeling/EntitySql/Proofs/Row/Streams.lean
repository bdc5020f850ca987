import EntitySql.Proofs.Row.Hydration
import EntitySql.Proofs.Row.Maps

/-!
# Streams in rows

A stream that is read to its end and holds what it declares stands for all its bytes, or for the
text they are (`LargeObject.StandsFor`); any other one is spoiled (`LargeObject.Spoiled`). What
becomes of it does not depend on the row: it is drained for the column or the label it is decoded
for, and its value is decoded from what it stands for (`RawCell.decode_stream`).

Rows, maps and single values are built from values that are decoded one after the other
(`hydrateRow_eq`, `hydrateInto_eq`, `hydrateScalar_eq`). So no stream is left out or cut short: when
hydration succeeds every stream has been used with all its bytes, and when a stream is spoiled
hydration fails (`hydrate_streams`).

**Lengths.** A stream that declares more than every memory can hold ends the work before it is read,
whether it holds that much or not.
-/

namespace EntitySql

set_option autoImplicit false

open Outcome

/-! ## One stream -/

namespace LargeObject

variable {o : LargeObject} {charset? : Option Text.Charset} {name : String} {v : Value}
  {fault : DecodeFault}

/-- The stream can be read to its end and holds what it declares. -/
structure IsComplete (o : LargeObject) : Prop where
  readable : o.failure = none
  full : o.declared ≤ o.bytes.length

/-- What a stream stands for: all its bytes, or the text that they are in a character set. -/
inductive StandsFor (o : LargeObject) : Option Text.Charset → Value → Prop
  | bytes : StandsFor o none (.blob (some o.bytes))
  | text {charset : Text.Charset} {s : String} (legible : charset.decode o.bytes = .ok s) :
    StandsFor o (some charset) (.varchar (some s))

/-- What is reported of a stream that cannot be read, for bytes or for a text. -/
def unread : Option Text.Charset → StreamFault → DecodeFault
  | none, fault => .bytes fault
  | some charset, fault => .unreadText charset fault

/-- The stream gives no value: its reads fail, it ends early, or its bytes are no text. -/
inductive Spoiled (o : LargeObject) : Option Text.Charset → DecodeFault → Prop
  | unreadable {charset? : Option Text.Charset} {cause : String} (fails : o.failure = some cause) :
    Spoiled o charset? (unread charset? (.unreadable cause))
  | short {charset? : Option Text.Charset} (readable : o.failure = none)
    (early : o.bytes.length < o.declared) :
    Spoiled o charset? (unread charset? (.short o.bytes.length o.declared))
  | malformed {charset : Text.Charset} {fault : Text.CharsetFault} (complete : o.IsComplete)
    (illegible : charset.decode o.bytes = .error fault) :
    Spoiled o (some charset) (.malformedText charset fault)

/-- A stream is spoiled, or it is complete and stands for a value. -/
theorem spoiled_or_standsFor (o : LargeObject) (charset? : Option Text.Charset) :
    (∃ fault, o.Spoiled charset? fault) ∨ o.IsComplete ∧ ∃ v, o.StandsFor charset? v := by
  cases reads : o.failure with
  | some cause => exact .inl ⟨_, .unreadable reads⟩
  | none =>
    by_cases early : o.bytes.length < o.declared
    · exact .inl ⟨_, .short reads early⟩
    have complete : o.IsComplete := ⟨reads, Nat.not_lt.1 early⟩
    cases charset? with
    | none => exact .inr ⟨complete, _, .bytes⟩
    | some charset =>
      cases read : charset.decode o.bytes with
      | error fault => exact .inl ⟨_, .malformed complete read⟩
      | ok s => exact .inr ⟨complete, _, .text read⟩

/-- The value of a stream that is read as a text in a character set, or as bytes. -/
def value (o : LargeObject) (charset? : Option Text.Charset) (name : String) :
    Except Error Value :=
  match charset? with
  | none => (drainBytes o name).map fun b => .blob (some b)
  | some charset => (drainText o charset name).map fun s => .varchar (some s)

theorem drain_of_isComplete (complete : o.IsComplete) (held : o.declared < lengthBound) :
    o.drain = .ok o.bytes := by
  rw [drain, if_neg (Nat.not_le.2 held), complete.readable]
  exact if_neg (Nat.not_lt.2 complete.full)

theorem value_of_standsFor (stands : o.StandsFor charset? v) (complete : o.IsComplete)
    (held : o.declared < lengthBound) : o.value charset? name = .ok v := by
  have drained := drain_of_isComplete complete held
  cases stands with
  | bytes => rw [value, drainBytes, drained]; rfl
  | text legible =>
    rw [value, drainText, drained]
    dsimp only
    rw [legible]
    rfl

theorem value_of_unread {unsound : StreamFault} (drained : o.drain = .error (.inr unsound)) :
    o.value charset? name = .error (.decode name (unread charset? unsound)) := by
  cases charset? with
  | none => rw [value, drainBytes, drained]; rfl
  | some charset => rw [value, drainText, drained]; rfl

/-- A spoiled stream is reported under the name. -/
theorem value_of_spoiled (spoiled : o.Spoiled charset? fault) (held : o.declared < lengthBound) :
    o.value charset? name = .error (.decode name fault) := by
  have short := Nat.not_le.2 held
  cases spoiled with
  | unreadable fails => exact value_of_unread (by rw [drain, if_neg short, fails])
  | short readable early =>
    exact value_of_unread (by rw [drain, if_neg short, readable]; exact if_pos early)
  | malformed complete illegible =>
    rw [value, drainText, drain_of_isComplete complete held]
    dsimp only
    rw [illegible]
    rfl

/-- A length that no memory holds ends the work. -/
theorem value_of_long (long : lengthBound ≤ o.declared) :
    o.value charset? name = .error (.abort .lengthOutOfRange) := by
  have drained : o.drain = .error (.inl .lengthOutOfRange) := by rw [drain, if_pos long]
  cases charset? with
  | none => rw [value, drainBytes, drained]; rfl
  | some charset => rw [value, drainText, drained]; rfl

/-- **Only a complete stream gives a value,** the one it stands for. -/
theorem value_eq_ok (found : o.value charset? name = .ok v) :
    o.IsComplete ∧ o.StandsFor charset? v := by
  have held : o.declared < lengthBound := Nat.not_le.1 fun long => by
    rw [value_of_long long] at found
    cases found
  rcases o.spoiled_or_standsFor charset? with ⟨fault, spoiled⟩ | ⟨complete, w, stands⟩
  · rw [value_of_spoiled spoiled held] at found
    cases found
  · rw [value_of_standsFor stands complete held] at found
    cases found
    exact ⟨complete, stands⟩

end LargeObject

/-! ## Values of a row -/

/-- What a value of a row is decoded for: a column, or a label that names none. -/
inductive Target where
  | column (c : ColumnDef)
  | unmapped (label : String)

/-- A value of a row and what it is decoded for. -/
structure RawCell where
  target : Target
  raw : DriverValue

namespace RawCell

variable {cell : RawCell} {o : LargeObject} {charset? : Option Text.Charset} {fault : DecodeFault}
  {v : Value}

/-- The name that failures tell. -/
def name (cell : RawCell) : String :=
  match cell.target with
  | .column c => c.name
  | .unmapped label => label

def decode (cell : RawCell) : Except Error Value :=
  match cell.target with
  | .column c => EntitySql.decode cell.raw c
  | .unmapped label => decodeUntyped cell.raw label

/-- The stream of the value, and the character set if it is read as a text. -/
def stream? (cell : RawCell) : Option (LargeObject × Option Text.Charset) :=
  match cell.target, cell.raw with
  | .column c, .characters o => some (o, some c.charset)
  | .column c, .binary o => some (o, if c.prototype.isTextual then some c.charset else none)
  | .unmapped _, .characters o => some (o, some .utf8)
  | .unmapped _, .binary o => some (o, none)
  | _, _ => none

/-- The cell with a plain value in place of its own. -/
def holding (cell : RawCell) (v : Value) : RawCell := { cell with raw := .scalar v }

/-- What a stream for a column is received as. -/
theorem received_eq_value {c : ColumnDef} {raw : DriverValue}
    (stream : stream? ⟨.column c, raw⟩ = some (o, charset?)) :
    received raw c = o.value charset? c.name := by
  cases raw with
  | null => cases stream
  | scalar => cases stream
  | characters =>
    cases stream
    rfl
  | binary =>
    cases stream
    rw [received]
    split <;> rfl

theorem decodeUntyped_eq_value {label : String} {raw : DriverValue}
    (stream : stream? ⟨.unmapped label, raw⟩ = some (o, charset?)) :
    decodeUntyped raw label = o.value charset? label := by
  cases raw with
  | null => cases stream
  | scalar => cases stream
  | characters =>
    cases stream
    rfl
  | binary =>
    cases stream
    rfl

/-- **A stream is decoded as the value it stands for.** -/
theorem decode_stream (stream : cell.stream? = some (o, charset?)) :
    cell.decode = o.value charset? cell.name >>= fun v => (cell.holding v).decode := by
  obtain ⟨target, raw⟩ := cell
  cases target with
  | column c =>
    show EntitySql.decode raw c =
      o.value charset? c.name >>= fun v => EntitySql.decode (.scalar v) c
    rw [EntitySql.decode, received_eq_value stream]
    rfl
  | unmapped label =>
    show decodeUntyped raw label = o.value charset? label >>= fun v => .ok v
    rw [decodeUntyped_eq_value stream]
    cases o.value charset? label <;> rfl

/-- The value of a cell is decoded from all that its stream holds, if it is one. -/
structure UsesWhole (cell : RawCell) (v : Value) : Prop where
  decoded : cell.decode = .ok v
  whole : ∀ o charset?, cell.stream? = some (o, charset?) →
    o.IsComplete ∧ ∃ w, o.StandsFor charset? w ∧ (cell.holding w).decode = .ok v

theorem usesWhole_of_decode (decoded : cell.decode = .ok v) : cell.UsesWhole v := by
  refine ⟨decoded, fun o charset? stream => ?_⟩
  rw [decode_stream stream] at decoded
  obtain ⟨w, found, rest⟩ := bind_eq_ok.1 decoded
  obtain ⟨complete, stands⟩ := LargeObject.value_eq_ok found
  exact ⟨complete, w, stands, rest⟩

/-- A spoiled stream fails to decode, with a report unless its length exceeds every memory. -/
theorem decode_of_spoiled (stream : cell.stream? = some (o, charset?))
    (spoiled : o.Spoiled charset? fault) :
    cell.decode = .error (if o.declared < LargeObject.lengthBound then .decode cell.name fault
      else .abort .lengthOutOfRange) := by
  rw [decode_stream stream]
  split
  · rename_i held
    rw [LargeObject.value_of_spoiled spoiled held]
    rfl
  · rename_i long
    rw [LargeObject.value_of_long (Nat.not_lt.1 long)]
    rfl

end RawCell

/-! ## Values decoded one after the other -/

/-- Streams are used as a whole or not at all. What is built is built from values that use all their
streams hold; a spoiled stream makes the outcome a failure; and if everything before it is decoded,
the outcome is the failure of that stream. -/
structure StreamsWhole {α : Type} (cells : List RawCell) (build : List Value → α)
    (outcome : Except Error α) : Prop where
  whole : ∀ a, outcome = .ok a → ∃ vs, List.Forall₂ RawCell.UsesWhole cells vs ∧ a = build vs
  fails : ∀ cell ∈ cells, ∀ o charset? fault, cell.stream? = some (o, charset?) →
    o.Spoiled charset? fault → ∃ e, outcome = .error e
  reports : ∀ before cell after o charset? fault, cells = before ++ cell :: after →
    (∀ earlier ∈ before, ∃ v, earlier.decode = .ok v) → cell.stream? = some (o, charset?) →
    o.Spoiled charset? fault →
      (outcome = .error (.decode cell.name fault) ↔ o.declared < LargeObject.lengthBound) ∧
      (LargeObject.lengthBound ≤ o.declared → outcome = .error (.abort .lengthOutOfRange))

theorem streamsWhole_mapM {α : Type} (cells : List RawCell) (build : List Value → α) :
    StreamsWhole cells build ((cells.mapM RawCell.decode).map build) where
  whole a succeeded := by
    obtain ⟨vs, decoded, rfl⟩ := map_eq_ok.1 succeeded
    exact ⟨vs, (mapM_eq_ok.1 decoded).imp fun _ _ => RawCell.usesWhole_of_decode, rfl⟩
  fails cell member o charset? fault stream spoiled := by
    obtain ⟨e, failed⟩ := exists_mapM_eq_error member (RawCell.decode_of_spoiled stream spoiled)
    exact ⟨e, map_eq_error.2 failed⟩
  reports before cell after o charset? fault parts fine stream spoiled := by
    have failed : (before ++ cell :: after).mapM RawCell.decode = _ :=
      mapM_eq_error_of_first fine (RawCell.decode_of_spoiled stream spoiled)
    rw [parts, map_eq_error.2 failed]
    by_cases held : o.declared < LargeObject.lengthBound
    · rw [if_pos held]
      exact ⟨iff_of_true rfl held, fun long => absurd held (Nat.not_lt.2 long)⟩
    · rw [if_neg held]
      exact ⟨iff_of_false nofun held, fun _ => rfl⟩

/-! ## Rows, maps and single values -/

/-- The names of cells, each with a value. -/
def withNames (cells : List RawCell) (vs : List Value) : List (String × Value) :=
  (cells.map RawCell.name).zip vs

/-- The cells whose labels mean columns of a schema. -/
def meantCells (s : EntitySchema) (given : List (String × DriverValue)) : List RawCell :=
  given.filterMap fun p => (s.resolve? p.1).map fun c => ⟨.column c, p.2⟩

/-- The cells under their labels. -/
def labeledCells (given : List (String × DriverValue)) : List RawCell :=
  given.map fun p => ⟨.unmapped p.1, p.2⟩

theorem hydratePairs_eq (s : EntitySchema) (given : List (String × DriverValue)) :
    hydratePairs s given =
      ((meantCells s given).mapM RawCell.decode).map (withNames (meantCells s given)) := by
  induction given with
  | nil => rfl
  | cons p rest ih =>
    obtain ⟨label, raw⟩ := p
    cases found : s.resolve? label with
    | none =>
      have skipped : meantCells s ((label, raw) :: rest) = meantCells s rest := by
        rw [meantCells, List.filterMap_cons, found]
        rfl
      rw [hydratePairs, found, skipped, ← ih]
    | some c =>
      have taken : meantCells s ((label, raw) :: rest) = ⟨.column c, raw⟩ :: meantCells s rest := by
        rw [meantCells, List.filterMap_cons, found]
        rfl
      rw [hydratePairs, found, taken, List.mapM_cons, ih]
      show decode raw c >>= _ = (decode raw c >>= _).map _
      cases decode raw c with
      | error e => rfl
      | ok v => cases (meantCells s rest).mapM RawCell.decode <;> rfl

theorem hydrateRow_eq (s : EntitySchema) (r : RawRow) :
    hydrateRow s r = ((meantCells s r.pairs).mapM RawCell.decode).map fun vs =>
      Row.ofPairs (withNames (meantCells s r.pairs) vs) := by
  rw [hydrateRow, hydratePairs_eq]
  cases (meantCells s r.pairs).mapM RawCell.decode <;> rfl

theorem hydrateInto_eq (m : RowMap) (given : List (String × DriverValue)) :
    hydrateInto m given =
      ((labeledCells (given.filter fun p => !isRowNumber p.1)).mapM RawCell.decode).map fun vs =>
        m.publishAll (withNames (labeledCells (given.filter fun p => !isRowNumber p.1)) vs) := by
  induction given generalizing m with
  | nil => rfl
  | cons p rest ih =>
    obtain ⟨label, raw⟩ := p
    cases number : isRowNumber label with
    | true =>
      rw [hydrateInto, if_pos number, ih, List.filter_cons_of_neg (by simp [number])]
    | false =>
      rw [hydrateInto, if_neg (Bool.eq_false_iff.1 number),
        List.filter_cons_of_pos (by simp [number])]
      simp only [ih]
      generalize rest.filter (fun p => !isRowNumber p.1) = others
      have first : labeledCells ((label, raw) :: others) =
          ⟨.unmapped label, raw⟩ :: labeledCells others := List.map_cons
      rw [first, List.mapM_cons]
      show decodeUntyped raw label >>= _ = (decodeUntyped raw label >>= _).map _
      cases decodeUntyped raw label with
      | error e => rfl
      | ok v => cases (labeledCells others).mapM RawCell.decode <;> rfl

theorem hydrateScalar_eq (r : RawRow) :
    hydrateScalar r = ((labeledCells (r.pairs.take 1)).mapM RawCell.decode).map fun vs =>
      vs.headD .null := by
  rw [hydrateScalar]
  cases r.pairs with
  | nil => rfl
  | cons p rest =>
    obtain ⟨label, raw⟩ := p
    rw [List.take_succ_cons, List.take_zero, labeledCells, List.map_singleton, List.mapM_cons,
      List.mapM_nil]
    show decodeUntyped raw label = (decodeUntyped raw label >>= _).map _
    cases decodeUntyped raw label <;> rfl

/-- **Streams of a row are used as a whole or not at all,** whether the row becomes a row of an
entity, a map or its first value. When hydration succeeds, each value is decoded from all bytes of a
complete stream, as bytes or as the text they are. When a stream that is decoded fails, ends early
or is no text where a text is read, hydration fails. If everything before it is decoded, the failure
names that stream and why it is spoiled, unless it declares more than every memory holds. -/
theorem hydrate_streams (s : EntitySchema) (r : RawRow) :
    StreamsWhole (meantCells s r.pairs)
        (fun vs => Row.ofPairs (withNames (meantCells s r.pairs) vs)) (hydrateRow s r) ∧
      StreamsWhole (labeledCells r.published)
        (fun vs => RowMap.publishAll ⟨[]⟩ (withNames (labeledCells r.published) vs))
        (hydrateMap r) ∧
      StreamsWhole (labeledCells (r.pairs.take 1)) (fun vs => vs.headD .null)
        (hydrateScalar r) := by
  rw [hydrateRow_eq, hydrateMap, hydrateInto_eq, hydrateScalar_eq]
  exact ⟨streamsWhole_mapM _ _, streamsWhole_mapM _ _, streamsWhole_mapM _ _⟩

/-- A stream of two bytes that declares more than any memory holds has ended early, but nothing is
reported of it. -/
theorem hydrate_streams_vastLength :
    LargeObject.Spoiled ⟨[1, 2], 2 ^ 63, none⟩ none (.bytes (.short 2 (2 ^ 63))) ∧
      hydrateMap ⟨["DATA"], [.binary ⟨[1, 2], 2 ^ 63, none⟩]⟩ =
        .error (.abort .lengthOutOfRange) :=
  ⟨.short rfl (by decide), rfl⟩

end EntitySql
