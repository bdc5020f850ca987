import EntitySql.Proofs.Entity.Reading
import EntitySql.Proofs.Row.Names

/-!
# Records inserted and hydrated

The insertion of a record names every column of its entity, inherited ones first, and binds the
value of each cell for its column. A driver row with the names the insertion has written and the
values so bound is hydrated to the record restored, or not at all (`insert_hydrate`).

**Names.** A label is looked up as a field before it is looked up as a column. So no field may be
called like another column; otherwise a value lands under the wrong one.

**Values.** Every column has to be able to represent the member kept in it. Members that are not
kept have no cell; they have their default after reading.

**Milliseconds.** A column of milliseconds makes a moment of a number before it looks at the kind of
its field. Where it does not give back the member kept in it, the row is not hydrated.
-/

namespace EntitySql

set_option autoImplicit false

open Outcome

/-! ## The columns of a record -/

/-- The column is that of the cell, at some place of a schema. -/
def Cell.KeptIn (cell : Cell) (c : ColumnDef) : Prop := ∃ n, c = cell.column.toColumnDef n

theorem Members.keptIn_descriptors : ∀ (ms : Members) (own : ms.Own) (n : Nat),
    List.Forall₂ Cell.KeptIn (ms.cells own) (descriptors n ms.columnFields)
  | .nil, _, _ => .nil
  | .column _ rest, (_, own), n => .cons ⟨n, rfl⟩ (rest.keptIn_descriptors own (n + 1))
  | .inherit _ _ rest, own, n => rest.keptIn_descriptors own n
  | .skip _ _ _ rest, own, n => rest.keptIn_descriptors own n

mutual
/-- The cells of a record are those of the columns of its entity, inherited ones first. -/
theorem Declared.keptIn_columns : ∀ (d : Declared) (e : d.Record),
    List.Forall₂ Cell.KeptIn (d.cells e) (d.inherited ++ d.members.columns)
  | ⟨_, _, members⟩, e =>
    List.rel_append (members.keptIn_inherited e) (members.keptIn_descriptors (members.own e) 0)

theorem Members.keptIn_inherited : ∀ (ms : Members) (e : ms.Record),
    List.Forall₂ Cell.KeptIn (ms.inheritedCells e) ms.inherited
  | .nil, _ => .nil
  | .column _ rest, (_, others) => rest.keptIn_inherited others
  | .inherit _ base rest, (b, others) =>
    List.rel_append (base.keptIn_columns b) (rest.keptIn_inherited others)
  | .skip _ _ _ rest, (_, others) => rest.keptIn_inherited others
end

theorem keptIn_numbered {cells : List Cell} {columns : List ColumnDef}
    (kept : List.Forall₂ Cell.KeptIn cells columns) (n : Nat) :
    List.Forall₂ Cell.KeptIn cells (numbered n columns) := by
  induction kept generalizing n with
  | nil => exact .nil
  | cons first _ ih =>
    obtain ⟨m, rfl⟩ := first
    exact .cons ⟨n, rfl⟩ (ih (n + 1))

theorem EntitySchema.columns_of_ofColumns {typeName : String} {table : TableRef}
    {columns : List ColumnDef} {s : EntitySchema}
    (built : EntitySchema.ofColumns typeName table columns = .ok s) : s.columns = columns := by
  unfold ofColumns at built
  split at built
  · cases built
  · split at built
    · cases built
    · cases built
      rfl

/-- The schema of an entity has the columns of the cells of its records. -/
theorem Declared.keptIn_schema {d : Declared} {s : EntitySchema} (built : d.toEntity.schema = .ok s)
    (e : d.Record) : List.Forall₂ Cell.KeptIn (d.cells e) s.columns := by
  rw [EntitySchema.columns_of_ofColumns built]
  exact keptIn_numbered (d.keptIn_columns e) 0

theorem map_key_eq {cells : List Cell} {columns : List ColumnDef}
    (kept : List.Forall₂ Cell.KeptIn cells columns) :
    cells.map Cell.key = columns.map fun c => Text.lowerAscii c.name := by
  induction kept with
  | nil => rfl
  | cons first _ ih =>
    obtain ⟨n, rfl⟩ := first
    exact congrArg (_ :: ·) ih

/-! ## The row of a record inserted -/

/-- What a row gives the columns of cells is the values of their members. -/
theorem labeled_cells {r : Row} {cells : List Cell} {columns : List ColumnDef}
    (kept : List.Forall₂ Cell.KeptIn cells columns)
    (values : ∀ cell ∈ cells,
      r.value? cell.column.name = some (cell.column.type.toValue cell.member)) :
    (EntitySchema.labeled r columns).map Prod.fst = columns ∧
      List.Forall₂ (fun cell p => cell.KeptIn p.1 ∧ p.2 = cell.column.type.toValue cell.member)
        cells (EntitySchema.labeled r columns) := by
  induction kept with
  | nil => exact ⟨rfl, .nil⟩
  | @cons cell c cells columns first _ ih =>
    obtain ⟨value, others⟩ := List.forall_mem_cons.1 values
    obtain ⟨fsts, each⟩ := ih others
    have found : r.value? c.name = some (cell.column.type.toValue cell.member) := by
      obtain ⟨n, rfl⟩ := first
      exact value
    rw [EntitySchema.labeled_cons, found]
    exact ⟨congrArg (c :: ·) fsts, .cons ⟨first, rfl⟩ each⟩

theorem map_snd_eq {cells : List Cell} {inserted : List (ColumnDef × Value)}
    (each : List.Forall₂
      (fun cell p => cell.KeptIn p.1 ∧ p.2 = cell.column.type.toValue cell.member)
      cells inserted) :
    inserted.map Prod.snd = cells.map fun cell => cell.column.type.toValue cell.member := by
  induction each with
  | nil => rfl
  | cons first _ ih => rw [List.map_cons, List.map_cons, ih, first.2]

/-! ## Hydrating what has been bound -/

theorem hydratePairs_cons_iff {s : EntitySchema} {label : String} {c : ColumnDef}
    {raw : DriverValue} {rest : List (String × DriverValue)} {kept : List (String × Value)}
    (meant : s.resolve? label = some c) :
    hydratePairs s ((label, raw) :: rest) = .ok kept ↔
      ∃ v others, decode raw c = .ok v ∧ hydratePairs s rest = .ok others ∧
        kept = (c.name, v) :: others := by
  simp only [hydratePairs, meant, bind_eq_ok, pure_eq_ok]
  constructor
  · rintro ⟨v, decoded, others, hydrated, rfl⟩
    exact ⟨v, others, decoded, hydrated, rfl⟩
  · rintro ⟨v, others, decoded, hydrated, rfl⟩
    exact ⟨v, decoded, others, hydrated, rfl⟩

/-- **Hydrating what has been bound.** It succeeds when every column gives back the member kept in
it. Then each value lands under the name of its column and reads as that member. -/
theorem hydratePairs_inserted {binder : Dialect} {s : EntitySchema} {cells : List Cell}
    {inserted : List (ColumnDef × Value)} {raws : List DriverValue}
    (each : List.Forall₂
      (fun cell p => cell.KeptIn p.1 ∧ p.2 = cell.column.type.toValue cell.member) cells inserted)
    (meant : ∀ p ∈ inserted, s.resolve? p.1.name = some p.1 ∧ p.1.converter = none)
    (fits : ∀ cell ∈ cells, cell.column.type.Fits cell.column cell.member)
    (bound : List.Forall₂ (fun p raw => bind binder (.forColumn p.2 p.1) = .ok raw) inserted raws)
    (short : ∀ raw ∈ raws, ∀ o, raw.stream? = some o → o.declared < LargeObject.lengthBound) :
    ((∃ kept, hydratePairs s ((inserted.map fun p => p.1.name).zip raws) = .ok kept) ↔
        ∀ cell ∈ cells, cell.column.type.GivenBack cell.column cell.member) ∧
      ∀ kept, hydratePairs s ((inserted.map fun p => p.1.name).zip raws) = .ok kept →
        List.Forall₂ (fun cell q => q.1 = cell.column.name ∧
          ∃ y, cell.column.type.ofValue q.2 = .ok y ∧ cell.column.type.Same cell.member y)
          cells kept := by
  induction each generalizing raws with
  | nil =>
    refine ⟨⟨fun _ => List.forall_mem_nil _, fun _ => ⟨[], rfl⟩⟩, fun kept hydrated => ?_⟩
    cases hydrated
    exact .nil
  | @cons cell p cells inserted first _ ih =>
    cases bound with
    | @cons _ raw _ raws one others =>
      obtain ⟨⟨resolved, free⟩, meant⟩ := List.forall_mem_cons.1 meant
      obtain ⟨fit, fits⟩ := List.forall_mem_cons.1 fits
      obtain ⟨brief, short⟩ := List.forall_mem_cons.1 short
      obtain ⟨succeeds, reads⟩ := ih meant fits others short
      obtain ⟨c, v⟩ := p
      obtain ⟨⟨n, rfl⟩, rfl⟩ := first
      have step : ∀ {kept}, hydratePairs s
          (((_, _) :: inserted).map (fun p : ColumnDef × Value => p.1.name) |>.zip (raw :: raws)) =
            .ok kept ↔ _ :=
        hydratePairs_cons_iff resolved
      constructor
      · rw [List.forall_mem_cons, ← succeeds]
        constructor
        · rintro ⟨_, hydrated⟩
          obtain ⟨w, kept, decoded, landed, rfl⟩ := step.1 hydrated
          exact ⟨cell.column.type.givenBack_of_decode free cell.member rfl fit one decoded,
            kept, landed⟩
        · rintro ⟨given, kept, hydrated⟩
          obtain ⟨w, _, decoded, _⟩ :=
            cell.column.type.exists_decode free cell.member rfl fit given one brief
          exact ⟨_, step.2 ⟨w, kept, decoded, hydrated, rfl⟩⟩
      · intro kept hydrated
        obtain ⟨w, kept, decoded, landed, rfl⟩ := step.1 hydrated
        exact .cons ⟨rfl, FieldType.reads_of_decode free rfl fit one brief decoded⟩
          (reads kept landed)

/-- Values that stand cell by cell under the names of their columns are found there. -/
theorem found_of_reads {cells : List Cell} {kept : List (String × Value)}
    (reads : List.Forall₂ (fun cell q => q.1 = cell.column.name ∧
      ∃ y, cell.column.type.ofValue q.2 = .ok y ∧ cell.column.type.Same cell.member y)
      cells kept) :
    kept.map (fun q => Text.lowerAscii q.1) = cells.map Cell.key ∧
      ∀ cell ∈ cells, cell.FoundIn kept := by
  induction reads with
  | nil => exact ⟨rfl, List.forall_mem_nil _⟩
  | @cons cell q cells kept first _ ih =>
    obtain ⟨labels, found⟩ := ih
    obtain ⟨label, y, read, same⟩ := first
    obtain ⟨name, w⟩ := q
    cases label
    refine ⟨congrArg (_ :: ·) labels, List.forall_mem_cons.2
      ⟨⟨w, y, List.mem_cons_self, read, same⟩, fun other member => ?_⟩⟩
    obtain ⟨v, z, present, read, same⟩ := found other member
    exact ⟨v, z, List.mem_cons_of_mem _ present, read, same⟩

/-- No field is called like another column, in whatever case. -/
def EntitySchema.Straight (s : EntitySchema) : Prop :=
  ∀ a ∈ s.columns, ∀ b ∈ s.columns,
    Text.lowerAscii a.field = Text.lowerAscii b.name →
      Text.lowerAscii a.name = Text.lowerAscii b.name

/-- Then the name of a column means that column. -/
theorem EntitySchema.resolve?_of_straight {s : EntitySchema} {c : ColumnDef}
    (straight : s.Straight) (column : c ∈ s.columns) : s.resolve? c.name = some c := by
  rw [resolve?_name_eq_some_iff column, crosses, List.any_eq_false]
  intro a member crossing
  rw [Bool.and_eq_true, beq_iff_eq, bne_iff_ne] at crossing
  obtain ⟨field, otherwise⟩ := crossing
  exact otherwise (straight a member c column (congrArg _ field))

/-- A driver row is hydrated by its columns and then read as a record. -/
theorem Declared.hydrate_eq_ok_iff {d : Declared} {s : EntitySchema}
    (built : d.toEntity.schema = .ok s) {r : RawRow} {e : d.Record} :
    d.toEntity.hydrate r = .ok e ↔
      ∃ kept, hydratePairs s r.pairs = .ok kept ∧ d.ofRow (Row.ofPairs kept) = .ok e := by
  rw [Entity.hydrate, built]
  show (hydrateRow s r >>= d.ofRow) = .ok e ↔ _
  constructor
  · intro hydrated
    obtain ⟨row, landed, read⟩ := bind_eq_ok.1 hydrated
    obtain ⟨kept, hydrated, rfl⟩ := hydrateRow_eq_ok_iff.1 landed
    exact ⟨kept, hydrated, read⟩
  · rintro ⟨kept, hydrated, read⟩
    exact bind_eq_ok.2 ⟨_, hydrateRow_eq_ok_iff.2 ⟨kept, hydrated, rfl⟩, read⟩

/-- The row of a record has the value of each member under the name of its column. -/
theorem Declared.value?_toRow {d : Declared} {e : d.Record}
    (keys : ((d.cells e).map Cell.key).Nodup) {cell : Cell} (member : cell ∈ d.cells e) :
    (d.toRow e).value? cell.column.name = some (cell.column.type.toValue cell.member) := by
  rw [toRow, d.pairs_eq e]
  refine (Row.value?_eq_some_iff (Row.isClearAt_of_nodup ?_ _)).2
    ⟨_, ?_, eqIgnoringCase_iff.2 rfl⟩
  · rw [Row.pairs_ofPairs, List.map_map]
    exact keys
  · rw [Row.pairs_ofPairs]
    exact List.mem_map_of_mem member

/-- Values that read cell by cell as the members of a record are read as that record restored. -/
theorem Declared.exists_ofRow_of_reads {d : Declared} {e : d.Record}
    (keys : ((d.cells e).map Cell.key).Nodup) {kept : List (String × Value)}
    (reads : List.Forall₂ (fun cell q => q.1 = cell.column.name ∧
      ∃ y, cell.column.type.ofValue q.2 = .ok y ∧ cell.column.type.Same cell.member y)
      (d.cells e) kept) :
    ∃ e', d.ofRow (Row.ofPairs kept) = .ok e' ∧ d.Restored e e' := by
  obtain ⟨labels, found⟩ := found_of_reads reads
  have distinct : ((Row.ofPairs kept).pairs.map fun q => Text.lowerAscii q.1).Nodup := by
    rw [Row.pairs_ofPairs, labels]
    exact keys
  rw [← Row.pairs_ofPairs kept] at found
  exact d.exists_ofRow distinct e keys found

/-- **A record inserted and hydrated is restored, or not hydrated.** The insertion writes the names
of all columns of the entity, those it inherits included, and binds the value of each member for its
column. A driver row with these names and the values so bound is hydrated when every column gives
back the member kept in it, and then to a record with the same members in columns and defaults for
the others, as long as no field is called like another column, no column has a converter, and every
column can represent the member kept in it. -/
theorem insert_hydrate (writer binder : Dialect) {d : Declared} {s : EntitySchema}
    (built : d.toEntity.schema = .ok s) (straight : s.Straight)
    (free : ∀ c ∈ s.columns, c.converter = none) (e : d.Record)
    (fits : ∀ cell ∈ d.cells e, cell.column.type.Fits cell.column cell.member) :
    ∃ inserted statement, s.compileInsert writer (d.toRow e) = .ok statement ∧
      EntitySchema.Inserts writer s inserted statement ∧
      inserted.map Prod.fst = s.columns ∧
      inserted.map Prod.snd =
        (d.cells e).map (fun cell => cell.column.type.toValue cell.member) ∧
      ∀ raws, statement.parameters.mapM (bind binder) = .ok raws →
        (∀ raw ∈ raws, ∀ o, raw.stream? = some o → o.declared < LargeObject.lengthBound) →
        ((∃ e', d.toEntity.hydrate ⟨inserted.map fun p => p.1.name, raws⟩ = .ok e') ↔
            ∀ cell ∈ d.cells e, cell.column.type.GivenBack cell.column cell.member) ∧
          ∀ e', d.toEntity.hydrate ⟨inserted.map fun p => p.1.name, raws⟩ = .ok e' →
            d.Restored e e' := by
  have kept := d.keptIn_schema built e
  have keys : ((d.cells e).map Cell.key).Nodup := by
    rw [map_key_eq kept]
    exact s.names_nodup
  have full : (d.toRow e).labels.length = (d.toRow e).values.length := by
    rw [Declared.toRow, Row.ofPairs, List.length_map, List.length_map]
  obtain ⟨columns, each⟩ := labeled_cells kept fun _ => Declared.value?_toRow keys
  have some_column : EntitySchema.labeled (d.toRow e) s.columns ≠ [] := by
    intro none
    rw [none] at columns
    exact s.columns_ne_nil columns.symm
  obtain ⟨statement, compiled, inserts⟩ :=
    EntitySchema.exists_inserts (d := writer) full some_column
  generalize EntitySchema.labeled (d.toRow e) s.columns = inserted at columns each inserts
  have meant : ∀ p ∈ inserted, s.resolve? p.1.name = some p.1 ∧ p.1.converter = none := by
    intro p member
    have column : p.1 ∈ s.columns := columns ▸ List.mem_map_of_mem member
    exact ⟨EntitySchema.resolve?_of_straight straight column, free _ column⟩
  refine ⟨inserted, statement, compiled, inserts, columns, map_snd_eq each,
    fun raws bound short => ?_⟩
  rw [inserts.parameters, EntitySchema.columnPairs, mapM_eq_ok, List.forall₂_map_left_iff] at bound
  obtain ⟨succeeds, reads⟩ := hydratePairs_inserted each meant fits bound short
  have hydrates : ∀ e', d.toEntity.hydrate ⟨inserted.map fun p => p.1.name, raws⟩ = .ok e' ↔
      ∃ kept, hydratePairs s ((inserted.map fun p => p.1.name).zip raws) = .ok kept ∧
        d.ofRow (Row.ofPairs kept) = .ok e' := fun _ => Declared.hydrate_eq_ok_iff built
  rw [← succeeds]
  constructor
  · constructor
    · rintro ⟨e', hydrated⟩
      obtain ⟨kept, landed, _⟩ := (hydrates e').1 hydrated
      exact ⟨kept, landed⟩
    · rintro ⟨kept, landed⟩
      obtain ⟨e', read, _⟩ := Declared.exists_ofRow_of_reads keys (reads kept landed)
      exact ⟨e', (hydrates e').2 ⟨kept, landed, read⟩⟩
  · intro e' hydrated
    obtain ⟨kept, landed, read⟩ := (hydrates e').1 hydrated
    obtain ⟨_, found, same⟩ := Declared.exists_ofRow_of_reads keys (reads kept landed)
    cases read.symm.trans found
    exact same

/-! ## Two entities -/

/-- A field of a type under a storage, and nothing else declared. -/
def ColumnField.stored (field name : String) (type : FieldType) (storage : Storage)
    (key : KeyRole) : ColumnField where
  field := field
  type := type
  name := name
  storage := storage
  key := key
  charset := .utf8
  scale := none
  precision := none
  converter := none

/-- A person has a number. -/
def personEntity : Declared where
  typeName := "Person"
  table := ⟨"PERSON", ""⟩
  members := .column (.stored "id" "ID" (.primitive (.int .int64)) .plain .whole) .nil

/-- An account is a person with the time of the last login, in milliseconds, texts of which some
may be absent, and texts that are not kept. -/
def accountEntity : Declared where
  typeName := "Account"
  table := ⟨"ACCOUNT", ""⟩
  members :=
    .inherit "person" personEntity
      (.column (.stored "lastLogin" "LAST_LOGIN" (.option (.primitive .zoned)) .longDate .outside)
        (.column (.stored "notes" "NOTES" (.list (.option (.primitive .text))) .plain .outside)
          (.skip "cache" (List String) [] .nil)))

def accountSample : accountEntity.Record :=
  ((.clamp .int64 7, ()), some loginSample, [some "new", none], ["seen"], ())

def accountSchema : EntitySchema where
  typeName := "Account"
  table := ⟨"ACCOUNT", ""⟩
  columns := numbered 0 (accountEntity.inherited ++ accountEntity.members.columns)
  columns_ne_nil := List.cons_ne_nil _ _
  fields_nodup := by decide
  names_nodup := by decide

theorem fits_accountSample : ∀ cell ∈ accountEntity.cells accountSample,
    cell.column.type.Fits cell.column cell.member := by
  refine List.forall_mem_cons.2 ⟨?_, List.forall_mem_cons.2 ⟨⟨rfl, ?_⟩,
    List.forall_mem_cons.2 ⟨?_, List.forall_mem_nil _⟩⟩⟩
  · exact { digits := trivial, unrounded := nofun, whole := nofun, uninterpreted := nofun }
  · exact { digits := trivial, unrounded := nofun, whole := fun _ => rfl, uninterpreted := nofun }
  · exact List.forall_mem_cons.2 ⟨⟨rfl, trivial⟩,
      List.forall_mem_cons.2 ⟨trivial, List.forall_mem_nil _⟩⟩

theorem givenBack_accountSample : ∀ cell ∈ accountEntity.cells accountSample,
    cell.column.type.GivenBack cell.column cell.member := by
  refine List.forall_mem_cons.2 ⟨?_, List.forall_mem_cons.2 ⟨?_,
    List.forall_mem_cons.2 ⟨trivial, List.forall_mem_nil _⟩⟩⟩
  · intro long
    cases long
  · intro _ plain
    cases plain

theorem insert_hydrate_accountSample :
    ∃ inserted statement raws e',
      accountSchema.compileInsert .mysql (accountEntity.toRow accountSample) = .ok statement ∧
      EntitySchema.Inserts .mysql accountSchema inserted statement ∧
      statement.parameters.mapM (bind .oracle) = .ok raws ∧
      accountEntity.toEntity.hydrate ⟨inserted.map fun p => p.1.name, raws⟩ = .ok e' ∧
      accountEntity.Restored accountSample e' := by
  obtain ⟨inserted, statement, compiled, inserts, _, _, back⟩ :=
    insert_hydrate .mysql .oracle (d := accountEntity) (s := accountSchema) rfl
      (by unfold EntitySchema.Straight; decide) (by decide) accountSample fits_accountSample
  obtain rfl := Except.ok.inj compiled
  obtain ⟨succeeds, restored⟩ := back _ rfl (by decide)
  obtain ⟨e', hydrated⟩ := succeeds.2 givenBack_accountSample
  exact ⟨inserted, _, _, e', compiled, inserts, rfl, hydrated, restored e' hydrated⟩

/-- A meter keeps the milliseconds it has run, a narrow number. -/
def meterEntity : Declared where
  typeName := "Meter"
  table := ⟨"METER", ""⟩
  members :=
    .column (.stored "elapsed" "ELAPSED" (.primitive (.int .int32)) .longDate .outside) .nil

def meterSchema : EntitySchema where
  typeName := "Meter"
  table := ⟨"METER", ""⟩
  columns := numbered 0 (meterEntity.inherited ++ meterEntity.members.columns)
  columns_ne_nil := List.cons_ne_nil _ _
  fields_nodup := by decide
  names_nodup := by decide

/-- Five milliseconds are inserted and bound as they are, but read as a moment, which is no
number. -/
theorem insert_hydrate_meterSample :
    meterEntity.toEntity.schema = .ok meterSchema ∧ meterSchema.Straight ∧
      (∀ c ∈ meterSchema.columns, c.converter = none) ∧
      (∀ cell ∈ meterEntity.cells (⟨5, by decide, by decide⟩, ()),
        cell.column.type.Fits cell.column cell.member) ∧
      ∃ statement raws cause,
        meterSchema.compileInsert .generic
            (meterEntity.toRow (⟨5, by decide, by decide⟩, ())) = .ok statement ∧
        statement.sql = "INSERT INTO METER (ELAPSED) VALUES (?)" ∧
        statement.parameters.mapM (bind .generic) = .ok raws ∧
        meterEntity.toEntity.hydrate ⟨["ELAPSED"], raws⟩ = .error cause := by
  refine ⟨rfl, by unfold EntitySchema.Straight; decide, by decide, ?_,
    _, _, _, rfl, rfl, rfl, rfl⟩
  refine List.forall_mem_cons.2 ⟨?_, List.forall_mem_nil _⟩
  exact { digits := trivial, unrounded := nofun, whole := fun _ => trivial,
          uninterpreted := nofun }

end EntitySql
