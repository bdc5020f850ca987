import EntitySql.Marshal.Hydrate
import EntitySql.Proofs.Outcome
import Mathlib.Data.String.Basic

/-!
# What a map holds under a key

A row becomes a map column by column. Each column puts its value under all its keys, in place of
what stood there, so a key holds the value of the last column it is a key of, and no key is held
that no column has (`RowMap.get?_publishAll`).

A label is a key of its own column. It holds the value of that column as long as no later column
has the label among the forms of its own label: the camel-case, the upper-case or the lower-case
one. A later column that has it takes the label over (`hydrateMap_holds`).
-/

namespace EntitySql

set_option autoImplicit false

namespace RowMap

variable {m : RowMap} {columns : List (String × Value)} {key label : String} {v : Value}

/-! ## Values under keys -/

/-- The forms of a label under which its value is published beside the label itself. -/
def formsOf (label : String) : List String :=
  [Text.camelCase label, Text.toUpper label, Text.toLower label]

theorem mem_keysOf_iff : key ∈ keysOf label ↔ key ∈ formsOf label ∨ key = label := by
  simp [keysOf, formsOf, or_assoc]

/-- What is put under a key is found there; other keys are not touched. -/
theorem get?_insert (m : RowMap) (key : String) (v : Value) (k : String) :
    (m.insert key v).get? k = if k = key then some v else m.get? k := by
  obtain ⟨entries⟩ := m
  show ((put key v entries).find? fun entry => entry.1 == k).map Prod.snd =
    if k = key then some v else (entries.find? fun entry => entry.1 == k).map Prod.snd
  induction entries with
  | nil =>
    rw [put, List.find?_singleton]
    by_cases same : k = key
    · simp [same]
    · simp [same, Ne.symm same]
  | cons entry rest ih =>
    obtain ⟨held, w⟩ := entry
    rw [put]
    split
    · next replaced =>
      subst replaced
      by_cases same : k = held
      · simp [same]
      · simp [same, Ne.symm same]
    · next apart =>
      split
      · by_cases here : held = k
        · subst here
          simp [apart]
        · rw [List.find?_cons_of_neg (by simpa using here),
            List.find?_cons_of_neg (by simpa using here), ih]
      · by_cases same : k = key
        · simp [same]
        · simp [same, Ne.symm same]

theorem get?_insertAll (keys : List String) (v : Value) (k : String) (m : RowMap) :
    (keys.foldl (fun m key => m.insert key v) m).get? k =
      if k ∈ keys then some v else m.get? k := by
  induction keys generalizing m with
  | nil => simp
  | cons key rest ih =>
    rw [List.foldl_cons, ih, get?_insert]
    by_cases later : k ∈ rest
    · simp [later]
    · by_cases here : k = key <;> simp [later, here]

/-- The map with the values of columns under all their keys, one column after the other. -/
def publishAll (m : RowMap) (columns : List (String × Value)) : RowMap :=
  columns.foldl (fun m q => m.publish q.1 q.2) m

/-- The value of the last of the columns that have the key. -/
def lastUnder : List (String × Value) → (key : String) → Option Value
  | [], _ => none
  | q :: rest, key => (lastUnder rest key).or (if key ∈ keysOf q.1 then some q.2 else none)

/-- **A key holds the value of the last column that has it.** -/
theorem get?_publishAll (columns : List (String × Value)) (m : RowMap) (key : String) :
    (m.publishAll columns).get? key = (lastUnder columns key).or (m.get? key) := by
  induction columns generalizing m with
  | nil => rfl
  | cons q rest ih =>
    show ((m.publish q.1 q.2).publishAll rest).get? key = _
    rw [ih, publish, get?_insertAll, lastUnder, Option.or_assoc]
    split <;> rfl

theorem lastUnder_append (before after : List (String × Value)) (key : String) :
    lastUnder (before ++ after) key = (lastUnder after key).or (lastUnder before key) := by
  induction before with
  | nil => exact (Option.or_none).symm
  | cons q rest ih => rw [List.cons_append, lastUnder, ih, lastUnder, Option.or_assoc]

theorem lastUnder_eq_none_iff : lastUnder columns key = none ↔ ∀ q ∈ columns, key ∉ keysOf q.1 := by
  induction columns with
  | nil => simp [lastUnder]
  | cons q rest ih => simp [lastUnder, ih, and_comm]

theorem exists_of_lastUnder (found : lastUnder columns key = some v) :
    ∃ q ∈ columns, key ∈ keysOf q.1 ∧ q.2 = v := by
  induction columns with
  | nil => cases found
  | cons q rest ih =>
    rw [lastUnder, Option.or_eq_some_iff] at found
    rcases found with later | ⟨-, here⟩
    · obtain ⟨p, member, has⟩ := ih later
      exact ⟨p, List.mem_cons_of_mem _ member, has⟩
    · split at here
      · next has => exact ⟨q, List.mem_cons_self, has, Option.some.inj here⟩
      · cases here

/-- **A label is left to its own column** as long as it is no form of a later label, since later
labels differ from it. -/
theorem lastUnder_label_iff {before after : List (String × Value)}
    (distinct : ((before ++ (label, v) :: after).map Prod.fst).Nodup) :
    lastUnder (before ++ (label, v) :: after) label = some v ↔
      (∀ q ∈ after, label ∉ formsOf q.1) ∨ lastUnder after label = some v := by
  rw [List.map_append, List.map_cons] at distinct
  have apart : ∀ q ∈ after, label ≠ q.1 := fun q member same =>
    (List.nodup_cons.1 (List.nodup_append.1 distinct).2.1).1
      (List.mem_map.2 ⟨q, member, same.symm⟩)
  have free : (∀ q ∈ after, label ∉ formsOf q.1) ↔ lastUnder after label = none := by
    rw [lastUnder_eq_none_iff]
    refine forall₂_congr fun q member => not_congr ?_
    rw [mem_keysOf_iff, or_iff_left (apart q member)]
  rw [lastUnder_append, lastUnder, if_pos (mem_keysOf_iff.2 (.inr rfl)), free]
  cases lastUnder after label <;> simp

/-! ## The order of the entries -/

/-- The entries stand in increasing order of their keys. -/
def IsOrdered (m : RowMap) : Prop := m.entries.Pairwise fun p q => p.1 < q.1

theorem mem_put {key : String} {v : Value} {entries : List (String × Value)}
    {q : String × Value} (member : q ∈ put key v entries) : q = (key, v) ∨ q ∈ entries := by
  induction entries with
  | nil => exact .inl (List.mem_singleton.1 member)
  | cons entry rest ih =>
    rw [put] at member
    split at member
    · exact (List.mem_cons.1 member).imp_right (List.mem_cons_of_mem _)
    · split at member
      · rcases List.mem_cons.1 member with rfl | member
        · exact .inr List.mem_cons_self
        · exact (ih member).imp_right (List.mem_cons_of_mem _)
      · exact List.mem_cons.1 member

theorem IsOrdered.insert (ordered : m.IsOrdered) (key : String) (v : Value) :
    (m.insert key v).IsOrdered := by
  obtain ⟨entries⟩ := m
  show (put key v entries).Pairwise fun p q => p.1 < q.1
  replace ordered : entries.Pairwise fun p q => p.1 < q.1 := ordered
  induction entries with
  | nil => exact List.pairwise_singleton _ _
  | cons entry rest ih =>
    obtain ⟨held, w⟩ := entry
    obtain ⟨least, others⟩ := List.pairwise_cons.1 ordered
    rw [put]
    split
    · next replaced =>
      subst replaced
      exact List.pairwise_cons.2 ⟨least, others⟩
    · next apart =>
      split
      · next before =>
        refine List.pairwise_cons.2 ⟨fun q member => ?_, ih others⟩
        rcases mem_put member with rfl | member
        · exact before
        · exact least q member
      · next behind =>
        have below : key < held := (lt_trichotomy held key).elim (absurd · behind)
          fun rest => rest.resolve_left apart
        refine List.pairwise_cons.2 ⟨fun q member => ?_, ordered⟩
        rcases List.mem_cons.1 member with rfl | member
        · exact below
        · exact below.trans (least q member)

theorem IsOrdered.publish (ordered : m.IsOrdered) (label : String) (v : Value) :
    (m.publish label v).IsOrdered := by
  rw [RowMap.publish]
  induction keysOf label generalizing m with
  | nil => exact ordered
  | cons key rest ih => exact ih (ordered.insert key v)

theorem IsOrdered.publishAll (ordered : m.IsOrdered) (columns : List (String × Value)) :
    (m.publishAll columns).IsOrdered := by
  induction columns generalizing m with
  | nil => exact ordered
  | cons q rest ih => exact ih (ordered.publish q.1 q.2)

/-- In ordered entries each key is held once. -/
theorem IsOrdered.mem_entries_iff (ordered : m.IsOrdered) :
    (key, v) ∈ m.entries ↔ m.get? key = some v := by
  obtain ⟨entries⟩ := m
  show (key, v) ∈ entries ↔ (entries.find? fun entry => entry.1 == key).map Prod.snd = some v
  replace ordered : entries.Pairwise fun p q => p.1 < q.1 := ordered
  induction entries with
  | nil => simp
  | cons entry rest ih =>
    obtain ⟨held, w⟩ := entry
    obtain ⟨least, others⟩ := List.pairwise_cons.1 ordered
    rw [List.mem_cons]
    by_cases here : held = key
    · subst here
      have alone : (held, v) ∉ rest := fun member => lt_irrefl held (least _ member)
      simp [alone, eq_comm]
    · have elsewhere : ¬(key, v) = (held, w) := fun same => here (congrArg Prod.fst same).symm
      rw [List.find?_cons_of_neg (by simpa using here)]
      exact (or_iff_right elsewhere).trans (ih others)

end RowMap

/-! ## Rows as maps -/

namespace RawRow

/-- The labeled values of a row but for the row number that paging adds. -/
def published (r : RawRow) : List (String × DriverValue) :=
  r.pairs.filter fun p => !isRowNumber p.1

theorem nodup_published {r : RawRow} (distinct : r.labels.Nodup) :
    (r.published.map Prod.fst).Nodup := by
  have labels : (r.pairs.map Prod.fst).Nodup := by
    rw [pairs, List.zip_eq_zip_take_min, List.map_fst_zip (by simp)]
    exact distinct.sublist (List.take_sublist _ _)
  exact labels.sublist (List.filter_sublist.map _)

end RawRow

/-- The value of a column is the driver value decoded under its own label. -/
def DecodesTo (given : String × DriverValue) (column : String × Value) : Prop :=
  column.1 = given.1 ∧ decodeUntyped given.2 given.1 = .ok column.2

theorem labels_of_decodes {given : List (String × DriverValue)} {columns : List (String × Value)}
    (each : List.Forall₂ DecodesTo given columns) :
    columns.map Prod.fst = given.map Prod.fst := by
  rw [← List.forall₂_eq_eq_eq, List.forall₂_map_left_iff, List.forall₂_map_right_iff]
  exact (each.imp fun _ _ decoded => decoded.1).flip

/-- Hydration decodes the columns and publishes them in the order of the row. -/
theorem hydrateInto_eq_ok_iff {given : List (String × DriverValue)} {m m' : RowMap} :
    hydrateInto m given = .ok m' ↔
      ∃ columns, List.Forall₂ DecodesTo (given.filter fun p => !isRowNumber p.1) columns ∧
        m.publishAll columns = m' := by
  induction given generalizing m with
  | nil =>
    simp only [hydrateInto, Except.ok.injEq, List.filter_nil, List.forall₂_nil_left_iff,
      exists_eq_left]
    rfl
  | cons p rest ih =>
    obtain ⟨label, raw⟩ := p
    cases number : isRowNumber label with
    | true =>
      rw [hydrateInto, if_pos number, ih, List.filter_cons_of_neg (by simp [number])]
    | false =>
      rw [hydrateInto, if_neg (Bool.eq_false_iff.1 number), Outcome.bind_eq_ok,
        List.filter_cons_of_pos (by simp [number])]
      constructor
      · rintro ⟨v, decoded, hydrated⟩
        obtain ⟨columns, each, rfl⟩ := ih.1 hydrated
        exact ⟨(label, v) :: columns, .cons ⟨rfl, decoded⟩ each, rfl⟩
      · rintro ⟨columns, each, rfl⟩
        obtain ⟨⟨_, v⟩, others, ⟨rfl, decoded⟩, rest, rfl⟩ := List.forall₂_cons_left_iff.1 each
        exact ⟨v, decoded, ih.2 ⟨others, rest, rfl⟩⟩

/-- **A label of a row holds the value of its own column unless a later column takes it over.** When
the values of a row decode and its labels differ, the row becomes a map. What a key holds is the
value of the last column that has the key, as its label or as a form of it; so every key comes from
a column, with the value of that column. A label holds the value of its own column exactly when it
is no form of a later label, or the last column it is a form of has the same value. -/
theorem hydrateMap_holds {r : RawRow} (distinct : r.labels.Nodup)
    (decodes : ∀ p ∈ r.published, ∃ v, decodeUntyped p.2 p.1 = .ok v) :
    ∃ m columns, hydrateMap r = .ok m ∧ List.Forall₂ DecodesTo r.published columns ∧
      (∀ key v, (key, v) ∈ m.entries ↔ m.get? key = some v) ∧
      (∀ key, m.get? key = RowMap.lastUnder columns key) ∧
      (∀ key v, m.get? key = some v →
        ∃ q ∈ columns, (key ∈ RowMap.formsOf q.1 ∨ key = q.1) ∧ q.2 = v) ∧
      ∀ before label v after, columns = before ++ (label, v) :: after →
        (m.get? label = some v ↔ (∀ q ∈ after, label ∉ RowMap.formsOf q.1) ∨
          RowMap.lastUnder after label = some v) := by
  obtain ⟨columns, each⟩ : ∃ columns, List.Forall₂ DecodesTo r.published columns :=
    Outcome.exists_forall₂ fun p member => by
      obtain ⟨v, decoded⟩ := decodes p member
      exact ⟨(p.1, v), rfl, decoded⟩
  have holds : ∀ key, (RowMap.publishAll ⟨[]⟩ columns).get? key = RowMap.lastUnder columns key :=
    fun key => (RowMap.get?_publishAll columns ⟨[]⟩ key).trans Option.or_none
  have ordered : (RowMap.publishAll ⟨[]⟩ columns).IsOrdered :=
    RowMap.IsOrdered.publishAll List.Pairwise.nil columns
  refine ⟨_, columns, hydrateInto_eq_ok_iff.2 ⟨columns, each, rfl⟩, each,
    fun key v => ordered.mem_entries_iff, holds, fun key v found => ?_, ?_⟩
  · obtain ⟨q, member, has, value⟩ := RowMap.exists_of_lastUnder ((holds key).symm.trans found)
    exact ⟨q, member, RowMap.mem_keysOf_iff.1 has, value⟩
  · rintro before label v after rfl
    rw [holds]
    refine RowMap.lastUnder_label_iff ?_
    rw [labels_of_decodes each]
    exact RawRow.nodup_published distinct

/-- Two labels in different forms, and the row number. -/
def namesRow : RawRow :=
  .ofValues ["first_name", "firstName", "rn_"]
    [.varchar (some "Ann"), .varchar (some "Bob"), .int .int64 (some (.clamp .int64 1))]

/-- No later column has the form `first_name`, so both labels hold their own values, though the
first column has been published under `firstName` too. -/
theorem hydrateMap_holds_namesSample :
    ∃ m, hydrateMap namesRow = .ok m ∧ m.get? "first_name" = some (.varchar (some "Ann")) ∧
      m.get? "firstName" = some (.varchar (some "Bob")) ∧ m.get? "rn_" = none := by
  have published : namesRow.published = [("first_name", .scalar (.varchar (some "Ann"))),
    ("firstName", .scalar (.varchar (some "Bob")))] := rfl
  obtain ⟨m, columns, hydrated, each, -, holds, -, own⟩ := hydrateMap_holds (r := namesRow)
    (by decide) (by
      rw [published]
      exact List.forall_mem_cons.2 ⟨⟨_, rfl⟩, List.forall_mem_singleton.2 ⟨_, rfl⟩⟩)
  rw [published] at each
  obtain ⟨⟨_, v⟩, _, ⟨rfl, ⟨⟩⟩, more, rfl⟩ := List.forall₂_cons_left_iff.1 each
  obtain ⟨⟨_, w⟩, _, ⟨rfl, ⟨⟩⟩, none, rfl⟩ := List.forall₂_cons_left_iff.1 more
  cases none
  have unlike : "first_name" ∉ RowMap.formsOf "firstName" := by decide +kernel
  refine ⟨m, hydrated, (own [] _ _ _ rfl).2 (.inl (List.forall_mem_singleton.2 unlike)),
    (own [_] _ _ _ rfl).2 (.inl nofun), ?_⟩
  rw [holds, RowMap.lastUnder_eq_none_iff]
  decide +kernel

/-- A label in capitals and the same label without them. -/
def caselessRow : RawRow :=
  .ofValues ["NAME", "name"]
    [.int .int32 (some (.clamp .int32 1)), .int .int32 (some (.clamp .int32 2))]

/-- The second column is published in capitals too, in place of the first one: its label holds the
other value. -/
theorem hydrateMap_holds_caselessSample :
    caselessRow.labels.Nodup ∧
      decodeUntyped (.scalar (.int .int32 (some (.clamp .int32 1)))) "NAME" =
        .ok (.int .int32 (some (.clamp .int32 1))) ∧
      ∃ m, hydrateMap caselessRow = .ok m ∧
        m.get? "NAME" = some (.int .int32 (some (.clamp .int32 2))) :=
  ⟨by decide, rfl, _, rfl, by rfl⟩

end EntitySql
