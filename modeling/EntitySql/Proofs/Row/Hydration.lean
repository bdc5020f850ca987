import EntitySql.Marshal.Hydrate
import EntitySql.Proofs.Outcome
import EntitySql.Proofs.Schema.Names

/-!
# Where the values of a row land

Hydration keeps the values whose label means a column of the schema, in the order of the row, and
decodes each one for that column (`hydratePairs_eq_ok_iff`).

The label of a driver is the name of a column. It is looked up as a field first, so it means the
column it names exactly when it does not cross. Rows without such labels land as they should: each
value under the column its label names, none twice. A value whose label crosses lands under another
column (`hydrateRow_lands`).
-/

namespace EntitySql

set_option autoImplicit false

open Outcome

variable {s : EntitySchema}

/-- The value of a row is the driver value decoded for a column, under the name of the column. -/
def LandsUnder (c : ColumnDef) (given : String × DriverValue) (kept : String × Value) : Prop :=
  kept.1 = c.name ∧ decode given.2 c = .ok kept.2

/-- A row keeps the pairs it is made from. -/
theorem Row.pairs_ofPairs (ps : List (String × Value)) : (Row.ofPairs ps).pairs = ps := by
  rw [Row.pairs, Row.ofPairs, ← List.unzip_fst, ← List.unzip_snd]
  exact List.zip_unzip ps

/-- **Hydration keeps what has a meaning:** one value for each label that means a column, in the
order of the row, decoded for that column. -/
theorem hydratePairs_eq_ok_iff {given : List (String × DriverValue)}
    {kept : List (String × Value)} :
    hydratePairs s given = .ok kept ↔
      List.Forall₂ (fun p q => ∃ c, s.resolve? p.1 = some c ∧ LandsUnder c p q)
        (given.filter fun p => (s.resolve? p.1).isSome) kept := by
  induction given generalizing kept with
  | nil =>
    rw [hydratePairs, List.filter_nil, List.forall₂_nil_left_iff, Except.ok.injEq]
    exact eq_comm
  | cons p rest ih =>
    obtain ⟨label, raw⟩ := p
    cases meant : s.resolve? label with
    | none => rw [hydratePairs, meant, List.filter_cons_of_neg (by simp [meant]), ih]
    | some c =>
      rw [List.filter_cons_of_pos (by simp [meant]), List.forall₂_cons_left_iff]
      simp only [hydratePairs, meant, bind_eq_ok, pure_eq_ok, ih]
      constructor
      · rintro ⟨v, decoded, others, landed, rfl⟩
        exact ⟨(c.name, v), others, ⟨c, rfl, rfl, decoded⟩, landed, rfl⟩
      · rintro ⟨⟨name, v⟩, others, ⟨_, ⟨⟩, rfl, decoded⟩, landed, rfl⟩
        exact ⟨v, decoded, others, landed, rfl⟩

theorem hydrateRow_eq_ok_iff {r : RawRow} {row : Row} :
    hydrateRow s r = .ok row ↔
      ∃ kept, hydratePairs s r.pairs = .ok kept ∧ Row.ofPairs kept = row := by
  rw [hydrateRow, map_eq_ok]

namespace RawRow

/-- The labeled values of a row whose labels name columns of a schema. -/
def named (r : RawRow) (s : EntitySchema) : List (String × DriverValue) :=
  r.pairs.filter fun p => (s.byName? p.1).isSome

/-- Where every label names a column or means nothing, the labels with a meaning are those that
name columns. -/
theorem named_eq_filter {r : RawRow}
    (known : ∀ p ∈ r.pairs, (s.byName? p.1).isSome = true ∨ s.resolve? p.1 = none) :
    r.pairs.filter (fun p => (s.resolve? p.1).isSome) = r.named s := by
  refine List.filter_congr fun p member => ?_
  cases named : s.byName? p.1 with
  | none =>
    rcases known p member with some | nothing
    · rw [named] at some
      cases some
    · rw [nothing]
  | some b =>
    obtain ⟨c, meant⟩ := EntitySchema.exists_resolve? named
    rw [meant]
    rfl

end RawRow

/-- A value lands under the column its label names exactly when the label does not cross. -/
theorem landsUnder_named_iff {p : String × DriverValue} {q : String × Value} {b c : ColumnDef}
    (named : s.byName? p.1 = some b) (meant : s.resolve? p.1 = some c) (lands : LandsUnder c p q) :
    LandsUnder b p q ↔ s.crosses p.1 = false := by
  constructor
  · intro own
    have called := (EntitySchema.byName?_eq_some_iff.1 named).2
    rw [← own.1, lands.1] at called
    exact (EntitySchema.sameName_of_resolve?_iff meant).1 called
  · intro straight
    rw [EntitySchema.resolve?_eq_byName? straight, named] at meant
    cases meant
    exact lands

/-- Where no label crosses, every value lands under the column its label names. -/
theorem lands_of_straight {given : List (String × DriverValue)} {kept : List (String × Value)}
    (named : ∀ p ∈ given, ∃ b, s.byName? p.1 = some b)
    (landed : List.Forall₂ (fun p q => ∃ c, s.resolve? p.1 = some c ∧ LandsUnder c p q) given kept)
    (straight : ∀ p ∈ given, s.crosses p.1 = false) :
    List.Forall₂ (fun p q => ∃ b, s.byName? p.1 = some b ∧ LandsUnder b p q) given kept := by
  have each := (List.forall₂_and_left _ _).2 ⟨named, (List.forall₂_and_left _ _).2
    ⟨straight, landed⟩⟩
  refine each.imp fun p q facts => ?_
  obtain ⟨⟨b, own⟩, clear, c, meant, lands⟩ := facts
  exact ⟨b, own, (landsUnder_named_iff own meant lands).2 clear⟩

/-- Values under the columns their labels name keep the labels up to case. -/
theorem labels_eq_of_lands {given : List (String × DriverValue)} {kept : List (String × Value)}
    (lands : List.Forall₂ (fun p q => ∃ b, s.byName? p.1 = some b ∧ LandsUnder b p q)
      given kept) :
    (Row.ofPairs kept).labels.map Text.lowerAscii = given.map fun p => Text.lowerAscii p.1 := by
  rw [← List.forall₂_eq_eq_eq, Row.ofPairs, List.map_map, List.forall₂_map_left_iff,
    List.forall₂_map_right_iff]
  refine (lands.imp fun p q under => ?_).flip
  obtain ⟨b, named, label, _⟩ := under
  show Text.lowerAscii q.1 = Text.lowerAscii p.1
  rw [label]
  exact (EntitySchema.byName?_eq_some_iff.1 named).2

/-- **A hydrated row holds one value for each label that names a column,** in the order of the row.
The value has been decoded for the column that the label means and stands under its name. It is the
column the label names exactly when the label is not the field of another one. So every value lands
under the column its label names exactly when no label crosses; then, if the labels differ, no
column has two values. -/
theorem hydrateRow_lands {r : RawRow} {row : Row}
    (known : ∀ p ∈ r.pairs, (s.byName? p.1).isSome = true ∨ s.resolve? p.1 = none)
    (distinct : ((r.named s).map fun p => Text.lowerAscii p.1).Nodup)
    (h : hydrateRow s r = .ok row) :
    List.Forall₂ (fun p q => ∃ b c, s.byName? p.1 = some b ∧ s.resolve? p.1 = some c ∧
        LandsUnder c p q ∧ (LandsUnder b p q ↔ s.crosses p.1 = false)) (r.named s) row.pairs ∧
      (List.Forall₂ (fun p q => ∃ b, s.byName? p.1 = some b ∧ LandsUnder b p q)
          (r.named s) row.pairs ↔ ∀ p ∈ r.named s, s.crosses p.1 = false) ∧
      ((∀ p ∈ r.named s, s.crosses p.1 = false) →
        row.labels.map Text.lowerAscii = (r.named s).map (fun p => Text.lowerAscii p.1) ∧
          (row.labels.map Text.lowerAscii).Nodup) := by
  obtain ⟨kept, hydrated, rfl⟩ := hydrateRow_eq_ok_iff.1 h
  rw [Row.pairs_ofPairs]
  have landed := hydratePairs_eq_ok_iff.1 hydrated
  rw [RawRow.named_eq_filter known] at landed
  have names : ∀ p ∈ r.named s, ∃ b, s.byName? p.1 = some b := fun p member =>
    Option.isSome_iff_exists.1 (List.mem_filter.1 member).2
  have each : List.Forall₂ (fun p q => ∃ b c, s.byName? p.1 = some b ∧
      s.resolve? p.1 = some c ∧ LandsUnder c p q ∧
      (LandsUnder b p q ↔ s.crosses p.1 = false)) (r.named s) kept := by
    refine ((List.forall₂_and_left _ _).2 ⟨names, landed⟩).imp fun p q both => ?_
    obtain ⟨⟨b, named⟩, c, meant, lands⟩ := both
    exact ⟨b, c, named, meant, lands, landsUnder_named_iff named meant lands⟩
  refine ⟨each, ⟨fun lands => ?_, lands_of_straight names landed⟩, fun straight => ?_⟩
  · have clear : List.Forall₂ (fun p _ => s.crosses p.1 = false ∧ True) (r.named s) kept := by
      refine List.Forall₂.mp (fun p q first second => ?_) each lands
      obtain ⟨b, c, named, _, _, decides⟩ := first
      obtain ⟨a, found, under⟩ := second
      rw [named] at found
      cases found
      exact ⟨decides.1 under, trivial⟩
    exact ((List.forall₂_and_left _ _).1 clear).1
  · have same := labels_eq_of_lands (lands_of_straight names landed straight)
    exact ⟨same, same ▸ distinct⟩

/-- A row of a person with labels in another case and in another order, and two labels besides. -/
def personRow : RawRow :=
  .ofValues ["name", "EXTRA", "id", "rn_"]
    [.varchar (some "Ann"), .boolean (some true), .int .int32 (some (.clamp .int32 7)),
      .int .int64 (some (.clamp .int64 1))]

theorem hydrateRow_lands_personSample :
    ∃ row, hydrateRow personSample personRow = .ok row ∧
      row.labels = ["NAME", "ID"] ∧ (row.labels.map Text.lowerAscii).Nodup ∧
      List.Forall₂ (fun p q => ∃ b, personSample.byName? p.1 = some b ∧ LandsUnder b p q)
        (personRow.named personSample) row.pairs := by
  have straight : ∀ p ∈ personRow.named personSample, personSample.crosses p.1 = false := by
    decide
  obtain ⟨_, lands, apart⟩ :=
    hydrateRow_lands (s := personSample) (r := personRow) (by decide) (by decide) (Eq.refl _)
  exact ⟨_, rfl, rfl, (apart straight).2, lands.2 straight⟩

/-- Two values whose labels cross land under each other's columns. -/
theorem hydrateRow_lands_crossedSample :
    hydrateRow crossedSample
        (.ofValues ["ID", "CODE"] [.int .int64 (some (.clamp .int64 1)),
          .int .int64 (some (.clamp .int64 2))]) =
      .ok ⟨["CODE", "ID"], [.int .int64 (some (.clamp .int64 1)),
        .int .int64 (some (.clamp .int64 2))]⟩ := by
  rfl

end EntitySql
