import EntitySql.Proofs.Entity.Fields
import EntitySql.Proofs.Row.Hydration

/-!
# Records read back from rows

A record is a list of cells: its columns, inherited ones first, each with the member kept in it.
Writing a record lists the values of its cells under the names of their columns.

Reading gives every label of a row to a column of that name which has no value yet. Where the
labels of the row differ, and so do the names of the columns, each column gets the one value under
its name, in whatever order they come (`Members.holdAll_heldWhere`). A row that has for each cell a
value which reads as the same member is read as the record restored, contained entities included
(`Declared.exists_ofRow`).
-/

namespace EntitySql

set_option autoImplicit false

/-! ## Cells -/

/-- A column together with the member of a record kept in it. -/
structure Cell where
  column : ColumnField
  member : column.type.Carrier

namespace Cell

/-- The name of the column as names are compared. -/
def key (cell : Cell) : String := Text.lowerAscii cell.column.name

/-- The value of the member under the name of its column. -/
def pair (cell : Cell) : String × Value :=
  (cell.column.name, cell.column.type.toValue cell.member)

end Cell

namespace Members

/-- The cells of the columns of the entity itself. -/
def cells : (ms : Members) → ms.Own → List Cell
  | nil, _ => []
  | column c rest, (x, own) => ⟨c, x⟩ :: rest.cells own
  | inherit _ _ rest, own => rest.cells own
  | skip _ _ _ rest, own => rest.cells own

/-- The members of a record that are kept in columns of the entity itself. -/
def own : (ms : Members) → ms.Record → ms.Own
  | nil, _ => ()
  | column _ rest, (x, others) => (x, rest.own others)
  | inherit _ _ rest, (_, others) => rest.own others
  | skip _ _ _ rest, (_, others) => rest.own others

end Members

mutual
/-- The cells of a record. -/
def Declared.cells : (d : Declared) → d.Record → List Cell
  | ⟨_, _, members⟩, e => members.inheritedCells e ++ members.cells (members.own e)
  termination_by structural d => d

/-- The cells of inherited columns. -/
def Members.inheritedCells : (ms : Members) → ms.Record → List Cell
  | .nil, _ => []
  | .column _ rest, (_, others) => rest.inheritedCells others
  | .inherit _ base rest, (b, others) => base.cells b ++ rest.inheritedCells others
  | .skip _ _ _ rest, (_, others) => rest.inheritedCells others
  termination_by structural ms => ms
end

theorem Members.ownPairs_eq : ∀ (ms : Members) (e : ms.Record),
    ms.ownPairs e = (ms.cells (ms.own e)).map Cell.pair
  | .nil, _ => rfl
  | .column c rest, (x, others) => congrArg (Cell.pair ⟨c, x⟩ :: ·) (rest.ownPairs_eq others)
  | .inherit _ _ rest, (_, others) => rest.ownPairs_eq others
  | .skip _ _ _ rest, (_, others) => rest.ownPairs_eq others

mutual
/-- **A record is written as the values of its cells.** -/
theorem Declared.pairs_eq : ∀ (d : Declared) (e : d.Record), d.pairs e = (d.cells e).map Cell.pair
  | ⟨_, _, members⟩, e => by
    show members.inheritedPairs e ++ members.ownPairs e = _
    rw [members.inheritedPairs_eq e, members.ownPairs_eq e, ← List.map_append]
    rfl

theorem Members.inheritedPairs_eq : ∀ (ms : Members) (e : ms.Record),
    ms.inheritedPairs e = (ms.inheritedCells e).map Cell.pair
  | .nil, _ => rfl
  | .column _ rest, (_, others) => rest.inheritedPairs_eq others
  | .inherit _ base rest, (b, others) => by
    show base.pairs b ++ rest.inheritedPairs others = _
    rw [base.pairs_eq b, rest.inheritedPairs_eq others, ← List.map_append]
    rfl
  | .skip _ _ _ rest, (_, others) => rest.inheritedPairs_eq others
end

/-! ## Records restored -/

/-- The members kept in columns of the entity itself are the same. -/
def Members.SameOwn : (ms : Members) → ms.Own → ms.Own → Prop
  | .nil, _, _ => True
  | .column c rest, (x, own), (y, own') => c.type.Same x y ∧ rest.SameOwn own own'
  | .inherit _ _ rest, own, own' => rest.SameOwn own own'
  | .skip _ _ _ rest, own, own' => rest.SameOwn own own'

mutual
/-- The second record is the first one restored: it has the same members in columns, those of
contained entities included, and defaults for what is not kept. -/
def Declared.Restored : (d : Declared) → d.Record → d.Record → Prop
  | ⟨_, _, members⟩, e, e' => members.Restored e e'
  termination_by structural d => d

/-- The members of the second record are those of the first one restored. -/
def Members.Restored : (ms : Members) → ms.Record → ms.Record → Prop
  | .nil, _, _ => True
  | .column c rest, (x, others), (y, others') => c.type.Same x y ∧ rest.Restored others others'
  | .inherit _ base rest, (b, others), (b', others') =>
    base.Restored b b' ∧ rest.Restored others others'
  | .skip _ _ default rest, (_, others), (y, others') =>
    y = default ∧ rest.Restored others others'
  termination_by structural ms => ms
end

/-! ## Giving out the values of a row -/

namespace Members

/-- The columns whose name has been seen hold their members. -/
def heldWhere (seen : String → Bool) : (ms : Members) → ms.Own → ms.Held
  | nil, _ => ()
  | column c rest, (x, own) => (if seen c.name then some x else none, rest.heldWhere seen own)
  | inherit _ _ rest, own => rest.heldWhere seen own
  | skip _ _ _ rest, own => rest.heldWhere seen own

theorem heldWhere_false : ∀ (ms : Members) (own : ms.Own),
    ms.heldWhere (fun _ => false) own = ms.nothingHeld
  | nil, _ => rfl
  | column _ rest, (_, own) => congrArg (Prod.mk none) (rest.heldWhere_false own)
  | inherit _ _ rest, own => rest.heldWhere_false own
  | skip _ _ _ rest, own => rest.heldWhere_false own

theorem heldWhere_congr {seen seen' : String → Bool} : ∀ (ms : Members) (own : ms.Own),
    (∀ cell ∈ ms.cells own, seen cell.column.name = seen' cell.column.name) →
      ms.heldWhere seen own = ms.heldWhere seen' own
  | nil, _, _ => rfl
  | column c rest, (x, own), alike => by
    obtain ⟨first, others⟩ := List.forall_mem_cons.1 alike
    show (if seen c.name then some x else none, rest.heldWhere seen own) = _
    rw [rest.heldWhere_congr own others, first]
    rfl
  | inherit _ _ rest, own, alike => rest.heldWhere_congr own alike
  | skip _ _ _ rest, own, alike => rest.heldWhere_congr own alike

/-- Once all columns are seen, nothing is missing. -/
theorem settle_heldWhere {typeName : String} {seen : String → Bool} :
    ∀ (ms : Members) (own : ms.Own), (∀ cell ∈ ms.cells own, seen cell.column.name = true) →
      ms.settle typeName (ms.heldWhere seen own) = .ok own
  | nil, _, _ => rfl
  | column c rest, (x, own), all => by
    obtain ⟨first, others⟩ := List.forall_mem_cons.1 all
    show settle typeName (column c rest)
      (if seen c.name then some x else none, rest.heldWhere seen own) = _
    rw [if_pos first]
    show (rest.settle typeName (rest.heldWhere seen own) >>= fun own => _) = _
    rw [rest.settle_heldWhere own others]
    rfl
  | inherit _ _ rest, own, all => rest.settle_heldWhere own all
  | skip _ _ _ rest, own, all => rest.settle_heldWhere own all

/-- **One value:** it goes to the column of its name, if there is one. -/
theorem hold_heldWhere {label : String} {v : Value} {seen : String → Bool} :
    ∀ (ms : Members) (own : ms.Own), ((ms.cells own).map Cell.key).Nodup →
      (∀ cell ∈ ms.cells own, Text.eqIgnoringCase label cell.column.name = true →
        seen cell.column.name = false ∧ cell.column.type.ofValue v = .ok cell.member) →
      ms.hold label v (ms.heldWhere seen own) =
        .ok (ms.heldWhere (fun name => seen name || Text.eqIgnoringCase label name) own)
  | nil, _, _, _ => rfl
  | column c rest, (x, own), apart, fits => by
    obtain ⟨first, others⟩ := List.forall_mem_cons.1 fits
    obtain ⟨alone, apart⟩ := List.nodup_cons.1 apart
    show (if (if seen c.name = true then some x else none).isNone &&
        Text.eqIgnoringCase label c.name then _ else _) = _
    by_cases hit : Text.eqIgnoringCase label c.name = true
    · obtain ⟨unseen, read⟩ := first hit
      have unchanged : rest.heldWhere seen own =
          rest.heldWhere (fun name => seen name || Text.eqIgnoringCase label name) own := by
        refine rest.heldWhere_congr own fun cell member => ?_
        have other : Text.eqIgnoringCase label cell.column.name = false := by
          rw [Bool.eq_false_iff]
          intro same
          refine alone (List.mem_map.2 ⟨cell, member, ?_⟩)
          exact (eqIgnoringCase_iff.1 same).symm.trans (eqIgnoringCase_iff.1 hit)
        rw [other, Bool.or_false]
      rw [unseen, hit]
      show (c.type.ofValue v).map (fun x => (some x, rest.heldWhere seen own)) =
        .ok (if (seen c.name || Text.eqIgnoringCase label c.name) = true then some x else none,
          rest.heldWhere _ own)
      rw [read, unseen, hit, unchanged]
      rfl
    · rw [Bool.eq_false_iff.2 hit, Bool.and_false]
      show (rest.hold label v (rest.heldWhere seen own)).map _ =
        .ok (if (seen c.name || Text.eqIgnoringCase label c.name) = true then some x else none,
          rest.heldWhere _ own)
      rw [rest.hold_heldWhere own apart others, Bool.eq_false_iff.2 hit, Bool.or_false]
      rfl
  | inherit _ _ rest, own, apart, fits => rest.hold_heldWhere own apart fits
  | skip _ _ _ rest, own, apart, fits => rest.hold_heldWhere own apart fits

/-- **A whole row:** where its labels differ, every column gets the value of its name. The induction
is on the row; a label that has been given out does not come again. -/
theorem holdAll_heldWhere {ms : Members} {own : ms.Own}
    (apart : ((ms.cells own).map Cell.key).Nodup) :
    ∀ (pairs : List (String × Value)) (seen : String → Bool),
      (pairs.map fun p => Text.lowerAscii p.1).Nodup →
      (∀ p ∈ pairs, ∀ cell ∈ ms.cells own, Text.eqIgnoringCase p.1 cell.column.name = true →
        seen cell.column.name = false ∧ cell.column.type.ofValue p.2 = .ok cell.member) →
      ms.holdAll (ms.heldWhere seen own) pairs =
        .ok (ms.heldWhere (fun name => seen name || pairs.any fun p =>
          Text.eqIgnoringCase p.1 name) own)
  | [], seen, _, _ => by
    simp only [holdAll, List.any_nil, Bool.or_false]
  | (label, v) :: rest, seen, distinct, fits => by
    obtain ⟨alone, distinct⟩ := List.nodup_cons.1 distinct
    obtain ⟨first, others⟩ := List.forall_mem_cons.1 fits
    show (ms.hold label v (ms.heldWhere seen own) >>= fun held => ms.holdAll held rest) = _
    rw [ms.hold_heldWhere own apart first]
    show ms.holdAll _ rest = _
    rw [holdAll_heldWhere apart rest _ distinct]
    · simp only [List.any_cons, Bool.or_assoc]
    · intro p member cell kept same
      obtain ⟨unseen, read⟩ := others p member cell kept same
      refine ⟨?_, read⟩
      rw [unseen, Bool.false_or, Bool.eq_false_iff]
      intro again
      refine alone (List.mem_map.2 ⟨p, member, ?_⟩)
      exact (eqIgnoringCase_iff.1 same).trans (eqIgnoringCase_iff.1 again).symm

theorem key_cells : ∀ (ms : Members) (own own' : ms.Own),
    (ms.cells own).map Cell.key = (ms.cells own').map Cell.key
  | nil, _, _ => rfl
  | column _ rest, (_, own), (_, own') => congrArg (_ :: ·) (rest.key_cells own own')
  | inherit _ _ rest, own, own' => rest.key_cells own own'
  | skip _ _ _ rest, own, own' => rest.key_cells own own'

end Members

/-! ## Whole records -/

/-- The row has, under the name of the column, a value that reads as the same member. -/
def Cell.FoundIn (pairs : List (String × Value)) (cell : Cell) : Prop :=
  ∃ v y, (cell.column.name, v) ∈ pairs ∧ cell.column.type.ofValue v = .ok y ∧
    cell.column.type.Same cell.member y

/-- What is found for the columns of the entity itself, taken together. -/
theorem Members.exists_own {pairs : List (String × Value)} : ∀ (ms : Members) (own : ms.Own),
    (∀ cell ∈ ms.cells own, cell.FoundIn pairs) →
      ∃ own', ms.SameOwn own own' ∧ ∀ cell ∈ ms.cells own', ∃ v,
        (cell.column.name, v) ∈ pairs ∧ cell.column.type.ofValue v = .ok cell.member
  | .nil, _, _ => ⟨(), trivial, List.forall_mem_nil _⟩
  | .column c rest, (x, own), found => by
    obtain ⟨⟨v, y, present, read, same⟩, others⟩ := List.forall_mem_cons.1 found
    obtain ⟨own', sameOwn, reads⟩ := rest.exists_own own others
    exact ⟨(y, own'), ⟨same, sameOwn⟩, List.forall_mem_cons.2 ⟨⟨v, present, read⟩, reads⟩⟩
  | .inherit _ _ rest, own, found => rest.exists_own own found
  | .skip _ _ _ rest, own, found => rest.exists_own own found

variable {row : Row}

/-- The columns of the entity itself are read from the row. -/
theorem Members.exists_settle (typeName : String) {ms : Members} {own : ms.Own}
    (distinct : (row.pairs.map fun p => Text.lowerAscii p.1).Nodup)
    (apart : ((ms.cells own).map Cell.key).Nodup)
    (found : ∀ cell ∈ ms.cells own, cell.FoundIn row.pairs) :
    ∃ held own', ms.holdAll ms.nothingHeld row.pairs = .ok held ∧
      ms.settle typeName held = .ok own' ∧ ms.SameOwn own own' := by
  obtain ⟨own', same, reads⟩ := ms.exists_own own found
  rw [ms.key_cells own own'] at apart
  have given := ms.holdAll_heldWhere apart row.pairs (fun _ => false) distinct ?_
  · rw [ms.heldWhere_false own'] at given
    refine ⟨_, own', given, ms.settle_heldWhere own' fun cell kept => ?_, same⟩
    obtain ⟨v, present, _⟩ := reads cell kept
    exact List.any_eq_true.2 ⟨_, present, Text.eqIgnoringCase_refl _⟩
  · intro p member cell kept called
    obtain ⟨v, present, read⟩ := reads cell kept
    have one : p = (cell.column.name, v) :=
      List.inj_on_of_nodup_map distinct member present (eqIgnoringCase_iff.1 called)
    exact ⟨rfl, one ▸ read⟩

mutual
/-- **A row with a value for each cell of a record is read as that record restored,** whatever else
is in the row and in whatever order. The induction is on the entity: its own columns are read first,
then each contained entity reads the same row. -/
theorem Declared.exists_ofRow (distinct : (row.pairs.map fun p => Text.lowerAscii p.1).Nodup) :
    ∀ (d : Declared) (e : d.Record),
    ((d.cells e).map Cell.key).Nodup → (∀ cell ∈ d.cells e, cell.FoundIn row.pairs) →
      ∃ e', d.ofRow row = .ok e' ∧ d.Restored e e'
  | ⟨typeName, _, members⟩, e, apart, found => by
    change (List.map Cell.key (members.inheritedCells e ++ members.cells (members.own e))).Nodup
      at apart
    rw [List.map_append, List.nodup_append] at apart
    obtain ⟨foundInherited, foundOwn⟩ := List.forall_mem_append.1 found
    obtain ⟨held, own', given, settled, same⟩ :=
      Members.exists_settle typeName distinct apart.2.1 foundOwn
    obtain ⟨e', assembled, sameRecord⟩ :=
      members.exists_assemble distinct e own' apart.1 foundInherited same
    refine ⟨e', ?_, sameRecord⟩
    show (members.holdAll members.nothingHeld row.pairs >>= fun held => _) = _
    rw [given]
    show (members.settle typeName held >>= fun own => _) = _
    rw [settled]
    exact assembled

theorem Members.exists_assemble (distinct : (row.pairs.map fun p => Text.lowerAscii p.1).Nodup) :
    ∀ (ms : Members) (e : ms.Record) (own' : ms.Own),
    ((ms.inheritedCells e).map Cell.key).Nodup →
      (∀ cell ∈ ms.inheritedCells e, cell.FoundIn row.pairs) → ms.SameOwn (ms.own e) own' →
      ∃ e', ms.assemble own' row = .ok e' ∧ ms.Restored e e'
  | .nil, _, _, _, _, _ => ⟨(), rfl, trivial⟩
  | .column _ rest, (_, others), (y, own'), apart, found, ⟨first, same⟩ => by
    obtain ⟨others', assembled, sameOthers⟩ :=
      rest.exists_assemble distinct others own' apart found same
    refine ⟨(y, others'), ?_, first, sameOthers⟩
    show (rest.assemble own' row).map _ = _
    rw [assembled]
    rfl
  | .inherit _ base rest, (b, others), own', apart, found, same => by
    change (List.map Cell.key (base.cells b ++ rest.inheritedCells others)).Nodup at apart
    rw [List.map_append, List.nodup_append] at apart
    obtain ⟨foundBase, foundRest⟩ := List.forall_mem_append.1 found
    obtain ⟨b', read, sameBase⟩ := base.exists_ofRow distinct b apart.1 foundBase
    obtain ⟨others', assembled, sameOthers⟩ :=
      rest.exists_assemble distinct others own' apart.2.1 foundRest same
    refine ⟨(b', others'), ?_, sameBase, sameOthers⟩
    show (base.ofRow row >>= fun b => _) = _
    rw [read]
    show (rest.assemble own' row >>= fun others => _) = _
    rw [assembled]
    rfl
  | .skip _ _ default rest, (_, others), own', apart, found, same => by
    obtain ⟨others', assembled, sameOthers⟩ :=
      rest.exists_assemble distinct others own' apart found same
    refine ⟨(default, others'), ?_, rfl, sameOthers⟩
    show (rest.assemble own' row).map _ = _
    rw [assembled]
    rfl
end

end EntitySql
