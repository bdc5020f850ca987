import EntitySql.Schema.ColumnDef
import EntitySql.Text.Ascii

/-!
# Entity schemas

A schema is the table of an entity and the descriptors of its columns. Fields are told apart
exactly, columns without regard to the case of ASCII letters; a schema has at least one column and
repeats neither fields nor columns, which is part of its type.

**Names.** `resolve` looks a name up as a field first, then as a column.
-/

namespace EntitySql

set_option autoImplicit false

/-- A table, in a database schema unless that is empty. -/
structure TableRef where
  name : String
  schema : String
deriving DecidableEq, Repr

/-- The table and the columns of an entity. -/
structure EntitySchema where
  typeName : String
  table : TableRef
  columns : List ColumnDef
  columns_ne_nil : columns ≠ []
  fields_nodup : (columns.map fun c => c.field).Nodup
  names_nodup : (columns.map fun c => Text.lowerAscii c.name).Nodup

namespace EntitySchema

/-- The first column that repeats the field or the name of a column before it. -/
def firstRepeated (typeName : String) (before : List ColumnDef) :
    List ColumnDef → Option SchemaFault
  | [] => none
  | c :: rest =>
    if before.any (fun b => b.field == c.field) then some (.repeatedField typeName c.field)
    else if before.any (fun b => Text.lowerAscii b.name == Text.lowerAscii c.name) then
      some (.repeatedColumn typeName c.name)
    else firstRepeated typeName (c :: before) rest

/-- A column whose key none before has may stand before columns whose keys are all new. -/
theorem keysApart_cons {κ : Type} [BEq κ] [LawfulBEq κ] {key : ColumnDef → κ} {c : ColumnDef}
    {before rest : List ColumnDef} (fresh : ¬(before.any fun b => key b == key c) = true)
    (others : (rest.map key).Nodup ∧ ∀ d ∈ rest, ∀ b ∈ c :: before, key b ≠ key d) :
    ((c :: rest).map key).Nodup ∧ ∀ d ∈ c :: rest, ∀ b ∈ before, key b ≠ key d := by
  obtain ⟨nodup, apart⟩ := others
  simp only [List.any_eq_true, beq_iff_eq, not_exists, not_and] at fresh
  refine ⟨?_, ?_⟩
  · simp only [List.map_cons, List.nodup_cons, List.mem_map, not_exists, not_and]
    exact ⟨fun d hd same => apart d hd c List.mem_cons_self same.symm, nodup⟩
  · intro d hd b hb
    rcases List.mem_cons.1 hd with rfl | hd
    · exact fresh b hb
    · exact apart d hd b (List.mem_cons_of_mem _ hb)

/-- Without a repeated field, every field is new and the fields differ pairwise. -/
theorem fields_of_firstRepeated {typeName : String} {before columns : List ColumnDef}
    (h : firstRepeated typeName before columns = none) :
    (columns.map fun c => c.field).Nodup ∧
      ∀ c ∈ columns, ∀ b ∈ before, b.field ≠ c.field := by
  induction columns generalizing before with
  | nil => simp
  | cons c rest ih =>
    simp only [firstRepeated] at h
    split at h
    · cases h
    · rename_i fresh
      split at h
      · cases h
      · exact keysApart_cons fresh (ih h)

/-- Without a repeated column, every name is new and the names differ pairwise. -/
theorem names_of_firstRepeated {typeName : String} {before columns : List ColumnDef}
    (h : firstRepeated typeName before columns = none) :
    (columns.map fun c => Text.lowerAscii c.name).Nodup ∧
      ∀ c ∈ columns, ∀ b ∈ before, Text.lowerAscii b.name ≠ Text.lowerAscii c.name := by
  induction columns generalizing before with
  | nil => simp
  | cons c rest ih =>
    simp only [firstRepeated] at h
    split at h
    · cases h
    · split at h
      · cases h
      · rename_i fresh
        exact keysApart_cons fresh (ih h)

/-- The schema of a table and columns, unless there are none or one is repeated. -/
def ofColumns (typeName : String) (table : TableRef) (columns : List ColumnDef) :
    Except Error EntitySchema :=
  if some_column : columns = [] then .error (.schema (.noColumns typeName))
  else
    match h : firstRepeated typeName [] columns with
    | some fault => .error (.schema fault)
    | none =>
      .ok
        { typeName, table, columns
          columns_ne_nil := some_column
          fields_nodup := (fields_of_firstRepeated h).1
          names_nodup := (names_of_firstRepeated h).1 }

/-- Two schemas describe one entity when type and table agree. -/
def same (a b : EntitySchema) : Bool := a.typeName == b.typeName && a.table == b.table

/-- The column of a field. -/
def byField? (s : EntitySchema) (field : String) : Option ColumnDef :=
  s.columns.find? fun c => c.field == field

/-- The column of a name, without regard to ASCII case. -/
def byName? (s : EntitySchema) (name : String) : Option ColumnDef :=
  s.columns.find? fun c => Text.lowerAscii c.name == Text.lowerAscii name

/-- The column meant by a name: of the field so called, else the column so called. -/
def resolve? (s : EntitySchema) (name : String) : Option ColumnDef :=
  (s.byField? name).or (s.byName? name)

/-- The columns of the primary key. -/
def key (s : EntitySchema) : List ColumnDef := s.columns.filter ColumnDef.isKey

/-- The columns of the primary key, which must exist. -/
def requireKey (s : EntitySchema) : Except Error (List ColumnDef) :=
  if s.key.isEmpty then .error (.schema (.noPrimaryKey s.typeName)) else .ok s.key

end EntitySchema

end EntitySql
