import EntitySql.Schema.EntitySchema
import Mathlib.Data.List.Nodup

/-!
# What a name means to a schema

A name is looked up as a field first and as a column then. Fields are told apart exactly, columns
without regard to case, and a schema repeats neither, so each lookup finds the one column with the
field or name looked for.

A name crosses when it is the field of one column but not the name of that column. A name that does
not cross means the column so called (`EntitySchema.resolve?_eq_byName?`); one that crosses never
does (`EntitySchema.resolve?_of_crosses`).
-/

namespace EntitySql

set_option autoImplicit false

theorem eqIgnoringCase_iff {a b : String} :
    Text.eqIgnoringCase a b = true ↔ Text.lowerAscii a = Text.lowerAscii b := by
  rw [Text.eqIgnoringCase, beq_iff_eq, Text.lowerAscii, Text.lowerAscii, String.ofList_inj]

/-- Among members with different keys, the one found by a key is the one that has it. -/
theorem find?_key_eq_some_iff {α κ : Type} [BEq κ] [LawfulBEq κ] (key : α → κ)
    {members : List α} (apart : (members.map key).Nodup) {k : κ} {a : α} :
    members.find? (fun b => key b == k) = some a ↔ a ∈ members ∧ key a = k := by
  constructor
  · intro found
    have same : (key a == k) = true := List.find?_some (p := fun b => key b == k) found
    exact ⟨List.mem_of_find?_eq_some found, beq_iff_eq.1 same⟩
  · rintro ⟨member, rfl⟩
    cases found : members.find? fun b => key b == key a with
    | none => exact absurd (beq_self_eq_true (key a)) (List.find?_eq_none.1 found a member)
    | some b =>
      have same : (key b == key a) = true := List.find?_some (p := fun c => key c == key a) found
      rw [List.inj_on_of_nodup_map apart (List.mem_of_find?_eq_some found) member
        (beq_iff_eq.1 same)]

namespace EntitySchema

variable {s : EntitySchema} {b c : ColumnDef} {name : String}

theorem byField?_eq_some_iff : s.byField? name = some c ↔ c ∈ s.columns ∧ c.field = name :=
  find?_key_eq_some_iff (fun c : ColumnDef => c.field) s.fields_nodup

theorem byName?_eq_some_iff :
    s.byName? name = some c ↔
      c ∈ s.columns ∧ Text.lowerAscii c.name = Text.lowerAscii name :=
  find?_key_eq_some_iff (fun c : ColumnDef => Text.lowerAscii c.name) s.names_nodup

/-- A name that a column has means some column. -/
theorem exists_resolve? (h : s.byName? name = some b) : ∃ c, s.resolve? name = some c := by
  unfold resolve?
  cases s.byField? name with
  | none => exact ⟨b, h⟩
  | some a => exact ⟨a, rfl⟩

/-- The name is the field of a column that is called otherwise. -/
def crosses (s : EntitySchema) (name : String) : Bool :=
  s.columns.any fun c => c.field == name && Text.lowerAscii c.name != Text.lowerAscii name

/-- **A name that does not cross means the column so called.** -/
theorem resolve?_eq_byName? (h : s.crosses name = false) : s.resolve? name = s.byName? name := by
  unfold resolve?
  cases found : s.byField? name with
  | none => rfl
  | some a =>
    obtain ⟨column, field⟩ := byField?_eq_some_iff.1 found
    have called : Text.lowerAscii a.name = Text.lowerAscii name := by
      have apart := List.any_eq_false.1 h a column
      simpa [field] using apart
    rw [byName?_eq_some_iff.2 ⟨column, called⟩]
    rfl

/-- **A name that crosses means a column that is called otherwise.** -/
theorem resolve?_of_crosses (h : s.crosses name = true) :
    ∃ a, s.resolve? name = some a ∧ a.field = name ∧
      Text.lowerAscii a.name ≠ Text.lowerAscii name := by
  obtain ⟨a, column, crossing⟩ := List.any_eq_true.1 h
  rw [Bool.and_eq_true, beq_iff_eq, bne_iff_ne] at crossing
  obtain ⟨field, otherwise⟩ := crossing
  have first : s.byField? name = some a := byField?_eq_some_iff.2 ⟨column, field⟩
  exact ⟨a, by rw [resolve?, first]; rfl, field, otherwise⟩

/-- What a name means is called by that name exactly when the name does not cross. -/
theorem sameName_of_resolve?_iff (h : s.resolve? name = some c) :
    Text.lowerAscii c.name = Text.lowerAscii name ↔ s.crosses name = false := by
  constructor
  · intro called
    rw [Bool.eq_false_iff]
    intro crossing
    obtain ⟨a, meant, _, otherwise⟩ := resolve?_of_crosses crossing
    rw [h] at meant
    cases meant
    exact otherwise called
  · intro straight
    rw [resolve?_eq_byName? straight] at h
    exact (byName?_eq_some_iff.1 h).2

/-- The name of a column means that column exactly when it does not cross. -/
theorem resolve?_name_eq_some_iff (h : c ∈ s.columns) :
    s.resolve? c.name = some c ↔ s.crosses c.name = false := by
  constructor
  · intro found
    exact (sameName_of_resolve?_iff found).1 rfl
  · intro straight
    rw [resolve?_eq_byName? straight]
    exact byName?_eq_some_iff.2 ⟨h, rfl⟩

end EntitySchema

/-! ## Two schemas -/

/-- A column in plain storage. -/
def ColumnDef.plain (field name : String) (key : KeyRole) (prototype : Value) : ColumnDef where
  field := field
  name := name
  storage := .plain
  prototype := prototype
  nullable := false
  key := key
  position := 0
  charset := .utf8
  scale := none
  converter := none

/-- A number and a text whose field is called like its column but for the case. -/
def personSample : EntitySchema where
  typeName := "Person"
  table := ⟨"PERSON", ""⟩
  columns :=
    [.plain "ID" "ID" .whole (.int .int64 none), .plain "name" "NAME" .outside (.varchar none)]
  columns_ne_nil := List.cons_ne_nil _ _
  fields_nodup := by decide
  names_nodup := by decide

/-- Two columns of numbers, each one with the name of the other as its field. -/
def crossedSample : EntitySchema where
  typeName := "Crossed"
  table := ⟨"CROSSED", ""⟩
  columns :=
    [.plain "CODE" "ID" .whole (.int .int64 none), .plain "ID" "CODE" .outside (.int .int64 none)]
  columns_ne_nil := List.cons_ne_nil _ _
  fields_nodup := by decide
  names_nodup := by decide

end EntitySql
