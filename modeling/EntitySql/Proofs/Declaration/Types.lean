import EntitySql.Proofs.Declaration.Keys

/-!
# Written types and the types of fields

A type of fields is written by its names: a word, or the end of a path, for each primitive type, and
the end of a path for each wrapper around another type (`Code.TypeExpr.Writes`). Bytes are written
as a box around a slice of them.

What a declaration makes of a written type is what conversion makes of the type itself: the
prototype is the null of the type, and the field may be null exactly when a plain null is a member
(`Code.TypeExpr.kind_of_writes`). So a column is described as its field is converted, but for what
is declared about the column and not by its type.
-/

namespace EntitySql

set_option autoImplicit false

open Code Outcome

/-! ## Names -/

namespace Primitive

/-- The word that names the type, if one word is all its name. -/
def word? : Primitive → Option String
  | boolean => some "bool"
  | int k => some (intName k)
  | float k => some (floatName k)
  | char => some "char"
  | _ => none

/-- The whole path of the type, if the end of its path is enough to name it. -/
def path? : Primitive → Option (List String)
  | text => some ["std", "string", "String"]
  | decimal => some ["rust_decimal", "Decimal"]
  | date => some ["time", "Date"]
  | time => some ["time", "Time"]
  | moment => some ["time", "PrimitiveDateTime"]
  | zoned => some ["time", "OffsetDateTime"]
  | uuid => some ["uuid", "Uuid"]
  | _ => none

end Primitive

/-- The whole path of the wrapper. -/
def Wrapper.path : Wrapper → List String
  | option => ["std", "option", "Option"]
  | box => ["std", "boxed", "Box"]
  | list => ["std", "vec", "Vec"]

namespace Code.CodePath

variable {p : CodePath} {full other : List String} {α : Type} {table : List (List String × α)}

/-- The path is an end of the whole path, or goes on in front of it. -/
def Ends (p : CodePath) (full : List String) : Prop :=
  p.segments ≠ [] ∧ (p.names <:+ full ∨ full <:+ p.names)

theorem all_zip_iff {as bs : List String} :
    ((as.zip bs).all fun (a, b) => a == b) = true ↔ as <+: bs ∨ bs <+: as := by
  induction as generalizing bs with
  | nil => simp
  | cons a as ih =>
    cases bs with
    | nil => simp
    | cons b bs =>
      rw [List.zip_cons_cons, List.all_cons, Bool.and_eq_true, beq_iff_eq, ih,
        List.cons_prefix_cons, List.cons_prefix_cons, and_or_left, eq_comm (a := b)]

theorem agreesWith_iff : p.agreesWith full = true ↔ p.names <:+ full ∨ full <:+ p.names := by
  rw [agreesWith, all_zip_iff, List.reverse_prefix, List.reverse_prefix]

theorem getLast?_of_suffix {as bs : List String} (nonempty : as ≠ []) (ends : as <:+ bs) :
    as.getLast? = bs.getLast? := by
  obtain ⟨before, rfl⟩ := ends
  exact (List.getLast?_append_of_ne_nil before nonempty).symm

/-- Paths that agree have the same last name. -/
theorem getLast?_of_agreesWith (names : p.segments ≠ []) (nonempty : full ≠ [])
    (agrees : p.agreesWith full = true) : p.names.getLast? = full.getLast? := by
  rcases agreesWith_iff.1 agrees with inside | outside
  · exact getLast?_of_suffix (mt List.map_eq_nil_iff.1 names) inside
  · exact (getLast?_of_suffix nonempty outside).symm

/-- **A path is looked up by its last name**, where the names of the table differ in it. -/
theorem lookup?_of_ends {found : Option (List String × α)} (whole : ∀ entry ∈ table, entry.1 ≠ [])
    (nonempty : full ≠ [])
    (last : table.find? (fun entry => entry.1.getLast? == full.getLast?) = found)
    (own : ∀ entry ∈ found, entry.1 = full) (ends : p.Ends full) :
    p.lookup? table = found.map (·.2) := by
  have ending := getLast?_of_agreesWith ends.1 nonempty (agreesWith_iff.2 ends.2)
  have other : ∀ entry ∈ table, entry.1.getLast? ≠ full.getLast? →
      ¬p.agreesWith entry.1 = true := fun entry member different agrees =>
    different ((getLast?_of_agreesWith ends.1 (whole entry member) agrees).symm.trans ending)
  rw [lookup?]
  cases found with
  | none =>
    rw [List.find?_eq_none] at last
    rw [List.find?_eq_none.2 fun entry member =>
      other entry member (mt beq_iff_eq.2 (last entry member))]
  | some entry =>
    obtain ⟨-, before, after, rfl, apart⟩ := List.find?_eq_some_iff_append.1 last
    have agrees : p.agreesWith entry.1 = true := by
      rw [own entry rfl]
      exact agreesWith_iff.2 ends.2
    have skipped : ∀ e ∈ before, (!p.agreesWith e.1) = true := fun e member =>
      Bool.not_eq_true' _ ▸ Bool.eq_false_iff.2 (other e (List.mem_append_left _ member)
        fun same => by simpa [same] using apart e member)
    have first : (before ++ entry :: after).find? (fun e => p.agreesWith e.1) = some entry :=
      List.find?_eq_some_iff_append.2 ⟨agrees, before, after, rfl, skipped⟩
    rw [first]

theorem names_of_name? {w : String} (bare : p.name? = some w) : p.names = [w] := by
  unfold name? at bare
  split at bare
  · next segments =>
    cases bare
    rw [names, segments]
    rfl
  · cases bare

/-- The word of a primitive type stands for its empty value. -/
theorem wordValue?_of_name? {q : Primitive} {w : String} (own : q.word? = some w)
    (bare : p.name? = some w) : p.wordValue? = some q.empty := by
  rw [wordValue?, bare]
  show wordValues.lookup w = some q.empty
  cases q with
  | int k => cases own; cases k <;> rfl
  | float k => cases own; cases k <;> rfl
  | boolean | char => cases own; rfl
  | _ => cases own

/-- No path ends in a word. -/
theorem wordValue?_of_ends (nonempty : full ≠ [])
    (apart : ∀ entry ∈ wordValues, full.getLast? ≠ some entry.1) (ends : p.Ends full) :
    p.wordValue? = none := by
  have last := getLast?_of_agreesWith ends.1 nonempty (agreesWith_iff.2 ends.2)
  rw [wordValue?, Option.bind_eq_none_iff]
  intro w bare
  rw [names_of_name? bare] at last
  rw [List.lookup_eq_none_iff]
  intro entry member
  rw [bne_iff_ne]
  intro same
  exact apart entry member (last.symm.trans (congrArg some same))

/-- The end of the path of a primitive type stands for its empty value. -/
theorem pathValue?_of_ends {q : Primitive} (own : q.path? = some full) (ends : p.Ends full) :
    p.wordValue? = none ∧ p.pathValue? = some q.empty := by
  have whole : ∀ entry ∈ pathValues, entry.1 ≠ [] := by decide
  cases q with
  | boolean | int | float | char | bytes => cases own
  | _ =>
    cases own
    exact ⟨wordValue?_of_ends (by decide) (by decide) ends,
      lookup?_of_ends whole (by decide) rfl (fun _ same => by cases same; rfl) ends⟩

theorem wrapper?_of_ends {w : Wrapper} (ends : p.Ends w.path) :
    p.pathValue? = none ∧ p.wrapper? = some w := by
  have nonempty : w.path ≠ [] := by cases w <;> decide
  have absent : pathValues.find? (fun entry => entry.1.getLast? == w.path.getLast?) = none := by
    cases w <;> rfl
  have named : Wrapper.paths.find? (fun entry => entry.1.getLast? == w.path.getLast?) =
      some (w.path, w) := by
    cases w <;> rfl
  exact ⟨lookup?_of_ends (by decide) nonempty absent (fun _ none => nomatch none) ends,
    lookup?_of_ends (by decide) nonempty named (fun _ same => by cases same; rfl) ends⟩

end Code.CodePath

/-! ## Written types -/

namespace Code.TypeExpr

/-- The expression is a way to write the type of fields. -/
inductive Writes : TypeExpr → FieldType → Prop
  | word {p : CodePath} {q : Primitive} {w : String} (own : q.word? = some w)
      (bare : p.name? = some w) : Writes (.path p) (.primitive q)
  | path {p : CodePath} {q : Primitive} {full : List String} (own : q.path? = some full)
      (ends : p.Ends full) : Writes (.path p) (.primitive q)
  /-- A box around a slice of bytes. -/
  | bytes {p b : CodePath} {before after : List Token} (ends : p.Ends Wrapper.box.path)
      (byte : b.name? = some "u8") :
      Writes (.applied p before (.slice (.path b)) after) (.primitive .bytes)
  | option {p : CodePath} {e : TypeExpr} {t : FieldType} {before after : List Token}
      (ends : p.Ends Wrapper.option.path) (inner : Writes e t) :
      Writes (.applied p before e after) (.option t)
  | box {p : CodePath} {e : TypeExpr} {t : FieldType} {before after : List Token}
      (ends : p.Ends Wrapper.box.path) (inner : Writes e t) :
      Writes (.applied p before e after) (.box t)
  | list {p : CodePath} {e : TypeExpr} {t : FieldType} {before after : List Token}
      (ends : p.Ends Wrapper.list.path) (inner : Writes e t) :
      Writes (.applied p before e after) (.list t)

variable {e : TypeExpr} {t : FieldType}

theorem kind_of_word {p : CodePath} {q : Primitive} {w : String} (own : q.word? = some w)
    (bare : p.name? = some w) : (TypeExpr.path p).kind = .ok ⟨q.empty, false⟩ := by
  rw [kind, CodePath.wordValue?_of_name? own bare]

theorem kind_of_byteSlice {b : CodePath} (byte : b.name? = some "u8") :
    (slice (.path b)).kind = .ok ⟨.blob none, false⟩ := by
  have element := kind_of_word (q := .int .uint8) rfl byte
  rw [kind, element]
  rfl

theorem kind_of_wrapper {p : CodePath} {w : Wrapper} {before after : List Token}
    {inner : FieldKind} (ends : p.Ends w.path) (known : e.kind = .ok inner) :
    (applied p before e after).kind = .ok (w.kind inner) := by
  obtain ⟨noValue, wrapper⟩ := CodePath.wrapper?_of_ends ends
  rw [kind, noValue, wrapper, known]
  rfl

/-- **The kind of a written type** is the null of the type, and whether an option is in front. -/
theorem Writes.kind_eq (writes : e.Writes t) : e.kind = .ok ⟨t.empty, t.nullable⟩ := by
  induction writes with
  | word own bare => exact kind_of_word own bare
  | path own ends =>
    obtain ⟨noWord, value⟩ := CodePath.pathValue?_of_ends own ends
    rw [kind, noWord, value]
    rfl
  | bytes ends byte => exact kind_of_wrapper ends (kind_of_byteSlice byte)
  | option ends _ ih => exact kind_of_wrapper ends ih
  | box ends _ ih => exact kind_of_wrapper ends ih
  | list ends _ ih => exact kind_of_wrapper ends ih

end Code.TypeExpr

/-- A plain null is a member of options, and of boxes around them. -/
theorem FieldType.exists_ofValue_null_iff : ∀ {t : FieldType},
    (∃ x, t.ofValue .null = .ok x) ↔ t.nullable = true
  | primitive p => by
    refine ⟨?_, fun never => absurd never Bool.false_ne_true⟩
    rintro ⟨x, read⟩
    cases p <;> cases read
  | option _ => ⟨fun _ => rfl, fun _ => ⟨none, rfl⟩⟩
  | box t => exists_ofValue_null_iff (t := t)
  | list _ => ⟨nofun, nofun⟩

/-! ## Descriptors -/

/-- The mapping of a column describes the type of its field: by the null of the type, with the
digits that are declared if it is one of decimals, and by whether it may be null, which a column of
the key may not. -/
structure FieldMapping.Describes (f : FieldMapping) (t : FieldType) : Prop where
  plain : f.precision = none → f.prototype = t.empty
  digits : ∀ precision, f.precision = some precision →
    t.empty = .decimal none 0 0 ∧ f.prototype = .decimal none precision (f.scale.getD 0)
  nullable : f.nullable = (t.nullable && !f.isKeyed)

variable {t : FieldType}

theorem FieldType.empty_eq_decimal : ∀ {t : FieldType} {content : Option Decimal} {p s : Nat},
    t.empty = .decimal content p s → t.empty = .decimal none 0 0
  | primitive q, _, _, _, decimal => by
    cases q <;> cases decimal
    rfl
  | option t, _, _, _, decimal => empty_eq_decimal (t := t) decimal
  | box t, _, _, _, decimal => empty_eq_decimal (t := t) decimal
  | list _, _, _, _, decimal => nomatch decimal

theorem FieldMapping.describes_of_complete {m f : FieldMapping} (writes : m.type.Writes t)
    (completed : m.complete = .ok f) : f.Describes t := by
  obtain ⟨k, known, ofKind, nullable⟩ := exists_ofKind_of_complete completed
  obtain ⟨prototype, null, rfl, -⟩ := exists_of_complete completed
  rw [writes.kind_eq] at known
  cases known
  refine ⟨ofKind.plain, fun precision declared => ?_, ?_⟩
  · obtain ⟨⟨content, p, s, decimal⟩, same⟩ := ofKind.digits precision declared
    exact ⟨FieldType.empty_eq_decimal decimal, same⟩
  · rw [nullable, isKeyed, bne, Bool.not_not]

/-- A part in the key changes nothing but whether the column may be null. -/
theorem FieldMapping.Describes.rekey {f : FieldMapping} (describes : f.Describes t)
    (places : List Nat) (count i : Nat) : (f.rekey places count i).Describes t where
  plain := describes.plain
  digits := describes.digits
  nullable := by
    show (f.nullable && !places.contains i) = _
    rw [FieldMapping.isKeyed_rekey, describes.nullable]
    rw [Bool.and_assoc, ← Bool.not_or, Bool.or_comm]

/-- **The columns of an accepted declaration describe the types of their fields.** -/
theorem EntityDeclaration.describes_of_mapping {d : EntityDeclaration} {m : EntityMapping}
    (accepted : d.mapping = .ok m) {f : FieldMapping} (member : f ∈ m.columns)
    (writes : f.type.Writes t) : f.Describes t := by
  obtain ⟨fd, -, m₀, f₀, places, i, -, completed, rfl⟩ := exists_complete_of_mapping accepted member
  obtain ⟨prototype, nullable, rfl, -⟩ := FieldMapping.exists_of_complete completed
  have own := FieldMapping.describes_of_complete (m := m₀) writes completed
  exact own.rekey places d.keyCount i

/-- **A written type is understood as the type it writes.** Its kind is the null of the type, and it
may be null exactly when a plain null is a member of the type. The column of a field so written has
this null as its prototype, with the digits that are declared for decimals, and may be null exactly
when a plain null is a member, unless it belongs to the key. -/
theorem Code.TypeExpr.kind_of_writes {e : TypeExpr} (writes : e.Writes t) :
    (∃ k, e.kind = .ok k ∧ k.prototype = t.empty ∧
        (k.nullable = true ↔ ∃ x, t.ofValue .null = .ok x)) ∧
      ∀ (d : EntityDeclaration) (m : EntityMapping), d.mapping = .ok m →
        ∀ f ∈ m.columns, f.type = e →
          (f.precision = none → f.prototype = t.empty) ∧
          (∀ precision, f.precision = some precision →
            t.empty = .decimal none 0 0 ∧ f.prototype = .decimal none precision (f.scale.getD 0)) ∧
          (f.nullable = true ↔ f.key = .outside ∧ ∃ x, t.ofValue .null = .ok x) := by
  refine ⟨⟨_, writes.kind_eq, rfl, FieldType.exists_ofValue_null_iff.symm⟩, ?_⟩
  rintro d m accepted f member rfl
  obtain ⟨plain, digits, nullable⟩ := EntityDeclaration.describes_of_mapping accepted member writes
  refine ⟨plain, digits, ?_⟩
  rw [nullable, FieldType.exists_ofValue_null_iff, FieldMapping.isKeyed, bne, Bool.not_not,
    Bool.and_eq_true, beq_iff_eq, and_comm]

/-- An optional list of bytes in a box, some names with their paths. -/
def boxedBlobs : Code.TypeExpr :=
  .applied (.ofNames ["Box"]) [.mark "<"]
    (.applied (.ofNames ["std", "option", "Option"]) [.mark "<"]
      (.applied (.ofNames ["vec", "Vec"]) [.mark "<"]
        (.applied (.ofNames ["Box"]) [.mark "<"] (.slice (.path (.ofNames ["u8"]))) [.mark ">"])
        [.mark ">"])
      [.mark ">"])
    [.mark ">"]

/-- An entity of boxed blobs. -/
def scanEntity : EntityDeclaration where
  name := "Scan"
  shape := .named
  parameters := []
  attributes := []
  fields := [⟨"pages", boxedBlobs, []⟩]

/-- The mapping of the scans, given the one of their pages. -/
def scanMapping (pages : FieldMapping) : EntityMapping := ⟨"Scan", ⟨"SCAN", ""⟩, [pages]⟩

theorem kind_of_writes_boxedBlobs :
    boxedBlobs.Writes (.box (.option (.list (.primitive .bytes)))) ∧
      (∃ k, boxedBlobs.kind = .ok k ∧ k.prototype = .list none (.blob none) ∧
        k.nullable = true) ∧
      ∃ pages, scanEntity.mapping = .ok (scanMapping pages) ∧
        pages.prototype = .list none (.blob none) ∧ pages.nullable = true := by
  have writes : boxedBlobs.Writes (.box (.option (.list (.primitive .bytes)))) :=
    .box ⟨by decide, by decide⟩ (.option ⟨by decide, by decide⟩ (.list ⟨by decide, by decide⟩
      (.bytes ⟨by decide, by decide⟩ rfl)))
  obtain ⟨⟨k, known, prototype, null⟩, columns⟩ := Code.TypeExpr.kind_of_writes writes
  let pages : FieldMapping := { FieldMapping.ofDeclaration ⟨"pages", boxedBlobs, []⟩ with
    prototype := .list none (.blob none), nullable := true }
  have accepted : scanEntity.mapping = .ok (scanMapping pages) := rfl
  obtain ⟨plain, -, absent⟩ := columns _ _ accepted pages (List.mem_singleton_self _) rfl
  exact ⟨writes, ⟨k, known, prototype, null.2 ⟨none, rfl⟩⟩, pages, accepted, plain rfl,
    absent.2 ⟨rfl, none, rfl⟩⟩

end EntitySql
