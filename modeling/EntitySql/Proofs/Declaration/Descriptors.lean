import EntitySql.Proofs.Declaration.Keys
import EntitySql.Proofs.Value.Denotation
import Mathlib

/-!
# Kinds in descriptors

The prototype of a column comes from the type of its field, with the digits declared for it. It has
no content at any depth, and its digits are numbers of eight bits
(`EntityDeclaration.exists_ofKind_of_mapping`). So what its descriptor says about values denotes
just this prototype (`prototypeTokens_exact`).
-/

namespace EntitySql

set_option autoImplicit false

open Code Outcome

/-- The mapping is one of the declared field, and the digits in it are numbers of eight bits. -/
structure FieldMapping.IsOf (m : FieldMapping) (d : FieldDeclaration) : Prop where
  field : m.field = d.name
  type : m.type = d.type
  precision : ∀ n ∈ m.precision, n < 256
  scale : ∀ n ∈ m.scale, n < 256

theorem isPrototype_wordValue? {p : CodePath} {v : Value} (found : p.wordValue? = some v) :
    v.IsPrototype := by
  obtain ⟨name, -, listed⟩ := Option.bind_eq_some_iff.1 found
  obtain ⟨before, after, same, -⟩ := List.lookup_eq_some_iff.1 listed
  have all : ∀ entry ∈ wordValues, entry.2.IsPrototype := by
    simp only [wordValues, List.forall_mem_cons, List.not_mem_nil, false_implies, implies_true,
      and_true]
    exact ⟨rfl, rfl, rfl, rfl, rfl, rfl, rfl, rfl, rfl, rfl, rfl, rfl⟩
  exact all (name, v) (same ▸ List.mem_append_right _ List.mem_cons_self)

theorem isPrototype_pathValue? {p : CodePath} {v : Value} (found : p.pathValue? = some v) :
    v.IsPrototype := by
  obtain ⟨entry, listed, rfl⟩ := Option.map_eq_some_iff.1 found
  have all : ∀ entry ∈ pathValues, entry.2.IsPrototype := by
    simp only [pathValues, List.forall_mem_cons, List.not_mem_nil, false_implies, implies_true,
      and_true]
    exact ⟨rfl, ⟨rfl, by decide, by decide⟩, rfl, rfl, rfl, rfl, rfl⟩
  exact all entry (List.mem_of_find?_eq_some listed)

/-- The kind of a type has a prototype without contents. -/
theorem Code.TypeExpr.isPrototype_kind {e : TypeExpr} : ∀ {k : FieldKind}, e.kind = .ok k →
    k.prototype.IsPrototype := by
  induction e with
  | path p =>
    intro k known
    rw [kind] at known
    split at known
    · next v found =>
      cases known
      exact isPrototype_wordValue? found
    · next v _ found =>
      cases known
      exact isPrototype_pathValue? found
    · cases known
  | applied p before argument after ih =>
    intro k known
    rw [kind] at known
    split at known
    · next v found =>
      cases known
      exact isPrototype_pathValue? found
    · next w _ _ =>
      obtain ⟨inner, argumentKnown, rfl⟩ := Outcome.map_eq_ok.1 known
      have own := ih argumentKnown
      cases w with
      | option | box => exact own
      | list => exact ⟨rfl, own⟩
    · cases known
  | slice element ih =>
    intro k known
    obtain ⟨inner, elementKnown, rfl⟩ := Outcome.map_eq_ok.1 known
    unfold sliceKind
    split
    · rfl
    · exact ⟨rfl, ih elementKnown⟩
  | other written =>
    intro k known
    cases known

theorem lt_of_smallNumber? {written : String} {n : Nat} (read : smallNumber? written = some n) :
    n < 256 := by
  unfold smallNumber? at read
  split at read
  · split at read
    · next _ small =>
      cases read
      exact of_decide_eq_true (Bool.and_eq_true_iff.1 small).2
    · cases read
  · cases read

namespace FieldMapping

variable {m f : FieldMapping} {d : FieldDeclaration}

theorem isOf_ofDeclaration (d : FieldDeclaration) : (ofDeclaration d).IsOf d :=
  ⟨rfl, rfl, by rintro _ ⟨⟩, by rintro _ ⟨⟩⟩

/-- An entry changes neither the field nor its type, and digits are read as numbers of eight
bits. -/
theorem IsOf.set? {key : FieldKey} {value : Option EntryValue} (own : m.IsOf d)
    (set : m.set? key value = some f) : f.IsOf d := by
  unfold FieldMapping.set? at set
  split at set
  case h_10 => cases set
  case h_5 =>
    obtain ⟨n, read, rfl⟩ := Option.map_eq_some_iff.1 set
    exact { own with scale := fun _ same => Option.some.inj same ▸ lt_of_smallNumber? read }
  case h_6 =>
    obtain ⟨n, read, rfl⟩ := Option.map_eq_some_iff.1 set
    exact { own with precision := fun _ same => Option.some.inj same ▸ lt_of_smallNumber? read }
  all_goals
    first
    | obtain ⟨_, _, rfl⟩ := Option.map_eq_some_iff.1 set
      exact { own with }
    | cases set
      exact { own with }

theorem IsOf.run : ∀ {es : List AttributeEntry} {m f : FieldMapping}, m.IsOf d →
    es.foldlM apply m = .ok f → f.IsOf d
  | [], _, _, own, run => by
    cases run
    exact own
  | e :: es, _, _, own, run => by
    obtain ⟨m₁, step, run⟩ := foldlM_cons_eq_ok.1 run
    obtain ⟨key, -, set⟩ := apply_eq_ok.1 step
    exact (own.set? set).run run

theorem IsOf.complete (own : m.IsOf d) (completed : m.complete = .ok f) : f.IsOf d := by
  obtain ⟨prototype, nullable, rfl, -⟩ := exists_of_complete completed
  exact { own with }

theorem OfKind.rekey {k : FieldKind} (ofKind : f.OfKind k) (places : List Nat) (count i : Nat) :
    (f.rekey places count i).OfKind k :=
  ⟨ofKind.plain, ofKind.digits⟩

/-- A prototype of a kind with digits of eight bits is one itself. -/
theorem OfKind.isPrototype {k : FieldKind} (ofKind : f.OfKind k) (own : f.IsOf d)
    (kind : k.prototype.IsPrototype) : f.prototype.IsPrototype := by
  cases declared : f.precision with
  | none =>
    rw [ofKind.plain declared]
    exact kind
  | some precision =>
    have small := own.precision precision declared
    have scale : f.scale.getD 0 < 256 := by
      cases declaredScale : f.scale with
      | none => exact Nat.zero_lt_of_lt small
      | some n => exact own.scale n declaredScale
    rw [(ofKind.digits precision declared).2]
    exact ⟨rfl, small, scale⟩

end FieldMapping

/-- **The prototype of a column** is that of the kind of a declared field. -/
theorem EntityDeclaration.exists_ofKind_of_mapping {d : EntityDeclaration} {m : EntityMapping}
    (accepted : d.mapping = .ok m) {f : FieldMapping} (member : f ∈ m.columns) :
    ∃ fd ∈ d.fields, f.field = fd.name ∧ ∃ k, fd.type.kind = .ok k ∧ f.OfKind k ∧
      f.prototype.IsPrototype := by
  obtain ⟨fd, declared, m₀, f₀, places, i, run, completed, rfl⟩ :=
    exists_complete_of_mapping accepted member
  obtain ⟨k, known, ofKind, -⟩ := FieldMapping.exists_ofKind_of_complete completed
  have entries : m₀.IsOf fd := (FieldMapping.isOf_ofDeclaration fd).run run
  have own : f₀.IsOf fd := entries.complete completed
  rw [entries.type] at known
  exact ⟨fd, declared, own.field, k, known, ofKind.rekey places d.keyCount i,
    ofKind.isPrototype own (Code.TypeExpr.isPrototype_kind known)⟩

/-! ## Descriptors -/

/-- **Descriptors say exactly the kind.** Values are written alike exactly when they are of the same
type. What is written stands for the value without its contents, if its digits are numbers of eight
bits, and for nothing else; so a prototype stands for itself, and what a null stands for equals it.
The descriptor of a column stands for the prototype of the column, which is that of the kind of its
field, with the digits that are declared. -/
theorem prototypeTokens_exact :
    (∀ v w : Value, v.prototypeTokens = w.prototypeTokens ↔ v.sameType w = true) ∧
      (∀ v w : Value, Denotes v.prototypeTokens w ↔ v.DigitsFit ∧ w = v.bare) ∧
      (∀ p : Value, p.IsPrototype → ∀ w, Denotes p.prototypeTokens w ↔ w = p) ∧
      (∀ v w : Value, v.isNull = true → Denotes v.prototypeTokens w → v.equals w = true) ∧
      ∀ (d : EntityDeclaration) (m : EntityMapping), d.mapping = .ok m →
        ∀ (i : Nat) (f : FieldMapping), m.columns[i]? = some f →
          ∃ fd ∈ d.fields, f.field = fd.name ∧ ∃ k, fd.type.kind = .ok k ∧ f.OfKind k ∧
            ∃ members, m.descriptors[i]? = some members ∧ ∃ ts, members.lookup "value" = some ts ∧
              ∀ w, Denotes ts w ↔ w = f.prototype := by
  have ofPrototype (p : Value) (own : p.IsPrototype) (w : Value) :
      Denotes p.prototypeTokens w ↔ w = p := by
    obtain ⟨fits, bare⟩ := p.isPrototype_iff.1 own
    rw [denotes_prototypeTokens_iff, bare]
    exact and_iff_right fits
  refine ⟨fun _ _ => prototypeTokens_eq_iff, fun _ _ => denotes_prototypeTokens_iff, ofPrototype,
    ?_, ?_⟩
  · intro v w null stands
    obtain ⟨-, rfl⟩ := denotes_prototypeTokens_iff.1 stands
    exact Value.equals_bare null
  · intro d m accepted i f found
    obtain ⟨fd, member, named, k, known, ofKind, own⟩ :=
      EntityDeclaration.exists_ofKind_of_mapping accepted (List.mem_of_getElem? found)
    have described : m.descriptors[i]? = some (f.descriptor i) := by
      rw [EntityMapping.descriptors, List.getElem?_mapIdx, found]
      rfl
    exact ⟨fd, member, named, k, known, ofKind, f.descriptor i, described,
      f.prototype.prototypeTokens, rfl, ofPrototype _ own⟩

/-- The type of decimals. -/
def decimalType : TypeExpr := .path (.ofNames ["rust_decimal", "Decimal"])

/-- The type of lists whose members are of the type. -/
def listType (e : TypeExpr) : TypeExpr := .applied (.ofNames ["Vec"]) [.mark "<"] e [.mark ">"]

/-- A sum of twelve digits, two of them behind the point. -/
def totalField : FieldDeclaration where
  name := "total"
  type := decimalType
  attributes := [.ofMapping [.word "precision", .mark "=", .literal "12", .mark ",",
    .word "scale", .mark "=", .literal "2"]]

/-- An invoice has a sum and tables of amounts. -/
def invoiceEntity : EntityDeclaration where
  name := "Invoice"
  shape := .named
  parameters := []
  attributes := []
  fields := [totalField, ⟨"tables", listType (listType decimalType), []⟩]

/-- The sum as a column. -/
def totalColumn : FieldMapping :=
  { FieldMapping.ofDeclaration totalField with
    prototype := .decimal none 12 2, precision := some 12, scale := some 2 }

/-- The tables as a column. -/
def tablesColumn : FieldMapping :=
  { FieldMapping.ofDeclaration ⟨"tables", listType (listType decimalType), []⟩ with
    prototype := .list none (.list none (.decimal none 0 0)) }

/-- The mapping of invoices. -/
def invoiceMapping : EntityMapping := ⟨"Invoice", ⟨"INVOICE", ""⟩, [totalColumn, tablesColumn]⟩

theorem mapping_totalField : totalField.mapping = .ok totalColumn := by
  have twelve : smallNumber? "12" = some 12 := by cbv
  have two : smallNumber? "2" = some 2 := by cbv
  refine FieldDeclaration.mapping_eq_ok_iff.2 ⟨List.forall_mem_singleton.2 fun _ => rfl,
    { FieldMapping.ofDeclaration totalField with precision := some 12, scale := some 2 }, ?_, rfl⟩
  refine foldlM_cons_eq_ok.2 ⟨{ FieldMapping.ofDeclaration totalField with precision := some 12 },
    FieldMapping.apply_eq_ok.2 ⟨.precision, rfl, ?_⟩,
    foldlM_cons_eq_ok.2 ⟨_, FieldMapping.apply_eq_ok.2 ⟨.scale, rfl, ?_⟩, rfl⟩⟩
  · show (smallNumber? "12").map _ = _
    rw [twelve]
    rfl
  · show (smallNumber? "2").map _ = _
    rw [two]
    rfl

theorem mapping_invoiceEntity : invoiceEntity.mapping = .ok invoiceMapping :=
  EntityDeclaration.mapping_eq_ok_iff.2 ⟨rfl, rfl, nofun, [totalColumn, tablesColumn], _, _,
    .cons mapping_totalField (.cons rfl .nil), rfl, rfl, rfl⟩

/-- A null list whose prototype of elements has a content. -/
def filledList : Value := .list none (.char (some 'x'))

theorem prototypeTokens_exact_invoice :
    tablesColumn.prototype.IsPrototype ∧
      (∀ w, Denotes tablesColumn.prototype.prototypeTokens w ↔ w = tablesColumn.prototype) ∧
      filledList.isNull = true ∧ Denotes filledList.prototypeTokens (.list none (.char none)) ∧
      filledList.equals (.list none (.char none)) = true ∧
      invoiceEntity.mapping = .ok invoiceMapping ∧ invoiceMapping.columns[0]? = some totalColumn ∧
      ∃ fd ∈ invoiceEntity.fields, "total" = fd.name ∧ ∃ k, fd.type.kind = .ok k ∧
        totalColumn.OfKind k ∧ ∃ members, invoiceMapping.descriptors[0]? = some members ∧
          ∃ ts, members.lookup "value" = some ts ∧ ∀ w, Denotes ts w ↔ w = .decimal none 12 2 := by
  obtain ⟨-, stands, ofPrototype, ofNull, columns⟩ := prototypeTokens_exact
  have tables : tablesColumn.prototype.IsPrototype := ⟨rfl, rfl, rfl, by decide, by decide⟩
  have filled : Denotes filledList.prototypeTokens (.list none (.char none)) :=
    (stands _ _).2 ⟨trivial, rfl⟩
  exact ⟨tables, ofPrototype _ tables, rfl, filled, ofNull _ _ rfl filled, mapping_invoiceEntity,
    rfl, columns _ _ mapping_invoiceEntity 0 totalColumn rfl⟩

end EntitySql
