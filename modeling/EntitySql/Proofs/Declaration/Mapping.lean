import EntitySql.Declaration.Table
import EntitySql.Proofs.Outcome

/-!
# Accepted declarations

What an accepted declaration is made of: the entries of its attributes are applied one after the
other, to each field and then to the entity, and at last the key of the entity is settled
(`FieldDeclaration.mapping_eq_ok_iff`, `EntityDeclaration.mapping_eq_ok_iff`).

Settling the key changes nothing about a field but its part in the key and whether it may be null
(`applyKey_eq`).
-/

namespace EntitySql

set_option autoImplicit false

namespace Outcome

variable {ε ε' α β : Type}

theorem mapError_eq_ok {x : Except ε α} {f : ε → ε'} {a : α} :
    x.mapError f = .ok a ↔ x = .ok a := by
  cases x <;> simp [Except.mapError]

theorem foldlM_cons_eq_ok {f : α → β → Except ε α} {a a' : α} {b : β} {bs : List β} :
    (b :: bs).foldlM f a = .ok a' ↔ ∃ a₁, f a b = .ok a₁ ∧ bs.foldlM f a₁ = .ok a' := by
  rw [List.foldlM_cons, bind_eq_ok]

theorem foldlM_append_eq_ok {f : α → β → Except ε α} {a a' : α} {bs cs : List β} :
    (bs ++ cs).foldlM f a = .ok a' ↔ ∃ a₁, bs.foldlM f a = .ok a₁ ∧ cs.foldlM f a₁ = .ok a' := by
  rw [List.foldlM_append, bind_eq_ok]

/-- Every step of a run that succeeds has succeeded. -/
theorem exists_step_of_foldlM {f : α → β → Except ε α} {a a' : α} {bs : List β}
    (run : bs.foldlM f a = .ok a') : ∀ b ∈ bs, ∃ a₁ a₂, f a₁ b = .ok a₂ := by
  intro b member
  obtain ⟨before, after, rfl⟩ := List.append_of_mem member
  obtain ⟨a₁, -, rest⟩ := foldlM_append_eq_ok.1 run
  obtain ⟨a₂, step, -⟩ := foldlM_cons_eq_ok.1 rest
  exact ⟨a₁, a₂, step⟩

/-- What holds before a run holds after it, unless a step on the way ends it. -/
theorem holds_or_of_foldlM {f : α → β → Except ε α} (holds : α → Prop) (ends : β → Prop)
    (step : ∀ {a a' : α} {b : β}, f a b = .ok a' → holds a → holds a' ∨ ends b) :
    ∀ {bs : List β} {a a' : α}, bs.foldlM f a = .ok a' → holds a → holds a' ∨ ∃ b ∈ bs, ends b
  | [], _, _, run, before => by
    cases run
    exact .inl before
  | b :: bs, a, a', run, before => by
    obtain ⟨a₁, first, run⟩ := foldlM_cons_eq_ok.1 run
    rcases step first before with after | ended
    · refine (holds_or_of_foldlM holds ends step run after).imp_right ?_
      rintro ⟨later, member, ended⟩
      exact ⟨later, .tail _ member, ended⟩
    · exact .inr ⟨b, .head _, ended⟩

end Outcome

open Code Outcome

/-! ## Entries -/

/-- The entries of the attributes that concern the mapping, in their order. -/
def mappingEntries (attributes : List Attribute) : List AttributeEntry :=
  (attributes.filter Attribute.isMapping).flatMap fun a => a.entries?.getD []

/-- Attributes that concern the mapping are written as lists. -/
def AreLists (attributes : List Attribute) : Prop :=
  ∀ a ∈ attributes, a.isMapping = true → a.arguments.isSome = true

/-- Attribute by attribute, the entries are applied one after the other. -/
theorem foldlM_attributes {σ : Type} {apply : σ → Attribute → Except Misuse σ}
    {step : σ → AttributeEntry → Except Misuse σ} {fault : Misuse}
    (each : ∀ s a, apply s a = if a.isMapping then
      match a.entries? with
      | none => .error fault
      | some entries => entries.foldlM step s
      else .ok s) : ∀ {attributes : List Attribute} {s s' : σ},
    attributes.foldlM apply s = .ok s' ↔
      AreLists attributes ∧ (mappingEntries attributes).foldlM step s = .ok s'
  | [], s, s' => by simp [AreLists, mappingEntries]
  | a :: attributes, s, s' => by
    rw [foldlM_cons_eq_ok, AreLists, List.forall_mem_cons, each]
    simp only [foldlM_attributes each]
    cases mapping : a.isMapping with
    | false => simp [mappingEntries, mapping, AreLists]
    | true =>
      have entries : mappingEntries (a :: attributes) =
          a.entries?.getD [] ++ mappingEntries attributes := by
        simp [mappingEntries, mapping]
      rw [entries, foldlM_append_eq_ok, Attribute.entries?]
      cases a.arguments with
      | none => simp
      | some ts =>
        simp only [Option.map_some, if_true, Option.getD_some, Option.isSome_some, true_and,
          forall_const]
        constructor
        · rintro ⟨t, first, lists, rest⟩
          exact ⟨lists, t, first, rest⟩
        · rintro ⟨lists, t, first, rest⟩
          exact ⟨t, first, lists, rest⟩

/-! ## Fields -/

namespace FieldMapping

theorem apply_eq_ok {m m' : FieldMapping} {entry : AttributeEntry} :
    m.apply entry = .ok m' ↔
      ∃ key, FieldKey.ofPath? entry.path = some key ∧ m.set? key entry.value = some m' := by
  unfold apply
  cases FieldKey.ofPath? entry.path with
  | none => simp
  | some key =>
    simp only [Option.some.injEq, exists_eq_left']
    cases m.set? key entry.value <;> simp

theorem exists_of_complete {m m' : FieldMapping} (completed : m.complete = .ok m') :
    ∃ prototype nullable, m' = { m with prototype, nullable } ∧
      (m.key ≠ .outside → nullable = false) := by
  obtain ⟨kind, -, rest⟩ := bind_eq_ok.1 completed
  have never : m.key ≠ .outside → (kind.nullable && m.key == .outside) = false := by
    intro inside
    rw [beq_eq_false_iff_ne.2 inside, Bool.and_false]
  dsimp only at rest
  split at rest
  · cases rest
    exact ⟨_, _, rfl, never⟩
  · cases rest
  · cases rest
    exact ⟨_, _, rfl, never⟩

/-- The prototype of the column is the one of the kind, with the digits that are declared if it is
one of decimals. -/
structure OfKind (f : FieldMapping) (k : FieldKind) : Prop where
  plain : f.precision = none → f.prototype = k.prototype
  digits : ∀ precision, f.precision = some precision →
    (∃ content p s, k.prototype = .decimal content p s) ∧
      f.prototype = .decimal none precision (f.scale.getD 0)

/-- **A column takes its prototype from the type of its field,** and whether it may be null, which a
column of the key may not. -/
theorem exists_ofKind_of_complete {m f : FieldMapping} (completed : m.complete = .ok f) :
    ∃ k, m.type.kind = .ok k ∧ f.OfKind k ∧ f.nullable = (k.nullable && m.key == .outside) := by
  obtain ⟨k, known, rest⟩ := bind_eq_ok.1 completed
  refine ⟨k, mapError_eq_ok.1 known, ?_⟩
  dsimp only at rest
  split at rest
  · next content p s precision decimal declared =>
    cases rest
    refine ⟨⟨fun none => ?_, fun other same => ?_⟩, rfl⟩
    · rw [declared] at none
      cases none
    · cases declared.symm.trans same
      exact ⟨⟨_, _, _, decimal⟩, rfl⟩
  · cases rest
  · next prototype none =>
    cases rest
    exact ⟨⟨fun _ => rfl, fun _ some => nomatch none.symm.trans some⟩, rfl⟩

end FieldMapping

theorem FieldMapping.foldlM_applyAttribute {attributes : List Attribute} {m m' : FieldMapping} :
    attributes.foldlM FieldMapping.applyAttribute m = .ok m' ↔
      AreLists attributes ∧ (mappingEntries attributes).foldlM FieldMapping.apply m = .ok m' :=
  foldlM_attributes fun _ _ => rfl

theorem TableEntries.foldlM_applyAttribute {typeName : String} {fields : List FieldMapping}
    {attributes : List Attribute} {t t' : TableEntries} :
    attributes.foldlM (TableEntries.applyAttribute typeName fields) t = .ok t' ↔
      AreLists attributes ∧
        (mappingEntries attributes).foldlM (TableEntries.apply typeName fields) t = .ok t' :=
  foldlM_attributes fun _ _ => rfl

namespace FieldDeclaration

variable {d : FieldDeclaration} {f : FieldMapping}

/-- **A field:** its entries are applied, and if it is kept in a column what its type says is
added. -/
theorem mapping_eq_ok_iff :
    d.mapping = .ok f ↔
      AreLists d.attributes ∧ ∃ m,
        (mappingEntries d.attributes).foldlM FieldMapping.apply (.ofDeclaration d) = .ok m ∧
        (if m.role = .column then m.complete.mapError DeclarationFault.refused else .ok m) =
          .ok f := by
  refine bind_eq_ok.trans ?_
  simp only [mapError_eq_ok, FieldMapping.foldlM_applyAttribute, and_assoc, exists_and_left]
  rfl

/-- Types add the kind of the values and whether they may be null, which a column of the key never
may. -/
theorem exists_of_mapping (accepted : d.mapping = .ok f) :
    ∃ m prototype nullable,
      (mappingEntries d.attributes).foldlM FieldMapping.apply (.ofDeclaration d) = .ok m ∧
      f = { m with prototype, nullable } ∧
      (m.role = .column → m.key ≠ .outside → nullable = false) := by
  obtain ⟨-, m, run, rest⟩ := mapping_eq_ok_iff.1 accepted
  refine ⟨m, ?_⟩
  split at rest
  · obtain ⟨prototype, nullable, rfl, never⟩ :=
      FieldMapping.exists_of_complete (mapError_eq_ok.1 rest)
    exact ⟨prototype, nullable, run, rfl, fun _ => never⟩
  · next other =>
    cases rest
    exact ⟨_, _, run, rfl, fun column => absurd column other⟩

end FieldDeclaration

/-! ## Entities -/

/-- **An entity:** its fields are mapped, its entries are applied, and the key is settled. -/
theorem EntityDeclaration.mapping_eq_ok_iff {d : EntityDeclaration} {m : EntityMapping} :
    d.mapping = .ok m ↔
      d.shape = .named ∧ d.isParametric = false ∧ AreLists d.attributes ∧ ∃ fields t settled,
        List.Forall₂ (fun fd f => FieldDeclaration.mapping fd = .ok f) d.fields fields ∧
        (mappingEntries d.attributes).foldlM (TableEntries.apply d.name fields)
          ⟨⟨defaultTable d.name, ""⟩, []⟩ = .ok t ∧
        applyKey t.key fields = .ok settled ∧ ⟨d.name, t.table, settled⟩ = m := by
  constructor
  · intro accepted
    unfold mapping at accepted
    by_cases named : d.shape = .named
    · cases parametric : d.isParametric with
      | true =>
        rw [named, parametric] at accepted
        cases accepted
      | false =>
        rw [named, parametric] at accepted
        obtain ⟨fields, mapped, rest⟩ := bind_eq_ok.1 accepted
        obtain ⟨t, run, rest⟩ := bind_eq_ok.1 rest
        obtain ⟨settled, key, rest⟩ := bind_eq_ok.1 rest
        obtain ⟨lists, run⟩ := TableEntries.foldlM_applyAttribute.1 (mapError_eq_ok.1 run)
        exact ⟨named, rfl, lists, fields, t, settled, mapM_eq_ok.1 mapped, run,
          mapError_eq_ok.1 key, pure_eq_ok.1 rest⟩
    · simp only [ne_eq, named, not_false_eq_true, if_true] at accepted
      cases accepted
  · rintro ⟨named, simple, lists, fields, t, settled, mapped, run, key, rfl⟩
    unfold mapping
    rw [named, simple]
    refine bind_eq_ok.2 ⟨fields, mapM_eq_ok.2 mapped, ?_⟩
    refine bind_eq_ok.2 ⟨t, ?_, bind_eq_ok.2 ⟨settled, ?_, rfl⟩⟩
    · exact mapError_eq_ok.2 (TableEntries.foldlM_applyAttribute.2 ⟨lists, run⟩)
    · exact mapError_eq_ok.2 key

/-! ## Settling the key -/

/-- The part of a field in a key of so many members. -/
def keyPart (count : Nat) (inside : Bool) : KeyRole :=
  if inside then if count = 1 then .whole else .part else .outside

/-- The field has a part in the key. -/
def FieldMapping.isKeyed (f : FieldMapping) : Bool := f.key != .outside

/-- The field with its part in a key of so many members, some of them at the places. -/
def FieldMapping.rekey (places : List Nat) (count i : Nat) (f : FieldMapping) : FieldMapping :=
  { f with
    key := keyPart count (places.contains i || f.isKeyed)
    nullable := f.nullable && !places.contains i }

variable {places : List Nat} {fields settled : List FieldMapping} {f : FieldMapping} {n : Nat}

theorem FieldMapping.rekey_of_outside {i : Nat} (away : places.contains i = false)
    (outside : f.key = .outside) : f.rekey places n i = f := by
  unfold rekey isKeyed
  rw [away, outside]
  cases f
  cases outside
  simp [keyPart]

theorem FieldMapping.rekey_nil {i : Nat} (keyed : f.isKeyed = true) :
    f.rekey [] n i = { f with key := if n = 1 then .whole else .part } := by
  unfold rekey
  rw [keyed]
  simp [keyPart]

/-- A list is changed member by member, each at its place. -/
theorem mapIdx_congr {α β : Type} {g h : Nat → α → β} {as : List α}
    (each : ∀ i, ∀ a ∈ as, g i a = h i a) : as.mapIdx g = as.mapIdx h := by
  refine List.ext_getElem? fun i => ?_
  rw [List.getElem?_mapIdx, List.getElem?_mapIdx]
  exact Option.map_congr fun a found => each i a (List.mem_of_getElem? found)

theorem map_eq_mapIdx {α β : Type} (g : α → β) (as : List α) :
    as.map g = as.mapIdx fun _ => g :=
  List.ext_getElem? fun i => by rw [List.getElem?_map, List.getElem?_mapIdx]

theorem settleKey_eq (fresh : ∀ f ∈ fields, f.key = .outside ∨ f.key = .whole) :
    settleKey fields =
      fields.mapIdx (FieldMapping.rekey [] (fields.countP FieldMapping.isKeyed)) := by
  have count : (fields.filter fun f => f.key != .outside).length =
      fields.countP FieldMapping.isKeyed := List.countP_eq_length_filter.symm
  have unkeyed : ∀ (i : Nat) (f : FieldMapping), f.key = .outside →
      f = f.rekey [] (fields.countP FieldMapping.isKeyed) i :=
    fun i f outside => (FieldMapping.rekey_of_outside rfl outside).symm
  rw [settleKey, count]
  split
  · next several =>
    rw [map_eq_mapIdx]
    refine mapIdx_congr fun i f member => ?_
    split
    · next keyed => rw [FieldMapping.rekey_nil keyed, if_neg (Nat.ne_of_gt several)]
    · next away => exact unkeyed i f (not_not.1 (bne_iff_ne.not.1 away))
  · next few =>
    refine (List.map_id fields).symm.trans ((map_eq_mapIdx _ _).trans ?_)
    refine mapIdx_congr fun i f member => ?_
    rcases fresh f member with outside | whole
    · exact unkeyed i f outside
    · have keyed : f.isKeyed = true := by
        rw [FieldMapping.isKeyed, whole]
        rfl
      have some : 0 < fields.countP FieldMapping.isKeyed := List.countP_pos_iff.2 ⟨f, member, keyed⟩
      have one : fields.countP FieldMapping.isKeyed = 1 := by omega
      rw [FieldMapping.rekey_nil keyed, one, if_pos rfl, ← whole]
      rfl

/-- **Settling the key:** the members of the key are the places or the fields that have declared
it, and every member has the part that their number gives. -/
theorem applyKey_eq (accepted : applyKey places fields = .ok settled)
    (fresh : ∀ f ∈ fields, f.key = .outside ∨ f.key = .whole) :
    settled = fields.mapIdx
      (FieldMapping.rekey places (places.length + fields.countP FieldMapping.isKeyed)) := by
  unfold applyKey at accepted
  split at accepted
  · next none =>
    cases List.isEmpty_iff.1 none
    cases accepted
    rw [settleKey_eq fresh, List.length_nil, Nat.zero_add]
  · split at accepted
    · cases accepted
    · next free =>
      cases accepted
      have unkeyed : ∀ f ∈ fields, ¬f.isKeyed = true := List.find?_eq_none.1 free
      rw [List.countP_eq_zero.2 unkeyed, Nat.add_zero]
      refine mapIdx_congr fun i f member => ?_
      split
      · next named =>
        unfold FieldMapping.rekey
        rw [named, Bool.true_or, Bool.not_true, Bool.and_false]
        rfl
      · next away =>
        exact (FieldMapping.rekey_of_outside (Bool.eq_false_iff.2 away)
          (not_not.1 (bne_iff_ne.not.1 (unkeyed f member)))).symm

end EntitySql
