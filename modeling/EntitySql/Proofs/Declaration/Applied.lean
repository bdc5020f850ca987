import EntitySql.Proofs.Declaration.Keys
import EntitySql.Proofs.Declaration.Lists

/-!
# Entries of accepted declarations

A list that is not written as lists are is cut short where its reading stops. The mapping of an
accepted declaration is that of the declaration with only what has been read of its lists, and shows
every entry of these; nothing has been cut off exactly when all its lists are well written
(`EntityDeclaration.mapping_applied`).
-/

namespace EntitySql

set_option autoImplicit false

open Code Outcome

/-! ## What mappings show -/

namespace FieldKey

/-- What an entry with the key is about; a field is contained or skipped by its role. -/
def member : FieldKey → FieldKey
  | skip => inherit
  | key => key

end FieldKey

namespace FieldMapping

/-- The mapping of a field says what the entry with the key says. -/
def Shows (m : FieldMapping) : FieldKey → Option EntryValue → Prop
  | .name, v => v = some (.text m.name)
  | .primaryKey, v => v = none ∧ m.isKeyed = true
  | .storage, v => ∃ name, v = some (.text name) ∧ Storage.ofName? name = some m.storage
  | .charset, v => ∃ label, v = some (.text label) ∧ Text.Charset.ofLabel? label = some m.charset
  | .scale, v => ∃ written n, v = some (.literal written) ∧ smallNumber? written = some n ∧
    m.scale = some n
  | .precision, v => ∃ written n, v = some (.literal written) ∧ smallNumber? written = some n ∧
    m.precision = some n
  | .converter, v => ∃ path, v = some (.path path) ∧ m.converter = some path
  | .inherit, v => v = none ∧ m.role = .inherit
  | .skip, v => v = none ∧ m.role = .skip

variable {m m' : FieldMapping} {key other : FieldKey} {v w : Option EntryValue}

/-- An entry that is applied is shown. -/
theorem shows_of_set? (set : m.set? key v = some m') : m'.Shows key v := by
  unfold set? at set
  split at set
  · cases set
    rfl
  · cases set
    exact ⟨rfl, rfl⟩
  · obtain ⟨storage, read, rfl⟩ := Option.map_eq_some_iff.1 set
    exact ⟨_, rfl, read⟩
  · obtain ⟨charset, read, rfl⟩ := Option.map_eq_some_iff.1 set
    exact ⟨_, rfl, read⟩
  · obtain ⟨n, read, rfl⟩ := Option.map_eq_some_iff.1 set
    exact ⟨_, n, rfl, read, rfl⟩
  · obtain ⟨n, read, rfl⟩ := Option.map_eq_some_iff.1 set
    exact ⟨_, n, rfl, read, rfl⟩
  · cases set
    exact ⟨_, rfl, rfl⟩
  · cases set
    exact ⟨rfl, rfl⟩
  · cases set
    exact ⟨rfl, rfl⟩
  · cases set

/-- What is shown stays until an entry about the same member is applied. -/
theorem Shows.set? (shown : m.Shows key v) (set : m.set? other w = some m')
    (apart : other.member ≠ key.member) : m'.Shows key v := by
  unfold FieldMapping.set? at set
  split at set
  case h_10 => cases set
  all_goals
    first
    | obtain ⟨_, _, rfl⟩ := Option.map_eq_some_iff.1 set
    | cases set
  all_goals
    cases key <;> first | exact shown | exact absurd rfl apart

/-- Nothing in the value of an entry that is applied has been left unread. -/
theorem isClear_of_set? {u : EntryValue} (set : m.set? key (some u) = some m') :
    u.isClear = true := by
  unfold FieldMapping.set? at set
  split at set
  case h_10 => cases set
  all_goals
    first
    | cases (‹some u = none›)
    | cases (‹some u = some _›)
      rfl

theorem exists_shows_of_apply {e : AttributeEntry} (applied : m.apply e = .ok m') :
    ∃ key, FieldKey.ofPath? e.path = some key ∧ m'.Shows key e.value := by
  obtain ⟨key, path, set⟩ := apply_eq_ok.1 applied
  exact ⟨key, path, shows_of_set? set⟩

/-- The mapping shows every entry of the list, unless a later one is about the same member. -/
def ShowsAll (m : FieldMapping) (es : List AttributeEntry) : Prop :=
  ∀ before e after, es = before ++ e :: after →
    ∃ key, FieldKey.ofPath? e.path = some key ∧
      (m.Shows key e.value ∨ ∃ later ∈ after, ∃ other,
        FieldKey.ofPath? later.path = some other ∧ other.member = key.member)

/-- What is shown stays, unless an entry about the same member comes later. -/
theorem shows_or_of_run {es : List AttributeEntry} (shown : m.Shows key v)
    (run : es.foldlM apply m = .ok m') :
    m'.Shows key v ∨ ∃ later ∈ es, ∃ other,
      FieldKey.ofPath? later.path = some other ∧ other.member = key.member := by
  refine holds_or_of_foldlM (fun m => m.Shows key v) _ (fun {m m' e} step shown => ?_) run shown
  obtain ⟨other, path, set⟩ := apply_eq_ok.1 step
  by_cases same : other.member = key.member
  · exact .inr ⟨other, path, same⟩
  · exact .inl (Shows.set? shown set same)

/-- **Entries applied** one after the other are shown in the end. -/
theorem showsAll_of_run {es : List AttributeEntry} (run : es.foldlM apply m = .ok m') :
    m'.ShowsAll es := by
  rintro before e after rfl
  obtain ⟨m₁, -, run⟩ := foldlM_append_eq_ok.1 run
  obtain ⟨m₂, step, run⟩ := foldlM_cons_eq_ok.1 run
  obtain ⟨key, path, shown⟩ := exists_shows_of_apply step
  exact ⟨key, path, shows_or_of_run shown run⟩

/-- What is shown does not depend on the type, and settling the key leaves it. -/
theorem Shows.rekey {places : List Nat} {n i : Nat} (shown : m.Shows key v) :
    (m.rekey places n i).Shows key v := by
  cases key
  case primaryKey =>
    refine ⟨shown.1, ?_⟩
    rw [isKeyed_rekey, shown.2, Bool.or_true]
  all_goals exact shown

end FieldMapping

theorem FieldMapping.Shows.complete {m : FieldMapping} {key : FieldKey} {v : Option EntryValue}
    (shown : m.Shows key v) (prototype : Value) (nullable : Bool) :
    FieldMapping.Shows { m with prototype, nullable } key v := by
  cases key <;> exact shown

/-- An accepted field shows its entries, whatever key is settled. -/
theorem FieldDeclaration.showsAll_of_mapping {d : FieldDeclaration} {f : FieldMapping}
    (accepted : d.mapping = .ok f) (places : List Nat) (n i : Nat) :
    (f.rekey places n i).ShowsAll (mappingEntries d.attributes) := by
  obtain ⟨m, prototype, nullable, run, rfl, -⟩ := exists_of_mapping accepted
  intro before e after split
  obtain ⟨key, path, shown⟩ := FieldMapping.showsAll_of_run run before e after split
  exact ⟨key, path, shown.imp_left fun shown => (shown.complete prototype nullable).rekey⟩

/-! ## What mappings of entities show -/

/-- The table, or the columns at the places, are what the entry with the key says. -/
def TableKey.Says (typeName : String) (fields : List FieldMapping) (table : TableRef)
    (keyed : Nat → Prop) : TableKey → Option EntryValue → Prop
  | .name, v => v = some (.text table.name)
  | .schema, v => v = some (.text table.schema)
  | .primaryKey, v => ∃ value places, v = some value ∧
    keyPlaces typeName fields value = .ok places ∧ ∀ i ∈ places, keyed i

namespace TableEntries

variable {typeName : String} {fields : List FieldMapping} {t t' : TableEntries}
  {e : AttributeEntry} {key : TableKey} {v : Option EntryValue}

/-- What is declared so far says what the entry says. -/
def Shows (typeName : String) (fields : List FieldMapping) (t : TableEntries) :
    TableKey → Option EntryValue → Prop :=
  TableKey.Says typeName fields t.table (· ∈ t.key)

/-- **One entry** is shown, and leaves what is shown but the table's name or schema it declares;
a key is declared only where none is. -/
theorem shows_of_apply (applied : t.apply typeName fields e = .ok t') :
    ∃ key, TableKey.ofPath? e.path = some key ∧ t'.Shows typeName fields key e.value ∧
      ∀ other v, t.Shows typeName fields other v → (other = .primaryKey ∨ other ≠ key) →
        t'.Shows typeName fields other v := by
  unfold TableEntries.apply at applied
  split at applied
  · cases applied
  · next path value =>
    cases applied
    refine ⟨_, path, value, fun other v shown apart => ?_⟩
    cases other with
    | name => exact absurd rfl (apart.resolve_left nofun)
    | schema => exact shown
    | primaryKey => exact shown
  · next path value =>
    cases applied
    refine ⟨_, path, value, fun other v shown apart => ?_⟩
    cases other with
    | name => exact shown
    | schema => exact absurd rfl (apart.resolve_left nofun)
    | primaryKey => exact shown
  · cases applied
  · next u path value =>
    split at applied
    · cases applied
    · next places named =>
      split at applied
      · next none =>
        cases applied
        refine ⟨_, path, ⟨u, places, value, named, fun _ member => member⟩, ?_⟩
        intro other v shown _
        cases other with
        | name => exact shown
        | schema => exact shown
        | primaryKey =>
          obtain ⟨w, before, same, namedBefore, within⟩ := shown
          refine ⟨w, before, same, namedBefore, fun i member => ?_⟩
          have inside := within i member
          rw [List.isEmpty_iff.1 none] at inside
          cases inside
      · cases applied
  · cases applied

/-- What is shown stays, unless a later entry declares the name or the schema again. -/
theorem shows_or_of_run {es : List AttributeEntry} (shown : t.Shows typeName fields key v)
    (run : es.foldlM (TableEntries.apply typeName fields) t = .ok t') :
    t'.Shows typeName fields key v ∨ key ≠ .primaryKey ∧ ∃ later ∈ es,
      TableKey.ofPath? later.path = some key := by
  have step : ∀ {t t' : TableEntries} {e : AttributeEntry},
      t.apply typeName fields e = .ok t' → t.Shows typeName fields key v →
        t'.Shows typeName fields key v ∨
          key ≠ .primaryKey ∧ TableKey.ofPath? e.path = some key := by
    intro t t' e applied shown
    obtain ⟨other, path, -, keeps⟩ := shows_of_apply applied
    by_cases kept : key = .primaryKey ∨ key ≠ other
    · exact .inl (keeps key v shown kept)
    · obtain ⟨declared, same⟩ := not_or.1 kept
      exact .inr ⟨declared, by rw [path, not_not.1 same]⟩
  rcases holds_or_of_foldlM _ _ step run shown with shown | ⟨later, member, declared, again⟩
  · exact .inl shown
  · exact .inr ⟨declared, later, member, again⟩

end TableEntries

/-- The mapping of an entity says what the entry with the key says. -/
def EntityMapping.Shows (m : EntityMapping) : TableKey → Option EntryValue → Prop :=
  TableKey.Says m.typeName m.fields m.table fun i =>
    ∃ f, m.fields[i]? = some f ∧ f.role = .column ∧ f.isKeyed = true

/-- The mapping shows every entry of the list, unless a later one declares the name or the schema
again. -/
def EntityMapping.ShowsAll (m : EntityMapping) (es : List AttributeEntry) : Prop :=
  ∀ before e after, es = before ++ e :: after →
    ∃ key, TableKey.ofPath? e.path = some key ∧
      (m.Shows key e.value ∨
        key ≠ .primaryKey ∧ ∃ later ∈ after, TableKey.ofPath? later.path = some key)

section Settled

variable {typeName : String} {fields : List FieldMapping} {places : List Nat} {n : Nat}

mutual
/-- What keys name does not depend on the key. -/
theorem keyPlaces_rekey : ∀ v : EntryValue,
    keyPlaces typeName (fields.mapIdx (FieldMapping.rekey places n)) v =
      keyPlaces typeName fields v
  | .text name => by
    unfold keyPlaces
    rw [columnPlace?_rekey fun _ _ => rfl]
  | .path p => by
    unfold keyPlaces
    rw [columnPlace?_rekey fun _ _ => rfl]
  | .tuple members => by
    unfold keyPlaces
    rw [memberPlaces_rekey members]
  | .literal _ => rfl
  | .other => rfl

theorem memberPlaces_rekey : ∀ vs : List EntryValue,
    memberPlaces typeName (fields.mapIdx (FieldMapping.rekey places n)) vs =
      memberPlaces typeName fields vs
  | [] => rfl
  | v :: vs => by
    unfold memberPlaces
    rw [keyPlaces_rekey v, memberPlaces_rekey vs]
end

end Settled

/-- An accepted entity shows its entries. -/
theorem EntityDeclaration.showsAll_of_mapping {d : EntityDeclaration} {m : EntityMapping}
    (accepted : d.mapping = .ok m) : m.ShowsAll (mappingEntries d.attributes) := by
  obtain ⟨fields, t, mapped, run, -, name, table, eq⟩ := exists_rekey_of_mapping accepted
  have shows : ∀ {key : TableKey} {v : Option EntryValue}, t.Shows d.name fields key v →
      m.Shows key v := by
    intro key v shown
    unfold EntityMapping.Shows
    rw [name, table, eq]
    cases key with
    | name => exact shown
    | schema => exact shown
    | primaryKey =>
      obtain ⟨value, places, same, named, within⟩ := shown
      refine ⟨value, places, same, (keyPlaces_rekey value).trans named, fun i member => ?_⟩
      obtain ⟨f, found, column⟩ :=
        value.exists_column_of_names (((mem_keyPlaces named).2 i).1 member)
      refine ⟨f.rekey t.key d.keyCount i, ?_, column, ?_⟩
      · rw [List.getElem?_mapIdx, found]
        rfl
      · rw [FieldMapping.isKeyed_rekey, List.contains_iff_mem.2 (within i member), Bool.true_or]
  intro before e after split
  rw [split] at run
  obtain ⟨t₁, -, run⟩ := foldlM_append_eq_ok.1 run
  obtain ⟨t₂, step, run⟩ := foldlM_cons_eq_ok.1 run
  obtain ⟨key, path, shown, -⟩ := TableEntries.shows_of_apply step
  exact ⟨key, path, (TableEntries.shows_or_of_run shown run).imp_left shows⟩

/-! ## Values left unread -/

mutual
/-- No part of a value that names columns has been left unread. -/
theorem isClear_of_keyPlaces {typeName : String} {fields : List FieldMapping} :
    ∀ {v : EntryValue} {places : List Nat}, keyPlaces typeName fields v = .ok places →
      v.isClear = true
  | .text _, _, _ => rfl
  | .path _, _, _ => rfl
  | .tuple members, _, accepted => by
    obtain ⟨lists, each, -⟩ := bind_eq_ok.1 accepted
    exact membersClear_of_memberPlaces each
  | .literal _, _, _ => rfl
  | .other, _, accepted => by cases accepted

theorem membersClear_of_memberPlaces {typeName : String} {fields : List FieldMapping} :
    ∀ {vs : List EntryValue} {lists : List (List Nat)},
      memberPlaces typeName fields vs = .ok lists → membersClear vs = true
  | [], _, _ => rfl
  | v :: vs, _, accepted => by
    obtain ⟨first, named, rest⟩ := bind_eq_ok.1 accepted
    obtain ⟨others, namedAll, -⟩ := bind_eq_ok.1 rest
    exact Bool.and_eq_true_iff.2
      ⟨isClear_of_keyPlaces named, membersClear_of_memberPlaces namedAll⟩
end

/-- No part of the value of an entry has been left unread. -/
def AttributeEntry.IsClear (e : AttributeEntry) : Prop :=
  ∀ v, e.value = some v → v.isClear = true

theorem FieldMapping.isClear_of_apply {m m' : FieldMapping} {e : AttributeEntry}
    (applied : m.apply e = .ok m') : e.IsClear := by
  obtain ⟨key, -, set⟩ := FieldMapping.apply_eq_ok.1 applied
  intro v value
  rw [value] at set
  exact FieldMapping.isClear_of_set? set

theorem TableEntries.isClear_of_apply {typeName : String} {fields : List FieldMapping}
    {t t' : TableEntries} {e : AttributeEntry} (applied : t.apply typeName fields e = .ok t') :
    e.IsClear := by
  obtain ⟨key, -, shown, -⟩ := TableEntries.shows_of_apply applied
  intro v value
  rw [value] at shown
  cases key with
  | name =>
    cases shown
    rfl
  | schema =>
    cases shown
    rfl
  | primaryKey =>
    obtain ⟨u, places, same, named, -⟩ := shown
    cases same
    exact isClear_of_keyPlaces named

/-! ## Lists cut short -/

namespace Attribute

/-- The attribute is written as a list, if it concerns the mapping. -/
def IsListed (a : Attribute) : Prop :=
  a.isMapping = true → ∃ ts es, a.arguments = some ts ∧ Listed es ts

/-- The other attribute is this one, with only the front of its list if it concerns the mapping. -/
def Cut (a a' : Attribute) : Prop :=
  a'.path = a.path ∧
    if a.isMapping then
      ∃ used ignored, a.arguments = some (used ++ ignored) ∧ a'.arguments = some used
    else a'.arguments = a.arguments

/-- The attribute is read as the other one. -/
def ReadsAs (a b : Attribute) : Prop :=
  a.isMapping = b.isMapping ∧ (b.isMapping = true → a.entries? = b.entries?)

variable {a : Attribute}

/-- **The list of an attribute** can be cut to a well-written one with the same entries, which is
the whole list if that is well written. -/
theorem exists_cut (lists : a.isMapping = true → a.arguments.isSome = true)
    (clear : a.isMapping = true → ∀ e ∈ a.entries?.getD [], e.IsClear) :
    ∃ a', a.Cut a' ∧ a'.IsListed ∧ (a.IsListed → a' = a) ∧ a'.ReadsAs a := by
  by_cases listed : a.IsListed
  · refine ⟨a, ⟨rfl, ?_⟩, listed, fun _ => rfl, rfl, fun _ => rfl⟩
    split
    · next mapping =>
      obtain ⟨ts, -, arguments, -⟩ := listed mapping
      exact ⟨ts, [], by rw [arguments, List.append_nil], arguments⟩
    · rfl
  · obtain ⟨mapping, unlisted⟩ := Classical.not_imp.1 listed
    obtain ⟨ts, arguments⟩ := Option.isSome_iff_exists.1 (lists mapping)
    have entries : a.entries? = some (readEntries ts.length ts) := by rw [entries?, arguments]; rfl
    have clear := clear mapping
    rw [entries, Option.getD_some] at clear
    obtain ⟨used, ignored, split, written⟩ := exists_listed_of_readEntries ts.length ts clear
    refine ⟨⟨a.path, some used⟩, ⟨rfl, ?_⟩, fun _ => ⟨used, _, rfl, written⟩,
      fun listed' => absurd listed' listed, rfl, fun _ => ?_⟩
    · rw [if_pos mapping]
      exact ⟨used, ignored, by rw [arguments, split], rfl⟩
    · rw [entries]
      exact congrArg some written.readEntries_eq

end Attribute

/-- Where every member can be cut, so can the list; where none need be, it is left as it is. -/
theorem exists_cut_of_forall₂ {α β : Type} {cut : α → α → Prop} {listed : α → Prop}
    {reads : α → β → Prop} {as : List α} {bs : List β}
    (each : List.Forall₂
      (fun a b => ∃ a', cut a a' ∧ listed a' ∧ (listed a → a' = a) ∧ reads a' b) as bs) :
    ∃ as', List.Forall₂ cut as as' ∧ (∀ a ∈ as', listed a) ∧ ((∀ a ∈ as, listed a) → as' = as) ∧
      List.Forall₂ reads as' bs := by
  induction each with
  | nil => exact ⟨[], .nil, List.forall_mem_nil _, fun _ => rfl, .nil⟩
  | cons first _ ih =>
    obtain ⟨a', isCut, isListed, same, isRead⟩ := first
    obtain ⟨as', cutAll, listedAll, sameAll, readAll⟩ := ih
    refine ⟨a' :: as', .cons isCut cutAll, List.forall_mem_cons.2 ⟨isListed, listedAll⟩,
      fun listed => ?_, .cons isRead readAll⟩
    obtain ⟨first, others⟩ := List.forall_mem_cons.1 listed
    rw [same first, sameAll others]

theorem areLists_of_isListed {attributes : List Attribute}
    (listed : ∀ a ∈ attributes, a.IsListed) : AreLists attributes := by
  intro a member mapping
  obtain ⟨ts, -, arguments, -⟩ := listed a member mapping
  rw [arguments]
  rfl

theorem mappingEntries_congr {as bs : List Attribute}
    (alike : List.Forall₂ Attribute.ReadsAs as bs) : mappingEntries as = mappingEntries bs := by
  induction alike with
  | nil => rfl
  | cons first _ ih =>
    obtain ⟨mapping, entries⟩ := first
    unfold mappingEntries at ih ⊢
    rw [List.filter_cons, List.filter_cons, mapping]
    split
    · next concerns => rw [List.flatMap_cons, List.flatMap_cons, entries concerns, ih]
    · exact ih

/-- The attributes of a declaration can be cut to well-written ones with the same entries. -/
theorem exists_attributes_cut {attributes : List Attribute} (lists : AreLists attributes)
    (clear : ∀ e ∈ mappingEntries attributes, e.IsClear) :
    ∃ cut, List.Forall₂ Attribute.Cut attributes cut ∧ (∀ a ∈ cut, a.IsListed) ∧
      ((∀ a ∈ attributes, a.IsListed) → cut = attributes) ∧
      mappingEntries cut = mappingEntries attributes := by
  have each : List.Forall₂ (fun a b => ∃ a', Attribute.Cut a a' ∧ a'.IsListed ∧
      (a.IsListed → a' = a) ∧ a'.ReadsAs b) attributes attributes := by
    refine List.forall₂_same.2 fun a member => Attribute.exists_cut (lists a member) ?_
    exact fun mapping e inside =>
      clear e (List.mem_flatMap.2 ⟨a, List.mem_filter.2 ⟨member, mapping⟩, inside⟩)
  obtain ⟨cut, pairs, listed, same, alike⟩ := exists_cut_of_forall₂ each
  exact ⟨cut, pairs, listed, same, mappingEntries_congr alike⟩

namespace FieldDeclaration

/-- The other declaration of the field is this one, with only the fronts of its lists. -/
def Cut (d d' : FieldDeclaration) : Prop :=
  d'.name = d.name ∧ d'.type = d.type ∧ List.Forall₂ Attribute.Cut d.attributes d'.attributes

/-- All lists of the field are well written. -/
def IsListed (d : FieldDeclaration) : Prop := ∀ a ∈ d.attributes, a.IsListed

/-- An accepted field is mapped as its well-written part. -/
theorem exists_cut {d : FieldDeclaration} {f : FieldMapping} (accepted : d.mapping = .ok f) :
    ∃ d', d.Cut d' ∧ d'.IsListed ∧ (d.IsListed → d' = d) ∧ d'.mapping = .ok f := by
  obtain ⟨lists, m, run, rest⟩ := mapping_eq_ok_iff.1 accepted
  have clear : ∀ e ∈ mappingEntries d.attributes, e.IsClear := fun e member => by
    obtain ⟨_, _, step⟩ := exists_step_of_foldlM run e member
    exact FieldMapping.isClear_of_apply step
  obtain ⟨cut, pairs, listed, same, entries⟩ := exists_attributes_cut lists clear
  refine ⟨{ d with attributes := cut }, ⟨rfl, rfl, pairs⟩, listed, fun all => ?_, ?_⟩
  · rw [same all]
  · refine mapping_eq_ok_iff.2 ⟨areLists_of_isListed listed, m, ?_, rest⟩
    rw [entries]
    exact run

end FieldDeclaration

namespace EntityDeclaration

variable {d : EntityDeclaration} {m : EntityMapping}

/-- The other declaration is this one, with only the fronts of its lists. -/
def Cut (d d' : EntityDeclaration) : Prop :=
  d'.name = d.name ∧ d'.shape = d.shape ∧ d'.parameters = d.parameters ∧
    List.Forall₂ Attribute.Cut d.attributes d'.attributes ∧
    List.Forall₂ FieldDeclaration.Cut d.fields d'.fields

/-- All lists of the entity and its fields are well written. -/
def IsListed (d : EntityDeclaration) : Prop :=
  (∀ a ∈ d.attributes, a.IsListed) ∧ ∀ fd ∈ d.fields, fd.IsListed

/-- An accepted entity is mapped as its well-written part. -/
theorem exists_cut (accepted : d.mapping = .ok m) :
    ∃ d', d.Cut d' ∧ d'.IsListed ∧ (d.IsListed → d' = d) ∧ d'.mapping = .ok m := by
  obtain ⟨named, simple, lists, fields, t, settled, mapped, run, rest⟩ :=
    mapping_eq_ok_iff.1 accepted
  have clear : ∀ e ∈ mappingEntries d.attributes, e.IsClear := fun e member => by
    obtain ⟨_, _, step⟩ := exists_step_of_foldlM run e member
    exact TableEntries.isClear_of_apply step
  obtain ⟨attributes, cut, listed, same, entries⟩ := exists_attributes_cut lists clear
  obtain ⟨declared, cutFields, listedFields, sameFields, mapped⟩ :=
    exists_cut_of_forall₂ (mapped.imp fun _ _ accepted => FieldDeclaration.exists_cut accepted)
  refine ⟨{ d with attributes, fields := declared }, ⟨rfl, rfl, rfl, cut, cutFields⟩,
    ⟨listed, listedFields⟩, fun all => ?_, ?_⟩
  · rw [same all.1, sameFields all.2]
  · refine mapping_eq_ok_iff.2 ⟨named, simple, areLists_of_isListed listed, fields, t, settled,
      mapped, ?_, rest⟩
    rw [entries]
    exact run

end EntityDeclaration

/-! ## All entries -/

/-- The lists of the attributes that concern the mapping are written with these entries. -/
def Writes (attributes : List Attribute) (es : List AttributeEntry) : Prop :=
  ∃ lists : List (List AttributeEntry),
    List.Forall₂ (fun a es => ∃ ts, Attribute.arguments a = some ts ∧ Listed es ts)
      (attributes.filter Attribute.isMapping) lists ∧ es = lists.flatten

/-- Well-written lists are written with the entries that are read. -/
theorem writes_mappingEntries {attributes : List Attribute}
    (listed : ∀ a ∈ attributes, a.IsListed) : Writes attributes (mappingEntries attributes) := by
  refine ⟨(attributes.filter Attribute.isMapping).map fun a => a.entries?.getD [], ?_, rfl⟩
  refine List.forall₂_map_right_iff.2 (List.forall₂_same.2 fun a member => ?_)
  obtain ⟨member, mapping⟩ := List.mem_filter.1 member
  obtain ⟨ts, es, arguments, written⟩ := listed a member mapping
  have entries : a.entries?.getD [] = es := by
    rw [Attribute.entries?, arguments]
    exact written.readEntries_eq
  exact ⟨ts, arguments, entries ▸ written⟩

theorem forall₂_mapIdx {α β γ : Type} {r : α → β → Prop} {q : α → γ → Prop} {as : List α}
    {bs : List β} (pairs : List.Forall₂ r as bs) :
    ∀ {g : Nat → β → γ}, (∀ i a b, r a b → q a (g i b)) → List.Forall₂ q as (bs.mapIdx g) := by
  induction pairs with
  | nil => exact fun _ => .nil
  | cons first _ ih =>
    intro g each
    rw [List.mapIdx_cons]
    exact .cons (each 0 _ _ first) (ih fun i => each (i + 1))

/-- **Every entry that is read is applied.** The mapping of an accepted declaration is that of the
declaration with only the fronts of its lists, which are well-written lists of entries. The mapping
of the entity shows the entries of its own lists, and that of each field the entries of its lists,
but for those a later entry takes the place of. No list has been cut short exactly when all of them
are well written. -/
theorem EntityDeclaration.mapping_applied {d : EntityDeclaration} {m : EntityMapping}
    (accepted : d.mapping = .ok m) :
    ∃ d', d.Cut d' ∧ d'.IsListed ∧ (d' = d ↔ d.IsListed) ∧ d'.mapping = .ok m ∧
      (∃ es, Writes d'.attributes es ∧ m.ShowsAll es) ∧
      List.Forall₂ (fun fd f => ∃ es, Writes (FieldDeclaration.attributes fd) es ∧
        FieldMapping.ShowsAll f es) d'.fields m.fields := by
  obtain ⟨d', cut, listed, same, accepted'⟩ := exists_cut accepted
  refine ⟨d', cut, listed, ⟨fun same => same ▸ listed, same⟩, accepted',
    ⟨_, writes_mappingEntries listed.1, showsAll_of_mapping accepted'⟩, ?_⟩
  obtain ⟨fields, t, mapped, -, -, -, -, eq⟩ := exists_rekey_of_mapping accepted'
  rw [eq]
  refine forall₂_mapIdx ((List.forall₂_and_left _ _).2 ⟨listed.2, mapped⟩) fun i fd f both => ?_
  exact ⟨_, writes_mappingEntries both.1, FieldDeclaration.showsAll_of_mapping both.2 _ _ i⟩

/-- A shelf with one field, whose attribute has this inside. -/
def shelfEntity (inside : List Token) : EntityDeclaration where
  name := "Shelf"
  shape := .named
  parameters := []
  attributes := []
  fields := [⟨"label", .path (.ofNames ["String"]), [.ofMapping inside]⟩]

/-- The mapping of a shelf, given the part of its column in the key. -/
def shelfMapping (key : KeyRole) : EntityMapping where
  typeName := "Shelf"
  table := ⟨"SHELF", ""⟩
  fields := [regionColumn "label" "CODE" key]

theorem mapping_applied_wellWritten :
    (shelfEntity [.word "name", .mark "=", .text "CODE", .mark ",", .word "primary_key"]).mapping =
        .ok (shelfMapping .whole) ∧
      ∃ d', (shelfEntity
          [.word "name", .mark "=", .text "CODE", .mark ",", .word "primary_key"]).Cut d' ∧
        d'.IsListed ∧ d'.mapping = .ok (shelfMapping .whole) := by
  have accepted : (shelfEntity
      [.word "name", .mark "=", .text "CODE", .mark ",", .word "primary_key"]).mapping =
        .ok (shelfMapping .whole) := rfl
  obtain ⟨d', cut, listed, -, accepted', -, -⟩ := EntityDeclaration.mapping_applied accepted
  exact ⟨accepted, d', cut, listed, accepted'⟩

/-- Without the comma the column is not in the key, and nothing is reported. -/
theorem mapping_applied_missingComma :
    (shelfEntity [.word "name", .mark "=", .text "CODE", .word "primary_key"]).mapping =
        .ok (shelfMapping .outside) ∧
      ¬(shelfEntity [.word "name", .mark "=", .text "CODE", .word "primary_key"]).IsListed := by
  refine ⟨rfl, fun listed => ?_⟩
  obtain ⟨ts, es, arguments, written⟩ := listed.2 _ (.head _) _ (.head _) rfl
  cases arguments
  cases written.readEntries_eq
  obtain ⟨parts, pairs, written⟩ := written
  cases pairs with
  | cons spells rest =>
    cases rest
    obtain ⟨-, us, spelled, rfl⟩ := spells
    cases spelled
    rcases written with written | ⟨-, written⟩ <;> revert written <;> decide

end EntitySql
