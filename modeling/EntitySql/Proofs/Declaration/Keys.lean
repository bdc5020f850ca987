import EntitySql.Proofs.Declaration.Mapping
import Mathlib.Data.List.Nodup
import Mathlib.Data.List.Perm.Subperm

/-!
# Primary keys of accepted declarations

The key of an entity is declared on its fields or by entries of the entity. A value of such an entry
names columns: a text the first column so called, a path the first column it tells, a tuple what its
members name (`EntryValue.Names`). What is named is in the key and nothing else is, and no column of
the key may be null (`EntityDeclaration.mapping_key`).

Whether a column is the whole key or a part of it is decided by counting the members of the tuple,
or the fields that declare the key. A column that is named twice counts twice, and so does a field
that is no column; so the only column of a key can be a part of it.
-/

namespace EntitySql

set_option autoImplicit false

open Code Outcome

/-! ## What values name -/

section Names

variable (typeName : String) (fields : List FieldMapping)

mutual
/-- The value of a key names the column at the place. -/
def EntryValue.Names : EntryValue → Nat → Prop
  | .text name, i => columnPlace? fields (fun f => Text.eqIgnoringCase f.name name) = some i
  | .path p, i => columnPlace? fields (tellsField typeName p) = some i
  | .tuple members, i => membersName members i
  | .literal _, _ | .other, _ => False
  termination_by structural v => v

/-- One of the values names the column at the place. -/
def membersName : List EntryValue → Nat → Prop
  | [], _ => False
  | v :: rest, i => v.Names i ∨ membersName rest i
  termination_by structural vs => vs
end

/-- How many members the value of a key has. -/
def EntryValue.memberCount : EntryValue → Nat
  | .tuple members => members.length
  | _ => 1

variable {typeName fields}

theorem length_flatten_of_single : ∀ {lists : List (List Nat)},
    lists.all (fun p => p.length == 1) = true → lists.flatten.length = lists.length
  | [], _ => rfl
  | first :: rest, single => by
    obtain ⟨one, others⟩ := Bool.and_eq_true_iff.1 single
    rw [List.flatten_cons, List.length_append, length_flatten_of_single others,
      beq_iff_eq.1 one, List.length_cons, Nat.add_comm]

mutual
/-- **The places** of a value are those it names, one for each of its members. -/
theorem mem_keyPlaces : ∀ {v : EntryValue} {places : List Nat},
    keyPlaces typeName fields v = .ok places →
      places.length = v.memberCount ∧ ∀ i, i ∈ places ↔ v.Names typeName fields i
  | .text name, places, accepted => by
    show _ ∧ ∀ i, _ ↔ columnPlace? _ _ = _
    unfold keyPlaces at accepted
    split at accepted
    · next place found =>
      cases accepted
      exact ⟨rfl, fun i => by rw [found, List.mem_singleton, Option.some_inj, eq_comm]⟩
    · cases accepted
  | .path p, places, accepted => by
    show _ ∧ ∀ i, _ ↔ columnPlace? _ _ = _
    unfold keyPlaces at accepted
    split at accepted
    · split at accepted
      · next place found =>
        cases accepted
        exact ⟨rfl, fun i => by rw [found, List.mem_singleton, Option.some_inj, eq_comm]⟩
      · cases accepted
    · cases accepted
  | .tuple members, places, accepted => by
    obtain ⟨lists, each, rest⟩ := bind_eq_ok.1 accepted
    obtain ⟨length, named⟩ := mem_memberPlaces each
    split at rest
    · next single =>
      cases pure_eq_ok.1 rest
      exact ⟨(length_flatten_of_single single).trans length, named⟩
    · cases rest
  | .literal _, _, accepted => by cases accepted
  | .other, _, accepted => by cases accepted

theorem mem_memberPlaces : ∀ {vs : List EntryValue} {lists : List (List Nat)},
    memberPlaces typeName fields vs = .ok lists →
      lists.length = vs.length ∧
        ∀ i, i ∈ lists.flatten ↔ membersName typeName fields vs i
  | [], _, accepted => by
    cases accepted
    exact ⟨rfl, fun i => by simp [membersName]⟩
  | v :: vs, _, accepted => by
    obtain ⟨first, named, rest⟩ := bind_eq_ok.1 accepted
    obtain ⟨others, namedAll, rest⟩ := bind_eq_ok.1 rest
    cases pure_eq_ok.1 rest
    obtain ⟨-, mem⟩ := mem_keyPlaces named
    obtain ⟨length, memAll⟩ := mem_memberPlaces namedAll
    refine ⟨congrArg (· + 1) length, fun i => ?_⟩
    rw [List.flatten_cons, List.mem_append, mem, memAll]
    rfl
end

end Names

/-! ## Keys declared on entities -/

/-- The value that the entry declares the key to be. -/
def AttributeEntry.keyValue? (e : AttributeEntry) : Option EntryValue :=
  if TableKey.ofPath? e.path = some .primaryKey then e.value else none

/-- The values that the entries declare the key to be. -/
def keyValues (es : List AttributeEntry) : List EntryValue := es.filterMap AttributeEntry.keyValue?

/-- How many members the values have. -/
def memberCount : List EntryValue → Nat
  | [] => 0
  | v :: vs => v.memberCount + memberCount vs

variable {typeName : String} {fields : List FieldMapping} {t t' : TableEntries}

/-- The places of a key are those the values name, one for each member of a value. -/
def TableEntries.KeyIs (typeName : String) (fields : List FieldMapping) (t : TableEntries)
    (vs : List EntryValue) : Prop :=
  t.key.length = memberCount vs ∧ ∀ i, i ∈ t.key ↔ membersName typeName fields vs i

/-- **One entry** leaves the key as it is or declares it where there is none. -/
theorem TableEntries.apply_key {e : AttributeEntry}
    (accepted : t.apply typeName fields e = .ok t') :
    (e.keyValue? = none ∧ t'.key = t.key) ∨
      ∃ v, e.keyValue? = some v ∧ t.key = [] ∧
        keyPlaces typeName fields v = .ok t'.key := by
  unfold TableEntries.apply at accepted
  unfold AttributeEntry.keyValue?
  split at accepted
  · cases accepted
  · next key value =>
    cases accepted
    exact .inl ⟨by rw [key]; rfl, rfl⟩
  · next key value =>
    cases accepted
    exact .inl ⟨by rw [key]; rfl, rfl⟩
  · cases accepted
  · next v key value =>
    split at accepted
    · cases accepted
    · next places named =>
      split at accepted
      · next none =>
        cases accepted
        exact .inr ⟨v, by rw [key, if_pos rfl, value], List.isEmpty_iff.1 none, named⟩
      · cases accepted
  · cases accepted

theorem membersName_append (vs ws : List EntryValue) (i : Nat) :
    membersName typeName fields (vs ++ ws) i ↔
      membersName typeName fields vs i ∨ membersName typeName fields ws i := by
  induction vs with
  | nil => exact (false_or _).symm.to_iff
  | cons v vs ih => exact (or_congr_right ih).trans or_assoc.symm

theorem memberCount_append (vs ws : List EntryValue) :
    memberCount (vs ++ ws) = memberCount vs + memberCount ws := by
  induction vs with
  | nil => exact (Nat.zero_add _).symm
  | cons v vs ih =>
    show v.memberCount + memberCount (vs ++ ws) = v.memberCount + memberCount vs + memberCount ws
    rw [ih, Nat.add_assoc]

/-- **All entries:** the key is what their values name, besides what it was before. -/
theorem TableEntries.keyIs_run : ∀ {es : List AttributeEntry} {t t' : TableEntries}
    {vs : List EntryValue}, t.KeyIs typeName fields vs →
      es.foldlM (TableEntries.apply typeName fields) t = .ok t' →
        t'.KeyIs typeName fields (vs ++ keyValues es)
  | [], t, _, vs, before, run => by
    cases run
    rw [keyValues, List.filterMap_nil, List.append_nil]
    exact before
  | e :: es, t, _, vs, ⟨length, names⟩, run => by
    obtain ⟨t₁, step, run⟩ := foldlM_cons_eq_ok.1 run
    rw [keyValues, List.filterMap_cons]
    rcases TableEntries.apply_key step with ⟨noKey, same⟩ | ⟨v, value, empty, named⟩
    · rw [noKey]
      refine TableEntries.keyIs_run ⟨?_, fun i => ?_⟩ run
      · rw [same, length]
      · rw [same, names]
    · rw [value, List.append_cons]
      obtain ⟨count, mem⟩ := mem_keyPlaces named
      refine TableEntries.keyIs_run ⟨?_, fun i => ?_⟩ run
      · rw [memberCount_append, ← length, empty, count]
        exact (Nat.zero_add _).symm
      · rw [membersName_append, ← names, empty, mem]
        exact (by simp [membersName])

/-! ## Keys declared on fields -/

/-- The entry declares its field to be the key. -/
def AttributeEntry.isFieldKey (e : AttributeEntry) : Bool :=
  FieldKey.ofPath? e.path == some .primaryKey

/-- The field is declared to be the key. -/
def FieldDeclaration.isKey (d : FieldDeclaration) : Bool :=
  (mappingEntries d.attributes).any AttributeEntry.isFieldKey

theorem FieldMapping.set?_key {m m' : FieldMapping} {key : FieldKey} {v : Option EntryValue}
    (set : m.set? key v = some m') :
    m'.key = if key = .primaryKey then .whole else m.key := by
  unfold FieldMapping.set? at set
  split at set
  case h_10 => cases set
  all_goals
    first
    | obtain ⟨_, _, rfl⟩ := Option.map_eq_some_iff.1 set
      rfl
    | cases set
      rfl

theorem FieldMapping.run_key : ∀ {es : List AttributeEntry} {m m' : FieldMapping},
    es.foldlM FieldMapping.apply m = .ok m' →
      m'.key = if es.any AttributeEntry.isFieldKey then .whole else m.key
  | [], _, _, run => by
    cases run
    rfl
  | e :: es, m, m', run => by
    obtain ⟨m₁, step, run⟩ := foldlM_cons_eq_ok.1 run
    obtain ⟨key, path, set⟩ := FieldMapping.apply_eq_ok.1 step
    rw [FieldMapping.run_key run, FieldMapping.set?_key set, List.any_cons,
      AttributeEntry.isFieldKey, path]
    cases es.any AttributeEntry.isFieldKey <;> by_cases same : key = .primaryKey <;> simp [same]

/-- A field is in the key when it declares so, and a column in the key is never null. -/
theorem FieldDeclaration.key_of_mapping {d : FieldDeclaration} {f : FieldMapping}
    (accepted : d.mapping = .ok f) :
    f.key = (if d.isKey then .whole else .outside) ∧
      (f.role = .column → f.isKeyed = true → f.nullable = false) := by
  obtain ⟨m, prototype, nullable, run, rfl, never⟩ := FieldDeclaration.exists_of_mapping accepted
  exact ⟨FieldMapping.run_key run, fun column keyed => never column (bne_iff_ne.1 keyed)⟩

theorem FieldDeclaration.isKeyed_of_mapping {d : FieldDeclaration} {f : FieldMapping}
    (accepted : d.mapping = .ok f) : f.isKeyed = d.isKey := by
  rw [FieldMapping.isKeyed, (FieldDeclaration.key_of_mapping accepted).1]
  cases d.isKey <;> rfl

/-! ## Keys of entities -/

section Settled

variable {places : List Nat} {n : Nat}

/-- What fields are called does not depend on the key. -/
theorem columnPlace?_rekey {p : FieldMapping → Bool}
    (blind : ∀ (f : FieldMapping) (i : Nat), p (f.rekey places n i) = p f) :
    columnPlace? (fields.mapIdx (FieldMapping.rekey places n)) p = columnPlace? fields p := by
  refine Option.ext fun i => ?_
  have same : ∀ (f : FieldMapping) (i : Nat),
      ((f.rekey places n i).role == .column && p (f.rekey places n i)) =
        (f.role == .column && p f) := fun f i => by
    rw [blind]
    rfl
  simp only [columnPlace?, List.findIdx?_eq_some_iff_getElem, List.length_mapIdx,
    List.getElem_mapIdx, same]

mutual
theorem EntryValue.names_rekey : ∀ (v : EntryValue) (i : Nat),
    v.Names typeName (fields.mapIdx (FieldMapping.rekey places n)) i ↔ v.Names typeName fields i
  | .text _, _ => Eq.congr_left (columnPlace?_rekey fun _ _ => rfl)
  | .path _, _ => Eq.congr_left (columnPlace?_rekey fun _ _ => rfl)
  | .tuple members, i => membersName_rekey members i
  | .literal _, _ => .rfl
  | .other, _ => .rfl

theorem membersName_rekey : ∀ (vs : List EntryValue) (i : Nat),
    membersName typeName (fields.mapIdx (FieldMapping.rekey places n)) vs i ↔
      membersName typeName fields vs i
  | [], _ => .rfl
  | v :: vs, i => or_congr (v.names_rekey i) (membersName_rekey vs i)
end

end Settled

theorem exists_column_of_place {p : FieldMapping → Bool} {i : Nat}
    (place : columnPlace? fields p = some i) :
    ∃ f, fields[i]? = some f ∧ f.role = .column := by
  obtain ⟨inside, named, -⟩ := List.findIdx?_eq_some_iff_getElem.1 place
  exact ⟨_, List.getElem?_eq_getElem inside, beq_iff_eq.1 (Bool.and_eq_true_iff.1 named).1⟩

mutual
/-- What is named is a column. -/
theorem EntryValue.exists_column_of_names : ∀ (v : EntryValue) {i : Nat},
    v.Names typeName fields i → ∃ f, fields[i]? = some f ∧ f.role = .column
  | .text _, _, named => exists_column_of_place named
  | .path _, _, named => exists_column_of_place named
  | .tuple members, _, named => exists_column_of_membersName members named

theorem exists_column_of_membersName : ∀ (vs : List EntryValue) {i : Nat},
    membersName typeName fields vs i → ∃ f, fields[i]? = some f ∧ f.role = .column
  | v :: vs, _, named => by
    rcases named with named | named
    · exact v.exists_column_of_names named
    · exact exists_column_of_membersName vs named
end

theorem exists_getElem?_of_forall₂ {α β : Type} {r : α → β → Prop} {as : List α} {bs : List β}
    (pairs : List.Forall₂ r as bs) {i : Nat} {b : β} (found : bs[i]? = some b) :
    ∃ a, as[i]? = some a ∧ r a b := by
  induction pairs generalizing i with
  | nil => cases found
  | cons first _ ih =>
    cases i with
    | zero =>
      cases found
      exact ⟨_, rfl, first⟩
    | succ i => exact ih found

theorem countP_eq_of_forall₂ {α β : Type} {r : α → β → Prop} {p : α → Bool} {q : β → Bool}
    {as : List α} {bs : List β} (pairs : List.Forall₂ r as bs)
    (each : ∀ a b, r a b → q b = p a) : bs.countP q = as.countP p := by
  induction pairs with
  | nil => rfl
  | cons first _ ih => rw [List.countP_cons, List.countP_cons, ih, each _ _ first]

/-- The places of the fields that have a property. -/
def placesOf (p : FieldMapping → Bool) (fields : List FieldMapping) : List Nat :=
  (fields.zipIdx.filter fun x => p x.1).map Prod.snd

theorem length_placesOf (p : FieldMapping → Bool) (fields : List FieldMapping) :
    (placesOf p fields).length = fields.countP p := by
  have one : fields.zipIdx.map Prod.fst = fields := List.zipIdx_map_fst 0 fields
  rw [placesOf, List.length_map, ← List.countP_eq_length_filter]
  conv_rhs => rw [← one, List.countP_map]
  rfl

theorem nodup_placesOf (p : FieldMapping → Bool) (fields : List FieldMapping) :
    (placesOf p fields).Nodup := by
  have places : (fields.zipIdx.map Prod.snd).Nodup := by
    rw [List.zipIdx_map_snd]
    exact List.nodup_range'
  exact places.sublist (List.filter_sublist.map _)

theorem mem_placesOf {p : FieldMapping → Bool} {i : Nat} :
    i ∈ placesOf p fields ↔ ∃ f, fields[i]? = some f ∧ p f = true := by
  simp only [placesOf, List.mem_map, List.mem_filter, Prod.exists, exists_eq_right,
    List.mem_zipIdx_iff_getElem?]

theorem FieldMapping.isKeyed_rekey {places : List Nat} {n i : Nat} (f : FieldMapping) :
    (f.rekey places n i).isKeyed = (places.contains i || f.isKeyed) := by
  unfold FieldMapping.rekey FieldMapping.isKeyed keyPart
  cases places.contains i || f.key != .outside with
  | true =>
    by_cases one : n = 1 <;> simp [one]
  | false => simp

/-- The columns in the key. -/
def EntityMapping.keyColumns (m : EntityMapping) : List FieldMapping :=
  m.columns.filter FieldMapping.isKeyed

/-- The only column of a key is the whole key, and several columns are its parts. -/
def EntityMapping.KeyIsSettled (m : EntityMapping) : Prop :=
  ∀ f ∈ m.keyColumns, f.key = if m.keyColumns.length = 1 then .whole else .part

namespace EntityDeclaration

/-- The values that the entries of the entity declare the key to be. -/
def keyValues (d : EntityDeclaration) : List EntryValue :=
  EntitySql.keyValues (mappingEntries d.attributes)

/-- How many members of a key are declared: members of values, and fields of whatever role. -/
def keyCount (d : EntityDeclaration) : Nat :=
  memberCount d.keyValues + d.fields.countP FieldDeclaration.isKey

/-- The field at the place is declared to be in the key. -/
def KeyNames (d : EntityDeclaration) (m : EntityMapping) (i : Nat) : Prop :=
  membersName d.name m.fields d.keyValues i ∨ ∃ fd, d.fields[i]? = some fd ∧ fd.isKey = true

variable {d : EntityDeclaration} {m : EntityMapping}

/-- The fields of an accepted declaration are what they are by themselves, and the part in the key
that its members give them. -/
theorem exists_rekey_of_mapping (accepted : d.mapping = .ok m) :
    ∃ fields t, List.Forall₂ (fun fd f => FieldDeclaration.mapping fd = .ok f) d.fields fields ∧
      (mappingEntries d.attributes).foldlM (TableEntries.apply d.name fields)
        ⟨⟨defaultTable d.name, ""⟩, []⟩ = .ok t ∧
      t.KeyIs d.name fields d.keyValues ∧
      m.typeName = d.name ∧ m.table = t.table ∧
      m.fields = fields.mapIdx (FieldMapping.rekey t.key d.keyCount) := by
  obtain ⟨-, -, -, fields, t, settled, mapped, run, key, rfl⟩ := mapping_eq_ok_iff.1 accepted
  have start : TableEntries.KeyIs d.name fields ⟨⟨defaultTable d.name, ""⟩, []⟩ [] :=
    ⟨rfl, fun i => by simp [membersName]⟩
  have keyIs := TableEntries.keyIs_run start run
  have fresh : ∀ f ∈ fields, f.key = .outside ∨ f.key = .whole := by
    refine forall_right mapped fun fd _ f accepted => ?_
    rw [(FieldDeclaration.key_of_mapping accepted).1]
    cases fd.isKey
    · exact .inl rfl
    · exact .inr rfl
  have marked : fields.countP FieldMapping.isKeyed = d.fields.countP FieldDeclaration.isKey :=
    countP_eq_of_forall₂ mapped fun _ _ => FieldDeclaration.isKeyed_of_mapping
  have eq := applyKey_eq key fresh
  rw [marked, keyIs.1] at eq
  exact ⟨fields, t, mapped, run, keyIs, rfl, rfl, eq⟩

theorem length_keyColumns_le (accepted : d.mapping = .ok m) :
    m.keyColumns.length ≤ d.keyCount := by
  obtain ⟨fields, t, mapped, -, ⟨length, -⟩, -, -, eq⟩ := exists_rekey_of_mapping accepted
  have marked : fields.countP FieldMapping.isKeyed = d.fields.countP FieldDeclaration.isKey :=
    countP_eq_of_forall₂ mapped fun _ _ => FieldDeclaration.isKeyed_of_mapping
  have all : placesOf FieldMapping.isKeyed m.fields ⊆
      t.key ++ placesOf FieldMapping.isKeyed fields := by
    intro i member
    obtain ⟨f, at', keyed⟩ := mem_placesOf.1 member
    rw [eq, List.getElem?_mapIdx] at at'
    obtain ⟨f₀, found, rfl⟩ := Option.map_eq_some_iff.1 at'
    rw [FieldMapping.isKeyed_rekey, Bool.or_eq_true, List.contains_iff_mem] at keyed
    exact List.mem_append.2 (keyed.imp id fun keyed => mem_placesOf.2 ⟨f₀, found, keyed⟩)
  have within := ((nodup_placesOf _ _).subperm all).length_le
  rw [List.length_append, length_placesOf, length_placesOf, length, marked] at within
  refine Nat.le_trans ?_ within
  rw [List.countP_eq_length_filter]
  exact (List.filter_sublist.filter _).length_le

/-- Each field is what its declaration makes of it, and the part in the key. -/
theorem exists_field_of_mapping (accepted : d.mapping = .ok m) :
    ∃ places : List Nat, (∀ i, i ∈ places ↔ membersName d.name m.fields d.keyValues i) ∧
      ∀ i f, m.fields[i]? = some f → ∃ (fd : FieldDeclaration) (f₀ : FieldMapping),
        d.fields[i]? = some fd ∧ fd.mapping = .ok f₀ ∧ f = f₀.rekey places d.keyCount i := by
  obtain ⟨fields, t, mapped, -, ⟨-, names⟩, -, -, eq⟩ := exists_rekey_of_mapping accepted
  refine ⟨t.key, fun i => ?_, fun i f found => ?_⟩
  · rw [eq, membersName_rekey, names]
  · rw [eq, List.getElem?_mapIdx] at found
    obtain ⟨f₀, at', rfl⟩ := Option.map_eq_some_iff.1 found
    obtain ⟨fd, declared, accepted⟩ := exists_getElem?_of_forall₂ mapped at'
    exact ⟨fd, f₀, declared, accepted, rfl⟩

/-- Each column is what the entries of a declared field and its type make of it, and the part in the
key. -/
theorem exists_complete_of_mapping (accepted : d.mapping = .ok m) {f : FieldMapping}
    (member : f ∈ m.columns) :
    ∃ fd ∈ d.fields, ∃ (m₀ f₀ : FieldMapping) (places : List Nat) (i : Nat),
      (mappingEntries fd.attributes).foldlM FieldMapping.apply (.ofDeclaration fd) = .ok m₀ ∧
        m₀.complete = .ok f₀ ∧ f = f₀.rekey places d.keyCount i := by
  obtain ⟨places, -, each⟩ := exists_field_of_mapping accepted
  obtain ⟨member, column⟩ := List.mem_filter.1 member
  obtain ⟨i, found⟩ := List.mem_iff_getElem?.1 member
  obtain ⟨fd, f₀, declared, mapped, rfl⟩ := each i f found
  obtain ⟨-, m₀, run, rest⟩ := FieldDeclaration.mapping_eq_ok_iff.1 mapped
  refine ⟨fd, List.mem_of_getElem? declared, m₀, f₀, places, i, run, ?_, rfl⟩
  split at rest
  · exact mapError_eq_ok.1 rest
  · next other =>
    cases rest
    exact absurd (beq_iff_eq.1 column) other

/-- What is declared to be in the key is in it, and nothing else. -/
theorem key_iff_of_mapping (accepted : d.mapping = .ok m) {i : Nat} {f : FieldMapping}
    (found : m.fields[i]? = some f) : f.key ≠ .outside ↔ d.KeyNames m i := by
  obtain ⟨places, names, each⟩ := exists_field_of_mapping accepted
  obtain ⟨fd, f₀, declared, accepted, rfl⟩ := each i f found
  rw [← bne_iff_ne]
  show (f₀.rekey places d.keyCount i).isKeyed = true ↔ _
  rw [FieldMapping.isKeyed_rekey, Bool.or_eq_true, List.contains_iff_mem, names,
    FieldDeclaration.isKeyed_of_mapping accepted, KeyNames, declared]
  simp

/-- Every column of the key has the part that the number of members gives, and is never null. -/
theorem keyColumn_of_mapping (accepted : d.mapping = .ok m) :
    ∀ f ∈ m.keyColumns, f.nullable = false ∧
      f.key = if d.keyCount = 1 then .whole else .part := by
  obtain ⟨places, -, each⟩ := exists_field_of_mapping accepted
  intro f member
  obtain ⟨column, keyed⟩ := List.mem_filter.1 member
  obtain ⟨member, column⟩ := List.mem_filter.1 column
  obtain ⟨i, found⟩ := List.mem_iff_getElem?.1 member
  obtain ⟨fd, f₀, -, accepted, rfl⟩ := each i f found
  rw [FieldMapping.isKeyed_rekey] at keyed
  constructor
  · show (f₀.nullable && !places.contains i) = false
    cases named : places.contains i with
    | true => exact Bool.and_false _
    | false =>
      rw [named, Bool.false_or] at keyed
      rw [(FieldDeclaration.key_of_mapping accepted).2 (beq_iff_eq.1 column) keyed]
      rfl
  · show keyPart d.keyCount (places.contains i || f₀.isKeyed) = _
    rw [keyed]
    rfl

/-- **The key of an accepted declaration:** no column of it may be null; what is declared to be in
it is in it and nothing else, and every place that a value names is that of a column. Each member
is the whole key when one member is declared and a part of it otherwise; so the only column of a
key is the whole key unless several members are declared, by naming it twice or by fields that are
no columns. -/
theorem mapping_key (accepted : d.mapping = .ok m) :
    (∀ f ∈ m.keyColumns, f.nullable = false) ∧
    (∀ i f, m.fields[i]? = some f → (f.key ≠ .outside ↔ d.KeyNames m i)) ∧
    (∀ i, membersName d.name m.fields d.keyValues i →
      ∃ f, m.fields[i]? = some f ∧ f.role = .column) ∧
    (∀ f ∈ m.keyColumns, f.key = if d.keyCount = 1 then .whole else .part) ∧
    (m.KeyIsSettled ↔ (m.keyColumns.length = 1 → d.keyCount = 1)) := by
  have keyed := keyColumn_of_mapping accepted
  refine ⟨fun f member => (keyed f member).1, fun i f => key_iff_of_mapping accepted,
    fun i => exists_column_of_membersName _, fun f member => (keyed f member).2,
    fun settled one => ?_, fun single f member => ?_⟩
  · obtain ⟨f, only⟩ := List.length_eq_one_iff.1 one
    have member : f ∈ m.keyColumns := only ▸ List.mem_singleton_self f
    have whole := settled f member
    rw [(keyed f member).2, one, if_pos rfl] at whole
    by_contra several
    rw [if_neg several] at whole
    cases whole
  · have some := List.length_pos_of_mem member
    have count := length_keyColumns_le accepted
    rw [(keyed f member).2]
    by_cases one : m.keyColumns.length = 1
    · rw [if_pos one, if_pos (single one)]
    · rw [if_neg one, if_neg (by omega)]

end EntityDeclaration

/-- The attribute of the mapping with these entries. -/
def Attribute.ofMapping (inside : List Token) : Attribute := ⟨.ofNames ["tabula"], some inside⟩

/-- A region with two fields, of which these values are the key. -/
def regionEntity (key : List Token) : EntityDeclaration where
  name := "Region"
  shape := .named
  parameters := []
  attributes := [.ofMapping (.word "primary_key" :: .mark "=" :: enclosed .round key)]
  fields :=
    [⟨"code", .path (.ofNames ["String"]), []⟩, ⟨"site", .path (.ofNames ["String"]), []⟩]

/-- A text column of a region. -/
def regionColumn (field name : String) (key : KeyRole) : FieldMapping where
  field
  type := .path (.ofNames ["String"])
  role := .column
  name
  prototype := .varchar none
  nullable := false
  storage := .plain
  charset := .utf8
  scale := none
  precision := none
  converter := none
  key

/-- The mapping of a region, given the part of its second column in the key. -/
def regionMapping (site : KeyRole) : EntityMapping where
  typeName := "Region"
  table := ⟨"REGION", ""⟩
  fields := [regionColumn "code" "CODE" .part, regionColumn "site" "SITE" site]

theorem mapping_key_twoColumns :
    (regionEntity (.text "Code" :: .mark "," :: pathTokens ["Self", "site"])).mapping =
        .ok (regionMapping .part) ∧
      (regionMapping .part).keyColumns.length = 2 ∧ (regionMapping .part).KeyIsSettled := by
  have accepted :
      (regionEntity (.text "Code" :: .mark "," :: pathTokens ["Self", "site"])).mapping =
        .ok (regionMapping .part) := rfl
  obtain ⟨-, -, -, -, settled⟩ := EntityDeclaration.mapping_key accepted
  exact ⟨accepted, rfl, settled.2 fun one => absurd one (by decide)⟩

/-- The key names the column twice, and it is a part of a key that has no other. -/
theorem mapping_key_sameColumn :
    ¬∀ (d : EntityDeclaration) (m : EntityMapping), d.mapping = .ok m → m.KeyIsSettled := by
  intro settled
  have accepted : (regionEntity [.text "CODE", .mark ",", .text "code"]).mapping =
      .ok (regionMapping .outside) := rfl
  have whole := settled _ _ accepted (regionColumn "code" "CODE" .part) (.head _)
  cases whole

end EntitySql
