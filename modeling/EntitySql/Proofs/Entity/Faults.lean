import EntitySql.Proofs.Entity.Fields
import EntitySql.Proofs.Row.Names

/-!
# Faults of rows

Records are read by name: every column takes its member from the value under its name, or is left
empty where it may be (`Declared.ReadAs`). What can go wrong is a list of faults in the order in
which they are met: first the values that cannot be converted, in the order of the row, then the
columns without a value, in the order of the entity, and after those the faults of each contained
entity (`Declared.faults`).

Reading a row fails with the first fault, or without faults gives the record read by name
(`Declared.settles_ofRow`). The faults are those of the columns, each for itself
(`Declared.mem_faults_iff`), so a row is read exactly as the record it gives by name
(`Declared.ofRow_eq_ok_iff`).
-/

namespace EntitySql

set_option autoImplicit false

open Outcome

/-! ## Outcomes with a list of faults -/

namespace Outcome

variable {ε α β : Type} {p : α → Prop} {q : β → Prop} {es fs : List ε}

/-- The outcome is the first of the faults, or without faults a result with the property. -/
inductive Settles (p : α → Prop) : List ε → Except ε α → Prop
  | ok {a : α} (holds : p a) : Settles p [] (.ok a)
  | error (first : ε) (rest : List ε) : Settles p (first :: rest) (.error first)

namespace Settles

variable {x : Except ε α}

theorem bind {f : α → Except ε β} (first : Settles p es x)
    (next : ∀ a, p a → Settles q fs (f a)) : Settles q (es ++ fs) (x >>= f) := by
  cases first with
  | ok holds => exact next _ holds
  | error first rest => exact .error first (rest ++ fs)

theorem map {f : α → β} (first : Settles p es x) (next : ∀ a, p a → q (f a)) :
    Settles q es (x.map f) := by
  cases first with
  | ok holds => exact .ok (next _ holds)
  | error first rest => exact .error first rest

theorem of_ok {a : α} (h : Settles p es (.ok a)) : es = [] ∧ p a := by
  cases h with
  | ok holds => exact ⟨rfl, holds⟩

theorem exists_ok (h : Settles p [] x) : ∃ a, x = .ok a ∧ p a := by
  cases h with
  | ok holds => exact ⟨_, rfl, holds⟩

theorem eq_error_iff (h : Settles p es x) (e : ε) : x = .error e ↔ es.head? = some e := by
  cases h with
  | ok holds => simp
  | error first rest => simp

end Settles

/-- The fault of a failure. -/
def fault? (x : Except ε α) : Option ε :=
  match x with
  | .ok _ => none
  | .error e => some e

theorem mem_fault?_iff {x : Except ε α} {e : ε} : e ∈ fault? x ↔ x = .error e := by
  cases x <;> simp [fault?, eq_comm]

end Outcome

/-! ## Records by name -/

namespace ColumnField

/-- The name of the column as names are compared. -/
def lowerName (c : ColumnField) : String := Text.lowerAscii c.name

/-- The member is what the value of the column reads as; without a value the column is empty, which
it must be allowed to be. -/
def ReadAs (c : ColumnField) : Option Value → c.type.Carrier → Prop
  | some v, x => c.type.ofValue v = .ok x
  | none, x => c.nullable = true ∧ c.type.ofValue c.type.empty = .ok x

/-- The fault of a labeled value, if it is given to the column and cannot be converted. -/
def refusal? (c : ColumnField) (p : String × Value) : Option Error :=
  if Text.eqIgnoringCase p.1 c.name then fault? (c.type.ofValue p.2) else none

/-- The fault of a column that must have a value and has none. -/
def absence? (c : ColumnField) (typeName : String) (given : Option Value) : Option Error :=
  if given.isNone && !c.nullable then some (.model (.columnNotInRow c.name typeName)) else none

end ColumnField

mutual
/-- The record has in every column what is given by name, contained entities included, and defaults
for what is not kept. -/
def Declared.ReadAs (given : String → Option Value) : (d : Declared) → d.Record → Prop
  | ⟨_, _, members⟩, e => members.ReadAs given e
  termination_by structural d => d

/-- The members are what is given by name. -/
def Members.ReadAs (given : String → Option Value) : (ms : Members) → ms.Record → Prop
  | .nil, _ => True
  | .column c rest, (x, others) => c.ReadAs (given c.name) x ∧ rest.ReadAs given others
  | .inherit _ base rest, (b, others) => base.ReadAs given b ∧ rest.ReadAs given others
  | .skip _ _ default rest, (y, others) => y = default ∧ rest.ReadAs given others
  termination_by structural ms => ms
end

mutual
/-- The columns a record is read from, each with the name of its entity. -/
def Declared.readColumns : Declared → List (String × ColumnField)
  | ⟨typeName, _, members⟩ =>
    members.columnFields.map (fun c => (typeName, c)) ++ members.containedColumns
  termination_by structural d => d

/-- The columns contained entities are read from. -/
def Members.containedColumns : Members → List (String × ColumnField)
  | .nil => []
  | .column _ rest => rest.containedColumns
  | .inherit _ base rest => base.readColumns ++ rest.containedColumns
  | .skip _ _ _ rest => rest.containedColumns
  termination_by structural ms => ms
end

mutual
/-- No two columns of the entity have one name, nor two of a contained entity. -/
def Declared.NamesApart : Declared → Prop
  | ⟨_, _, members⟩ => (members.columnFields.map ColumnField.lowerName).Nodup ∧ members.NamesApart
  termination_by structural d => d

/-- The names are apart in each contained entity. -/
def Members.NamesApart : Members → Prop
  | .nil => True
  | .column _ rest => rest.NamesApart
  | .inherit _ base rest => base.NamesApart ∧ rest.NamesApart
  | .skip _ _ _ rest => rest.NamesApart
  termination_by structural ms => ms
end

namespace Members

/-- The faults of a labeled value. -/
def refusals (ms : Members) (p : String × Value) : List Error :=
  ms.columnFields.filterMap fun c => c.refusal? p

/-- The faults of columns without a value. -/
def absences (ms : Members) (typeName : String) (given : String → Option Value) : List Error :=
  ms.columnFields.filterMap fun c => c.absence? typeName (given c.name)

end Members

mutual
/-- What goes wrong when a row is read, in the order in which it is met. -/
def Declared.faults (r : Row) : Declared → List Error
  | ⟨typeName, _, members⟩ =>
    r.pairs.flatMap members.refusals ++ members.absences typeName r.value? ++ members.faults r
  termination_by structural d => d

/-- What goes wrong when contained entities are read. -/
def Members.faults (r : Row) : Members → List Error
  | .nil => []
  | .column _ rest => rest.faults r
  | .inherit _ base rest => base.faults r ++ rest.faults r
  | .skip _ _ _ rest => rest.faults r
  termination_by structural ms => ms
end

/-! ## Giving out the values of a row -/

namespace ColumnField

/-- What is held for the column is what its value reads as. -/
def Holds (c : ColumnField) : Option Value → Option c.type.Carrier → Prop
  | some v, held => ∃ x, held = some x ∧ c.type.ofValue v = .ok x
  | none, held => held = none

end ColumnField

namespace Members

/-- What is held is what has been given by name. -/
def Holds (given : String → Option Value) : (ms : Members) → ms.Held → Prop
  | nil, _ => True
  | column c rest, (held, others) => c.Holds (given c.name) held ∧ rest.Holds given others
  | inherit _ _ rest, held => rest.Holds given held
  | skip _ _ _ rest, held => rest.Holds given held

/-- The members kept in columns of the entity itself are what is given by name. -/
def OwnReadAs (given : String → Option Value) : (ms : Members) → ms.Own → Prop
  | nil, _ => True
  | column c rest, (x, own) => c.ReadAs (given c.name) x ∧ rest.OwnReadAs given own
  | inherit _ _ rest, own => rest.OwnReadAs given own
  | skip _ _ _ rest, own => rest.OwnReadAs given own

variable {given given' : String → Option Value}

theorem holds_nothingHeld : ∀ ms : Members,
    ms.Holds (Row.ofPairs []).value? ms.nothingHeld
  | nil => trivial
  | column _ rest => ⟨rfl, rest.holds_nothingHeld⟩
  | inherit _ _ rest => rest.holds_nothingHeld
  | skip _ _ _ rest => rest.holds_nothingHeld

theorem holds_congr : ∀ (ms : Members) {held : ms.Held},
    (∀ c ∈ ms.columnFields, given c.name = given' c.name) → ms.Holds given held →
      ms.Holds given' held
  | nil, _, _, _ => trivial
  | column c rest, (_, _), alike, ⟨first, others⟩ => by
    obtain ⟨same, alike⟩ := List.forall_mem_cons.1 alike
    exact ⟨same ▸ first, rest.holds_congr alike others⟩
  | inherit _ _ rest, _, alike, h => rest.holds_congr alike h
  | skip _ _ _ rest, _, alike, h => rest.holds_congr alike h

variable {label : String} {v : Value}

/-- A value has no fault where no column is called like it. -/
theorem refusals_eq_nil {ms : Members}
    (uncalled : ∀ c ∈ ms.columnFields, Text.eqIgnoringCase label c.name = false) :
    ms.refusals (label, v) = [] := by
  refine List.filterMap_eq_nil_iff.2 fun c member => ?_
  rw [ColumnField.refusal?, uncalled c member, if_neg Bool.false_ne_true]

/-- **One value** is given to the column of its name, which has none yet, or refused by it. -/
theorem settles_hold : ∀ (ms : Members) {held : ms.Held},
      (ms.columnFields.map ColumnField.lowerName).Nodup →
      (∀ c ∈ ms.columnFields, Text.eqIgnoringCase label c.name = true → given c.name = none) →
      ms.Holds given held →
      Settles
        (ms.Holds fun name =>
          (given name).or (if Text.eqIgnoringCase label name then some v else none))
        (ms.refusals (label, v)) (ms.hold label v held)
  | nil, _, _, _, _ => .ok trivial
  | column c rest, (held, others), apart, fresh, ⟨first, holds⟩ => by
    obtain ⟨alone, apart⟩ := List.nodup_cons.1 apart
    obtain ⟨untaken, fresh⟩ := List.forall_mem_cons.1 fresh
    have split : (column c rest).refusals (label, v) =
        (c.refusal? (label, v)).toList ++ rest.refusals (label, v) := by
      rw [refusals, columnFields, List.filterMap_cons]
      cases c.refusal? (label, v) <;> rfl
    rw [split, ColumnField.refusal?]
    show Settles _ _ (if held.isNone && Text.eqIgnoringCase label c.name then _ else _)
    cases called : Text.eqIgnoringCase label c.name with
    | true =>
      have uncalled : ∀ o ∈ rest.columnFields, Text.eqIgnoringCase label o.name = false := by
        intro o member
        refine Bool.eq_false_iff.2 fun same => alone (List.mem_map.2 ⟨o, member, ?_⟩)
        exact (eqIgnoringCase_iff.1 same).symm.trans (eqIgnoringCase_iff.1 called)
      rw [untaken called] at first
      cases first
      rw [refusals_eq_nil uncalled, List.append_nil]
      show Settles _ (fault? (c.type.ofValue v)).toList ((c.type.ofValue v).map _)
      cases read : c.type.ofValue v with
      | error e => exact .error e []
      | ok x =>
        refine .ok ⟨?_, rest.holds_congr (fun o member => ?_) holds⟩
        · show c.Holds ((given c.name).or _) (some x)
          rw [untaken called, called]
          exact ⟨x, rfl, read⟩
        · rw [uncalled o member, if_neg Bool.false_ne_true, Option.or_none]
    | false =>
      rw [Bool.and_false]
      refine (settles_hold rest apart fresh holds).map fun others kept => ⟨?_, kept⟩
      show c.Holds ((given c.name).or _) held
      rw [called, if_neg Bool.false_ne_true, Option.or_none]
      exact first
  | inherit _ _ rest, _, apart, fresh, holds => settles_hold rest apart fresh holds
  | skip _ _ _ rest, _, apart, fresh, holds => settles_hold rest apart fresh holds

/-- **A whole row** is given out value by value, or refused by the first value with a fault. The
induction is on what is left of the row; the values before it are held. -/
theorem settles_holdAll {ms : Members} (apart : (ms.columnFields.map ColumnField.lowerName).Nodup) :
    ∀ (before after : List (String × Value)) {held : ms.Held},
      (∀ c ∈ ms.columnFields, Row.IsClearAt (before ++ after) c.name) →
      ms.Holds (Row.ofPairs before).value? held →
      Settles (ms.Holds (Row.ofPairs (before ++ after)).value?) (after.flatMap ms.refusals)
        (ms.holdAll held after)
  | before, [], _, _, holds => by
    rw [List.append_nil]
    exact .ok holds
  | before, (label, v) :: after, held, clear, holds => by
    have joined : before ++ (label, v) :: after = before ++ [(label, v)] ++ after := by simp
    have fresh : ∀ c ∈ ms.columnFields, Text.eqIgnoringCase label c.name = true →
        (Row.ofPairs before).value? c.name = none := by
      intro c column called
      refine Row.value?_eq_none_iff.2 fun p member => Bool.eq_false_iff.2 fun same => ?_
      rw [Row.pairs_ofPairs] at member
      have apart := (List.pairwise_append.1 (clear c column)).2.2 p member
      exact apart _ List.mem_cons_self ⟨same, called⟩
    refine (settles_hold ms apart fresh holds).bind fun held kept => ?_
    rw [joined] at clear ⊢
    refine settles_holdAll apart _ after clear ?_
    refine ms.holds_congr (fun c _ => ?_) kept
    rw [Row.value?_append, Row.value?_singleton]

end Members

/-! ## Columns without a value -/

/-- Where a type has an absent member, every null reads as one and the same member. -/
theorem FieldType.exists_ofValue_of_isNull : ∀ t : FieldType, t.nullable = true →
    ∃ x, ∀ v : Value, v.isNull = true → t.ofValue v = .ok x
  | option _, _ => ⟨none, fun _ null => if_pos null⟩
  | box t, nullable => t.exists_ofValue_of_isNull nullable

/-- A column that may be empty has the same member without a value and with a null. -/
theorem ColumnField.ofValue_of_isNull {c : ColumnField} (nullable : c.nullable = true) {v : Value}
    (null : v.isNull = true) : c.type.ofValue v = c.type.ofValue c.type.empty := by
  obtain ⟨x, reads⟩ := c.type.exists_ofValue_of_isNull (Bool.and_eq_true_iff.1 nullable).1
  rw [reads v null, reads _ c.type.isNull_empty]

namespace Members

variable {given : String → Option Value} {typeName : String}

/-- **One column** has what is held for it, or is left empty where it may be. -/
theorem settles_member {c : ColumnField} {v : Option Value} {held : Option c.type.Carrier}
    (holds : c.Holds v held) :
    Settles (c.ReadAs v) (c.absence? typeName v).toList
      (held.elim (missing typeName c) .ok) := by
  cases v with
  | some v =>
    obtain ⟨x, rfl, read⟩ := holds
    exact .ok read
  | none =>
    cases holds
    show Settles _ _ (missing typeName c)
    rw [ColumnField.absence?, missing]
    cases nullable : c.nullable with
    | true =>
      obtain ⟨x, reads⟩ := c.type.exists_ofValue_of_isNull (Bool.and_eq_true_iff.1 nullable).1
      have read := reads _ c.type.isNull_empty
      rw [if_pos rfl, read]
      exact .ok ⟨nullable, read⟩
    | false => exact .error _ []

theorem settle_column {c : ColumnField} {rest : Members} (held : Option c.type.Carrier)
    (others : rest.Held) :
    (column c rest).settle typeName (held, others) =
      held.elim (missing typeName c) .ok >>= fun x =>
        rest.settle typeName others >>= fun own => .ok (x, own) := by
  cases held <;> rfl

/-- **What is held is completed,** or the first column fails that must have a value. -/
theorem settles_settle : ∀ (ms : Members) {held : ms.Held}, ms.Holds given held →
    Settles (ms.OwnReadAs given) (ms.absences typeName given) (ms.settle typeName held)
  | nil, _, _ => .ok trivial
  | column c rest, (held, others), ⟨first, holds⟩ => by
    have split : (column c rest).absences typeName given =
        (c.absence? typeName (given c.name)).toList ++ rest.absences typeName given := by
      rw [absences, columnFields, List.filterMap_cons]
      cases c.absence? typeName (given c.name) <;> rfl
    rw [split, settle_column]
    refine (settles_member first).bind fun x readAs => ?_
    rw [← List.append_nil (rest.absences typeName given)]
    exact (settles_settle rest holds).bind fun own readAll => .ok ⟨readAs, readAll⟩
  | inherit _ _ rest, _, holds => settles_settle rest holds
  | skip _ _ _ rest, _, holds => settles_settle rest holds

end Members

/-! ## Whole records -/

variable {r : Row}

mutual
/-- **A row is read as the record given by name,** or fails with the first of its faults. -/
theorem Declared.settles_ofRow : ∀ d : Declared, d.NamesApart →
    (∀ k ∈ d.readColumns, Row.IsClearAt r.pairs k.2.name) →
      Settles (d.ReadAs r.value?) (d.faults r) (d.ofRow r)
  | ⟨typeName, _, members⟩, ⟨apart, inside⟩, clear => by
    obtain ⟨own, contained⟩ := List.forall_mem_append.1 clear
    have held := Members.settles_holdAll apart [] r.pairs
      (fun c column => own _ (List.mem_map_of_mem column)) members.holds_nothingHeld
    rw [List.nil_append, Row.ofPairs_pairs] at held
    show Settles _ (_ ++ _ ++ _) (_ >>= _)
    rw [List.append_assoc]
    refine held.bind fun held holds => ?_
    exact (members.settles_settle holds).bind fun own readAs =>
      members.settles_assemble inside contained readAs

theorem Members.settles_assemble : ∀ (ms : Members) {own : ms.Own}, ms.NamesApart →
    (∀ k ∈ ms.containedColumns, Row.IsClearAt r.pairs k.2.name) → ms.OwnReadAs r.value? own →
      Settles (ms.ReadAs r.value?) (ms.faults r) (ms.assemble own r)
  | .nil, _, _, _, _ => .ok trivial
  | .column _ rest, (_, own), apart, clear, ⟨first, others⟩ =>
    (rest.settles_assemble apart clear others).map fun _ readAs => ⟨first, readAs⟩
  | .inherit _ base rest, _, ⟨first, apart⟩, clear, readAs => by
    obtain ⟨inside, clear⟩ := List.forall_mem_append.1 clear
    refine (base.settles_ofRow first inside).bind fun b contained => ?_
    rw [← List.append_nil (rest.faults r)]
    exact (rest.settles_assemble apart clear readAs).bind fun _ others => .ok ⟨contained, others⟩
  | .skip _ _ _ rest, _, apart, clear, readAs =>
    (rest.settles_assemble apart clear readAs).map fun _ others => ⟨rfl, others⟩
end

/-! ## Faults and what is given by name -/

namespace ColumnField

variable {c : ColumnField} {typeName : String}

/-- What is given to the column makes reading fail: it cannot be converted, or it is missing. -/
def FailsWith (c : ColumnField) (typeName : String) : Option Value → Error → Prop
  | some v, cause => c.type.ofValue v = .error cause
  | none, cause => c.nullable = false ∧ cause = .model (.columnNotInRow c.name typeName)

theorem ReadAs.unique : ∀ {v : Option Value} {x y : c.type.Carrier},
    c.ReadAs v x → c.ReadAs v y → x = y
  | some _, _, _, hx, hy => Except.ok.inj (hx.symm.trans hy)
  | none, _, _, hx, hy => Except.ok.inj (hx.2.symm.trans hy.2)

theorem ReadAs.not_failsWith : ∀ {v : Option Value} {x : c.type.Carrier} {cause : Error},
    c.ReadAs v x → ¬c.FailsWith typeName v cause
  | some _, _, _, read, fails => nomatch read.symm.trans fails
  | none, _, _, read, fails => Bool.eq_false_iff.1 fails.1 read.1

theorem mem_faults_iff (clear : Row.IsClearAt r.pairs c.name) {cause : Error} :
    c.FailsWith typeName (r.value? c.name) cause ↔
      (∃ p ∈ r.pairs, c.refusal? p = some cause) ∨
        c.absence? typeName (r.value? c.name) = some cause := by
  have refused : (∃ p ∈ r.pairs, c.refusal? p = some cause) ↔
      ∃ v, r.value? c.name = some v ∧ c.type.ofValue v = .error cause := by
    simp only [Row.value?_eq_some_iff clear, refusal?]
    constructor
    · rintro ⟨⟨label, v⟩, member, failed⟩
      obtain ⟨called, failed⟩ := Option.ite_none_right_eq_some.1 failed
      exact ⟨v, ⟨label, member, called⟩, mem_fault?_iff.1 failed⟩
    · rintro ⟨v, ⟨label, member, called⟩, failed⟩
      exact ⟨(label, v), member, Option.ite_none_right_eq_some.2 ⟨called, mem_fault?_iff.2 failed⟩⟩
  rw [refused]
  cases r.value? c.name with
  | some v => simp [FailsWith, absence?]
  | none =>
    rw [absence?, Option.isNone_none, Bool.true_and, Option.ite_none_right_eq_some]
    simp [FailsWith, @eq_comm _ cause]

end ColumnField

mutual
/-- **The faults** are what makes reading a column fail. -/
theorem Declared.mem_faults_iff {cause : Error} : ∀ d : Declared,
    (∀ k ∈ d.readColumns, Row.IsClearAt r.pairs k.2.name) →
      (cause ∈ d.faults r ↔
        ∃ k ∈ d.readColumns, k.2.FailsWith k.1 (r.value? k.2.name) cause)
  | ⟨typeName, _, members⟩, clear => by
    obtain ⟨own, contained⟩ := List.forall_mem_append.1 clear
    have own : ∀ c ∈ members.columnFields, Row.IsClearAt r.pairs c.name :=
      fun c column => own _ (List.mem_map_of_mem column)
    show cause ∈ _ ++ _ ++ _ ↔ ∃ k ∈ _ ++ _, _
    simp only [List.mem_append, or_and_right, exists_or]
    rw [← members.mem_faults_iff contained]
    refine or_congr_left ?_
    simp only [Members.refusals, Members.absences, List.mem_flatMap, List.mem_filterMap,
      List.mem_map]
    constructor
    · rintro (⟨p, member, c, column, refused⟩ | ⟨c, column, absent⟩)
      · exact ⟨_, ⟨c, column, rfl⟩, (ColumnField.mem_faults_iff (own c column)).2
          (.inl ⟨p, member, refused⟩)⟩
      · exact ⟨_, ⟨c, column, rfl⟩, (ColumnField.mem_faults_iff (own c column)).2 (.inr absent)⟩
    · rintro ⟨_, ⟨c, column, rfl⟩, fails⟩
      rcases (ColumnField.mem_faults_iff (own c column)).1 fails with ⟨p, member, refused⟩ | absent
      · exact .inl ⟨p, member, c, column, refused⟩
      · exact .inr ⟨c, column, absent⟩

theorem Members.mem_faults_iff {cause : Error} : ∀ ms : Members,
    (∀ k ∈ ms.containedColumns, Row.IsClearAt r.pairs k.2.name) →
      (cause ∈ ms.faults r ↔
        ∃ k ∈ ms.containedColumns, k.2.FailsWith k.1 (r.value? k.2.name) cause)
  | .nil, _ => by simp [Members.faults, Members.containedColumns]
  | .column _ rest, clear => rest.mem_faults_iff clear
  | .inherit _ base rest, clear => by
    obtain ⟨inside, clear⟩ := List.forall_mem_append.1 clear
    show cause ∈ _ ++ _ ↔ ∃ k ∈ _ ++ _, _
    simp only [List.mem_append, or_and_right, exists_or]
    rw [base.mem_faults_iff inside, rest.mem_faults_iff clear]
  | .skip _ _ _ rest, clear => rest.mem_faults_iff clear
end

variable {given given' : String → Option Value}

mutual
/-- The record given by name is made of what each column reads. -/
theorem Declared.forall_readAs : ∀ (d : Declared) {e : d.Record}, d.ReadAs given e →
    ∀ k ∈ d.readColumns, ∃ x, k.2.ReadAs (given k.2.name) x
  | ⟨_, _, members⟩, _, readAs => by
    obtain ⟨own, contained⟩ := members.forall_readAs readAs
    exact List.forall_mem_append.2 ⟨List.forall_mem_map.2 own, contained⟩

theorem Members.forall_readAs : ∀ (ms : Members) {e : ms.Record}, ms.ReadAs given e →
    (∀ c ∈ ms.columnFields, ∃ x, c.ReadAs (given c.name) x) ∧
      ∀ k ∈ ms.containedColumns, ∃ x, k.2.ReadAs (given k.2.name) x
  | .nil, _, _ => ⟨List.forall_mem_nil _, List.forall_mem_nil _⟩
  | .column _ rest, _, ⟨first, others⟩ => by
    obtain ⟨own, contained⟩ := rest.forall_readAs others
    exact ⟨List.forall_mem_cons.2 ⟨⟨_, first⟩, own⟩, contained⟩
  | .inherit _ base rest, _, ⟨first, others⟩ => by
    obtain ⟨own, contained⟩ := rest.forall_readAs others
    exact ⟨own, List.forall_mem_append.2 ⟨base.forall_readAs first, contained⟩⟩
  | .skip _ _ _ rest, _, ⟨_, others⟩ => rest.forall_readAs others
end

mutual
/-- Where every column reads the same by other names, so does the record. -/
theorem Declared.readAs_of_forall : ∀ (d : Declared) {e : d.Record},
    (∀ k ∈ d.readColumns, ∀ x, k.2.ReadAs (given k.2.name) x → k.2.ReadAs (given' k.2.name) x) →
      d.ReadAs given e → d.ReadAs given' e
  | ⟨_, _, members⟩, _, kept, readAs => by
    obtain ⟨own, contained⟩ := List.forall_mem_append.1 kept
    exact members.readAs_of_forall (fun c column => own _ (List.mem_map_of_mem column)) contained
      readAs

theorem Members.readAs_of_forall : ∀ (ms : Members) {e : ms.Record},
    (∀ c ∈ ms.columnFields, ∀ x, c.ReadAs (given c.name) x → c.ReadAs (given' c.name) x) →
      (∀ k ∈ ms.containedColumns, ∀ x,
        k.2.ReadAs (given k.2.name) x → k.2.ReadAs (given' k.2.name) x) →
      ms.ReadAs given e → ms.ReadAs given' e
  | .nil, _, _, _, _ => trivial
  | .column _ rest, _, own, contained, ⟨first, others⟩ => by
    obtain ⟨kept, own⟩ := List.forall_mem_cons.1 own
    exact ⟨kept _ first, rest.readAs_of_forall own contained others⟩
  | .inherit _ base rest, _, own, contained, ⟨first, others⟩ => by
    obtain ⟨inside, contained⟩ := List.forall_mem_append.1 contained
    exact ⟨base.readAs_of_forall inside first, rest.readAs_of_forall own contained others⟩
  | .skip _ _ _ rest, _, own, contained, ⟨first, others⟩ =>
    ⟨first, rest.readAs_of_forall own contained others⟩
end

mutual
/-- One record at most is given by name. -/
theorem Declared.readAs_unique : ∀ (d : Declared) {e e' : d.Record},
    d.ReadAs given e → d.ReadAs given e' → e = e'
  | ⟨_, _, members⟩, _, _, he, he' => members.readAs_unique he he'

theorem Members.readAs_unique : ∀ (ms : Members) {e e' : ms.Record},
    ms.ReadAs given e → ms.ReadAs given e' → e = e'
  | .nil, _, _, _, _ => rfl
  | .column _ rest, _, _, ⟨hx, h⟩, ⟨hx', h'⟩ =>
    Prod.ext (hx.unique hx') (rest.readAs_unique h h')
  | .inherit _ base rest, _, _, ⟨hb, h⟩, ⟨hb', h'⟩ =>
    Prod.ext (base.readAs_unique hb hb') (rest.readAs_unique h h')
  | .skip _ _ _ rest, _, _, ⟨hy, h⟩, ⟨hy', h'⟩ =>
    Prod.ext (hy.trans hy'.symm) (rest.readAs_unique h h')
end

/-- **Reading succeeds** exactly with the record given by name. -/
theorem Declared.ofRow_eq_ok_iff {d : Declared} (apart : d.NamesApart)
    (clear : ∀ k ∈ d.readColumns, Row.IsClearAt r.pairs k.2.name) (e : d.Record) :
    d.ofRow r = .ok e ↔ d.ReadAs r.value? e := by
  have settled := d.settles_ofRow apart clear
  constructor
  · intro read
    rw [read] at settled
    exact settled.of_ok.2
  · intro readAs
    have faultless : d.faults r = [] := by
      refine List.eq_nil_iff_forall_not_mem.2 fun cause fault => ?_
      obtain ⟨k, column, fails⟩ := (d.mem_faults_iff clear).1 fault
      obtain ⟨x, read⟩ := d.forall_readAs readAs k column
      exact read.not_failsWith fails
    rw [faultless] at settled
    obtain ⟨e', read, readAs'⟩ := settled.exists_ok
    rw [read, d.readAs_unique readAs readAs']

end EntitySql
