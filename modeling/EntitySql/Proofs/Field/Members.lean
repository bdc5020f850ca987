import EntitySql.Proofs.Entity.Fields

/-!
# Members of field types as values

Options, boxes and lists are told apart in a value only by its nulls and lists: a box leaves no
trace, and an absent option is the null of the type around which it stands. So a member comes back
from its value unless it is a present option written as a null (`FieldType.ofValue_toValue_iff`). A
type has such a member exactly when one of its options stands inside another one without a list
between them (`FieldType.forall_solid_iff`).

The value of a member is of the kind of its type whether or not it comes back.
-/

namespace EntitySql

set_option autoImplicit false

namespace FieldType

/-- No option stands inside another one, unless a list is between them. -/
def optionsApart : FieldType → Bool
  | primitive _ => true
  | option t => !t.nullable && t.optionsApart
  | box t => t.optionsApart
  | list t => t.optionsApart

/-- The member is an absent option, in boxes or not. -/
def isAbsent : (t : FieldType) → t.Carrier → Bool
  | primitive _, _ => false
  | option _, none => true
  | option _, some _ => false
  | box t, x => t.isAbsent x
  | list _, _ => false

/-! ## Absent members -/

/-- An absent member is the null of its type. -/
theorem toValue_of_isAbsent : ∀ (t : FieldType) (x : t.Carrier), t.isAbsent x = true →
    t.toValue x = t.empty
  | primitive _, _, absent => absurd absent Bool.false_ne_true
  | option _, none, _ => rfl
  | option _, some _, absent => absurd absent Bool.false_ne_true
  | box t, x, absent => t.toValue_of_isAbsent x absent
  | list _, _, absent => absurd absent Bool.false_ne_true

/-- Options have an absent member, and boxes around them. -/
theorem exists_isAbsent_iff : ∀ {t : FieldType},
    (∃ x : t.Carrier, t.isAbsent x = true) ↔ t.nullable = true
  | primitive _ => ⟨nofun, nofun⟩
  | option _ => ⟨fun _ => rfl, fun _ => ⟨none, rfl⟩⟩
  | box t => exists_isAbsent_iff (t := t)
  | list _ => ⟨nofun, nofun⟩

/-- The null of a type says which kind of value is missing. -/
theorem empty_ne_null : ∀ t : FieldType, t.empty ≠ .null
  | primitive p => by cases p <;> exact nofun
  | option t => t.empty_ne_null
  | box t => t.empty_ne_null
  | list _ => nofun

/-- Where options stand apart, a value is null only for an absent member. -/
theorem isNull_toValue : ∀ {t : FieldType} (x : t.Carrier), t.optionsApart = true →
    (t.toValue x).isNull = t.isAbsent x
  | primitive p, x, _ => ColumnField.isNull_toValue p x
  | option t, none, _ => t.isNull_empty
  | option t, some x, apart => by
    obtain ⟨present, apart⟩ := Bool.and_eq_true_iff.1 apart
    have never : t.isAbsent x ≠ true := fun absent => by
      rw [exists_isAbsent_iff.1 ⟨x, absent⟩] at present
      cases present
    exact (isNull_toValue x apart).trans (Bool.eq_false_iff.2 never)
  | box t, x, apart => isNull_toValue (t := t) x apart
  | list _, _, _ => rfl

/-! ## Members that come back -/

/-- **A member comes back from its value** exactly when it has no present option written as a
null. -/
theorem ofValue_toValue_iff : ∀ {t : FieldType} {x : t.Carrier},
    t.ofValue (t.toValue x) = .ok x ↔ t.Solid x := by
  refine fun {t} {x} => ⟨?_, t.ofValue_toValue x⟩
  induction t with
  | primitive p => exact fun _ => trivial
  | option t ih =>
    cases x with
    | none => exact fun _ => trivial
    | some x =>
      show (if (t.toValue x).isNull = true then .ok none
        else (t.ofValue (t.toValue x)).map some) = Except.ok (some x) → _
      intro back
      split at back
      · cases back
      · next content =>
        obtain ⟨y, read, same⟩ := Outcome.map_eq_ok.1 back
        cases same
        exact ⟨Bool.eq_false_iff.2 content, ih read⟩
  | box t ih => exact ih
  | list t ih =>
    intro back y member
    have each : List.Forall₂ (fun v y => t.ofValue v = .ok y) (x.map t.toValue) x :=
      Outcome.mapM_eq_ok.1 back
    exact ih (List.forall₂_same.1 (List.forall₂_map_left_iff.1 each) y member)

/-- **All members of a type come back** exactly when its options stand apart. -/
theorem forall_solid_iff : ∀ {t : FieldType},
    (∀ x : t.Carrier, t.Solid x) ↔ t.optionsApart = true
  | primitive _ => ⟨fun _ => rfl, fun _ _ => trivial⟩
  | option t => by
    rw [optionsApart, Bool.and_eq_true, Bool.not_eq_true', ← forall_solid_iff (t := t)]
    constructor
    · intro solid
      refine ⟨Bool.eq_false_iff.2 fun nullable => ?_, fun x => (solid (some x)).2⟩
      obtain ⟨x, absent⟩ := exists_isAbsent_iff.2 nullable
      have content := (solid (some x)).1
      rw [t.toValue_of_isAbsent x absent, t.isNull_empty] at content
      cases content
    · rintro ⟨present, solid⟩ (_ | x)
      · trivial
      · have apart : t.option.optionsApart = true := by
          rw [optionsApart, present, forall_solid_iff.1 solid]
          rfl
        exact ⟨isNull_toValue (t := t.option) (some x) apart, solid x⟩
  | box t => forall_solid_iff (t := t)
  | list t => by
    rw [optionsApart, ← forall_solid_iff (t := t)]
    exact ⟨fun solid x => solid [x] x List.mem_cons_self, fun solid xs x _ => solid x⟩

/-! ## Kinds of members -/

/-- The value of a member is of the kind of its type, a decimal with its own scale. -/
theorem isOf_toValue : ∀ (t : FieldType) (x : t.Carrier), (t.toValue x).IsOf t.empty
  | primitive p, x => by
    by_cases decimal : p = .decimal
    · subst decimal
      exact ⟨rfl, rfl⟩
    · have flat : (p.toValue x).isFlat = true := by
        cases p <;> first | exact absurd rfl decimal | rfl
      exact (Value.isOf_iff_sameType (.inr flat)).2 (ColumnField.sameType_empty decimal x)
  | option t, none => (Value.isOf_iff_sameType (.inl t.isNull_empty)).2 (Value.sameType_refl _)
  | option t, some x => t.isOf_toValue x
  | box t, x => t.isOf_toValue x
  | list t, xs => by
    refine ⟨Value.sameType_refl _, fun v member => ?_⟩
    obtain ⟨x, -, rfl⟩ := List.mem_map.1 member
    exact t.isOf_toValue x

/-- **Every member of a field type comes back from its value,** provided no option of the type
stands inside another one without a list between them; and only then do all members come back. Every
value is of the kind of its type. An absent option is the null of the type, which has a kind, and
where options stand apart no other member is a null. -/
theorem comesBack_iff (t : FieldType) :
    (t.optionsApart = true ↔ ∀ x : t.Carrier, t.ofValue (t.toValue x) = .ok x) ∧
      ∀ x : t.Carrier, (t.toValue x).IsOf t.empty ∧
        (t.isAbsent x = true →
          t.toValue x = t.empty ∧ t.empty.isNull = true ∧ t.empty ≠ .null) ∧
        (t.optionsApart = true → (t.toValue x).isNull = t.isAbsent x) := by
  have back : (∀ x : t.Carrier, t.ofValue (t.toValue x) = .ok x) ↔ ∀ x : t.Carrier, t.Solid x :=
    forall_congr' fun _ => ofValue_toValue_iff
  exact ⟨(back.trans forall_solid_iff).symm, fun x => ⟨t.isOf_toValue x,
    fun absent => ⟨t.toValue_of_isAbsent x absent, t.isNull_empty, t.empty_ne_null⟩,
    isNull_toValue x⟩⟩

/-- A present option of an absent one comes back as an absent one. -/
example : (option (option (primitive .boolean))).ofValue
    ((option (option (primitive .boolean))).toValue (some none)) = .ok none := rfl

end FieldType

end EntitySql
