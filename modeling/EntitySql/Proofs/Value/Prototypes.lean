import EntitySql.Proofs.Marshal.Coercion

/-!
# Values without contents

What is left of a value without its contents, those of the prototype of its elements included, is
its kind. Values are of the same type exactly when this is the same for both
(`Value.sameType_iff_bare`), and a prototype is nothing but its kind (`Value.isPrototype_iff`).

A null is not quite a prototype: the prototype of its elements may still have a content. It equals
what is left of it (`Value.equals_bare`), as equality of nulls compares their types only.
-/

namespace EntitySql

set_option autoImplicit false

namespace Value

/-- The null of the same kind; the prototype of its elements has no content either. -/
def bare : Value → Value
  | list _ element => list none element.bare
  | v => v.prototype

/-- Precision and scale, of elements also, are numbers of eight bits. -/
def DigitsFit : Value → Prop
  | decimal _ precision scale => precision < 256 ∧ scale < 256
  | list _ element => element.DigitsFit
  | _ => True

/-- The value describes a kind and nothing else: it has no content, nor has the prototype of its
elements, and its digits are numbers of eight bits. -/
def IsPrototype : Value → Prop
  | decimal content precision scale => content = none ∧ precision < 256 ∧ scale < 256
  | list items element => items = none ∧ element.IsPrototype
  | v => v.isNull = true

theorem prototype_eq_self_iff (v : Value) : v.prototype = v ↔ v.isNull = true := by
  refine ⟨fun same => same ▸ v.isNull_prototype, fun null => ?_⟩
  cases v with
  | null => rfl
  | _ =>
    cases Option.isNone_iff_eq_none.1 null
    rfl

/-- A prototype is what is left of it without contents. -/
theorem isPrototype_iff (v : Value) : v.IsPrototype ↔ v.DigitsFit ∧ v.bare = v := by
  cases v with
  | list items element =>
    have kind : (list items element).bare = list items element ↔
        items = none ∧ element.bare = element := by
      rw [bare, list.injEq, eq_comm]
    rw [IsPrototype, isPrototype_iff element, DigitsFit, kind, and_left_comm]
  | decimal content precision scale =>
    rw [IsPrototype, DigitsFit, bare, prototype_eq_self_iff, isNull, Option.isNone_iff_eq_none,
      and_comm]
    exact nofun
  | _ => exact (prototype_eq_self_iff _).symm.trans (iff_of_eq (true_and _).symm)

theorem sameType_bare (v w : Value) : v.bare.sameType w = v.sameType w := by
  cases v with
  | list items element =>
    cases w with
    | list _ other => exact sameType_bare element other
    | _ => rfl
  | _ => exact sameType_prototype _ _

/-- A null equals what is left of it without contents. -/
theorem equals_bare {v : Value} (null : v.isNull = true) : v.equals v.bare = true := by
  cases v with
  | null => rfl
  | list items element =>
    cases Option.isNone_iff_eq_none.1 null
    show element.sameType element.bare = true
    rw [← sameType_bare]
    exact element.bare.sameType_refl
  | _ =>
    cases Option.isNone_iff_eq_none.1 null
    simp [bare, prototype, equals, agree]

theorem bare_eq_of_sameType {v w : Value} (same : v.sameType w = true) : v.bare = w.bare := by
  fun_induction sameType v w with
  | case3 k _ l _ | case4 k _ l _ =>
    cases beq_iff_eq.1 same
    rfl
  | case5 _ p s _ q t =>
    obtain ⟨precision, scale⟩ := Bool.and_eq_true_iff.1 same
    cases beq_iff_eq.1 precision
    cases beq_iff_eq.1 scale
    rfl
  | case14 items element _ other ih => rw [bare, bare, ih same]
  | case16 => cases same
  | _ => rfl

/-- **Values are of the same type** exactly when they are one but for their contents. -/
theorem sameType_iff_bare {v w : Value} : v.sameType w = true ↔ v.bare = w.bare := by
  refine ⟨bare_eq_of_sameType, fun same => ?_⟩
  rw [← sameType_bare, same, sameType_bare]
  exact w.sameType_refl

end Value

end EntitySql
