import Mathlib.Data.List.Forall2
import EntitySql.Sql.Operator
import EntitySql.Sql.Test

/-!
# Texts that occur in order

Parts are written into a text one after the other, with other text between them. The parts then
occur in it in their order, each at a place of its own (`InOrder`). What is written around a text
keeps that, and so does every way in which the dialects combine two operands.
-/

namespace EntitySql

set_option autoImplicit false

/-- The texts occur in the last one, one behind the other. -/
def InOrder : List String → String → Prop
  | [], _ => True
  | part :: parts, t => ∃ before after, t = before ++ part ++ after ∧ InOrder parts after

namespace InOrder

variable {parts others : List String} {t u : String}

theorem single (t : String) : InOrder [t] t := ⟨"", "", by simp, trivial⟩

theorem before (x : String) (h : InOrder parts t) : InOrder parts (x ++ t) := by
  cases parts with
  | nil => trivial
  | cons part parts =>
    obtain ⟨left, right, rfl, rest⟩ := h
    exact ⟨x ++ left, right, by simp only [String.append_assoc], rest⟩

theorem behind (x : String) (h : InOrder parts t) : InOrder parts (t ++ x) := by
  induction parts generalizing t with
  | nil => trivial
  | cons part parts ih =>
    obtain ⟨left, right, rfl, rest⟩ := h
    exact ⟨left, right ++ x, by simp only [String.append_assoc], ih rest⟩

theorem append (first : InOrder parts t) (second : InOrder others u) :
    InOrder (parts ++ others) (t ++ u) := by
  induction parts generalizing t with
  | nil => exact second.before t
  | cons part parts ih =>
    obtain ⟨left, right, rfl, rest⟩ := first
    exact ⟨left, right ++ u, by simp only [String.append_assoc], ih rest⟩

end InOrder

/-! ## Lists of texts -/

/-- The texts belong to the members of a list, some to the first one, the next ones to the second
one and so on; the relation says what belonging means. -/
def Spread {α : Type} (belong : List String → α → Prop) (parts : List String) (as : List α) :
    Prop :=
  ∃ split : List (List String), split.flatten = parts ∧ List.Forall₂ belong split as

namespace Spread

variable {α : Type} {belong : List String → α → Prop} {parts others : List String}

theorem nil : Spread belong [] [] := ⟨[], rfl, .nil⟩

theorem cons {a : α} {as : List α} (first : belong parts a) (rest : Spread belong others as) :
    Spread belong (parts ++ others) (a :: as) := by
  obtain ⟨split, rfl, each⟩ := rest
  exact ⟨parts :: split, List.flatten_cons, .cons first each⟩

/-- What occurs in the members occurs in the text that they are joined to. -/
theorem intercalate {ts : List String} (h : Spread InOrder parts ts) (separator : String) :
    InOrder parts (String.intercalate separator ts) := by
  obtain ⟨split, rfl, each⟩ := h
  induction each with
  | nil => trivial
  | @cons first t rest ts here later ih =>
    cases ts with
    | nil =>
      cases later
      simpa using here
    | cons u us =>
      rw [String.intercalate_cons_cons, List.flatten_cons]
      exact (here.behind separator).append ih

end Spread

namespace Dialect

variable {d : Dialect} {a b : String} {parts others : List String}

theorem inOrder_between (symbol : String) (first : InOrder parts a) (second : InOrder others b) :
    InOrder (parts ++ others) (between a symbol b) :=
  (((((first.before "(").behind " ").behind symbol).behind " ").append second).behind ")"

theorem inOrder_call (function : String) (first : InOrder parts a) (second : InOrder others b) :
    InOrder (parts ++ others) (call function a b) :=
  ((((first.before (function ++ "(")).behind ", ").append second).behind ")")

theorem inOrder_complement (first : InOrder parts a) : InOrder parts (d.complement a) := by
  cases d with
  | h2 => exact (first.before "BITNOT(").behind ")"
  | oracle =>
    exact ((((first.before "((").behind " - 1) - 2 * BITAND(").behind a).behind ", -1))")
  | _ => exact (first.before "(~").behind ")"

/-- One dialect writes the operands of a disjunction twice; they occur in the first place. -/
theorem inOrder_derived (middle : String) (first : InOrder parts a) (second : InOrder others b) :
    InOrder (parts ++ others)
      ("((" ++ a ++ " + " ++ b ++ middle ++ call "BITAND" a b ++ ")") :=
  (((((first.before "((").behind " + ").append second).behind middle).behind _).behind ")"

theorem inOrder_binary (op : BitOp) (binary : op.isUnary = false) (first : InOrder parts a)
    (second : InOrder others b) : InOrder (parts ++ others) (d.binary op a b) := by
  cases op with
  | not => cases binary
  | and =>
    cases d with
    | h2 | oracle => exact inOrder_call _ first second
    | _ => exact inOrder_between _ first second
  | or =>
    cases d with
    | h2 => exact inOrder_call _ first second
    | oracle => exact inOrder_derived ") - " first second
    | _ => exact inOrder_between _ first second
  | xor =>
    cases d with
    | h2 => exact inOrder_call _ first second
    | oracle => exact inOrder_derived ") - 2 * " first second
    | _ => exact inOrder_between _ first second
  | remainder =>
    cases d with
    | h2 | oracle => exact inOrder_call _ first second
    | _ => exact inOrder_between _ first second
  | add | subtract | multiply | divide => exact inOrder_between _ first second

theorem inOrder_emptyTest (negated : Bool) (left : InOrder parts a) :
    InOrder parts (d.emptyTest a negated) := by
  have forms : InOrder parts
      (if negated then "(" ++ a ++ " <> '' AND " ++ a ++ " IS NOT NULL)"
        else "(" ++ a ++ " = '' OR " ++ a ++ " IS NULL)") := by
    split
    · exact (((left.before "(").behind " <> '' AND ").behind a).behind " IS NOT NULL)"
    · exact (((left.before "(").behind " = '' OR ").behind a).behind " IS NULL)"
  cases d with
  | oracle => exact ((left.behind " IS ").behind (negation negated)).behind "NULL"
  | _ => exact forms

end Dialect

end EntitySql
