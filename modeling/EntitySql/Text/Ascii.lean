/-!
# ASCII letters without their case

Names of tables, columns and labels are compared without regard to the case of ASCII letters;
all other characters must agree exactly.
-/

namespace EntitySql.Text

set_option autoImplicit false

/-- The text with its ASCII letters in lower case. -/
def lowerAscii (s : String) : String := String.ofList (s.toList.map Char.toLower)

/-- The text with its ASCII letters in upper case. -/
def upperAscii (s : String) : String := String.ofList (s.toList.map Char.toUpper)

/-- The two texts agree up to the case of ASCII letters. -/
def eqIgnoringCase (a b : String) : Bool :=
  a.toList.map Char.toLower == b.toList.map Char.toLower

@[simp] theorem eqIgnoringCase_refl (a : String) : eqIgnoringCase a a = true := by
  simp [eqIgnoringCase]

theorem eqIgnoringCase_comm (a b : String) : eqIgnoringCase a b = eqIgnoringCase b a := by
  simp only [eqIgnoringCase, Bool.beq_comm]

theorem eqIgnoringCase_trans {a b c : String} (hab : eqIgnoringCase a b = true)
    (hbc : eqIgnoringCase b c = true) : eqIgnoringCase a c = true := by
  simp only [eqIgnoringCase, beq_iff_eq] at *
  exact hab.trans hbc

end EntitySql.Text
