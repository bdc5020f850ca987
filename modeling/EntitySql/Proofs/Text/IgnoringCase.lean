import Mathlib
import EntitySql.Proofs.Schema.Names
import EntitySql.Proofs.Text.Identifiers

/-!
# Identifiers without regard to case

Whether a name needs quotes does not depend on the case of its ASCII letters, and quotes are no
letters. So the identifier of a name in lower case is the identifier in lower case
(`Dialect.identifier_lowerAscii`), and identifiers agree without regard to case exactly when their
names do (`Dialect.eqIgnoringCase_identifier`).
-/

namespace EntitySql

set_option autoImplicit false

namespace Text

theorem toList_lowerAscii (s : String) : (lowerAscii s).toList = s.toList.map Char.toLower :=
  String.toList_ofList

theorem upperAscii_lowerAscii (s : String) : upperAscii (lowerAscii s) = upperAscii s := by
  rw [upperAscii, upperAscii, toList_lowerAscii, List.map_map]
  exact congrArg String.ofList (List.map_congr_left fun c _ => c.toUpper_toLower_eq_toUpper)

theorem lowerAscii_upperAscii (s : String) : lowerAscii (upperAscii s) = lowerAscii s := by
  rw [← String.toList_inj, toList_lowerAscii, toList_lowerAscii, upperAscii, String.toList_ofList,
    List.map_map]
  exact List.map_congr_left fun c _ => c.toLower_toUpper_eq_toLower

/-- What stands before two texts does not matter to their comparison. -/
theorem eqIgnoringCase_append_left (p a b : String) :
    eqIgnoringCase (p ++ a) (p ++ b) = eqIgnoringCase a b := by
  rw [Bool.eq_iff_iff, eqIgnoringCase, eqIgnoringCase, beq_iff_eq, beq_iff_eq, String.toList_append,
    String.toList_append, List.map_append, List.map_append, List.append_cancel_left_eq]

end Text

theorem isUpper_of_isAlpha_eq_false {c : Char} (h : c.isAlpha = false) : c.isUpper = false :=
  (Bool.or_eq_false_iff.1 h).1

/-- Only letters have a case. -/
theorem toLower_of_isAlpha_eq_false {c : Char} (h : c.isAlpha = false) : c.toLower = c :=
  Char.toLower_eq_of_not_isUpper (by rw [isUpper_of_isAlpha_eq_false h]; exact Bool.false_ne_true)

theorem toLower_eq_iff {c q : Char} (noLetter : q.isAlpha = false) : c.toLower = q ↔ c = q := by
  constructor
  · intro lower
    have letter : c.isAlpha = false := by rw [← Char.isAlpha_toLower_eq_isAlpha, lower, noLetter]
    rw [← lower, toLower_of_isAlpha_eq_false letter]
  · rintro rfl
    exact toLower_of_isAlpha_eq_false noLetter

theorem isDigit_toLower (c : Char) : c.toLower.isDigit = c.isDigit := by
  cases letter : c.isAlpha with
  | true =>
    rw [isDigit_of_isAlpha letter, isDigit_of_isAlpha (c.isAlpha_toLower_eq_isAlpha.trans letter)]
  | false => rw [toLower_of_isAlpha_eq_false letter]

/-! ## Names -/

theorem isPlainIdentifier_lowerAscii (s : String) :
    isPlainIdentifier (Text.lowerAscii s) = isPlainIdentifier s := by
  have underscore : ∀ c : Char, (c.toLower == '_') = (c == '_') := fun c => by
    rw [Bool.eq_iff_iff, beq_iff_eq, beq_iff_eq, toLower_eq_iff (by decide)]
  have alphanumeric : ∀ c : Char, c.toLower.isAlphanum = c.isAlphanum := fun c => by
    rw [Char.isAlphanum, Char.isAlphanum, c.isAlpha_toLower_eq_isAlpha, isDigit_toLower]
  rw [isPlainIdentifier, isPlainIdentifier, Text.toList_lowerAscii]
  cases s.toList with
  | nil => rfl
  | cons c rest =>
    rw [List.map_cons]
    simp only [List.all_map, Function.comp_def, alphanumeric, underscore,
      c.isAlpha_toLower_eq_isAlpha]

theorem needsQuoting_lowerAscii (s : String) :
    needsQuoting (Text.lowerAscii s) = needsQuoting s := by
  rw [needsQuoting, needsQuoting, isPlainIdentifier_lowerAscii, isReservedWord, isReservedWord,
    Text.upperAscii_lowerAscii]

/-- A character that is no letter is doubled before or after the case is changed. -/
theorem doubling_map_toLower {q : Char} (noLetter : q.isAlpha = false) (cs : List Char) :
    doubling q (cs.map Char.toLower) = (doubling q cs).map Char.toLower := by
  induction cs with
  | nil => rfl
  | cons c cs ih =>
    rw [List.map_cons, doubling_cons, doubling_cons, List.map_append, ih]
    by_cases same : c = q
    · rw [if_pos ((toLower_eq_iff noLetter).2 same), if_pos same, List.map_cons, List.map_cons,
        toLower_of_isAlpha_eq_false noLetter, List.map_nil]
    · rw [if_neg fun lower => same ((toLower_eq_iff noLetter).1 lower), if_neg same, List.map_cons,
        List.map_nil]

namespace Dialect

variable (d : Dialect)

theorem isAlpha_identifierQuotes :
    d.identifierQuotes.1.isAlpha = false ∧ d.identifierQuotes.2.isAlpha = false := by
  cases d <;> decide

/-- **The identifier of a name in lower case** is the identifier in lower case. -/
theorem identifier_lowerAscii (s : String) :
    d.identifier (Text.lowerAscii s) = Text.lowerAscii (d.identifier s) := by
  rw [identifier, identifier, needsQuoting_lowerAscii]
  split
  · obtain ⟨opening, closing⟩ := d.isAlpha_identifierQuotes
    rw [← String.toList_inj, Text.toList_lowerAscii, toList_quotedIdentifier,
      toList_quotedIdentifier, Text.toList_lowerAscii, doubling_map_toLower closing, List.map_cons,
      List.map_append, List.map_cons, List.map_nil, toLower_of_isAlpha_eq_false opening,
      toLower_of_isAlpha_eq_false closing]
  · rfl

/-- **Identifiers agree without regard to case** exactly when their names do. -/
theorem eqIgnoringCase_identifier (a b : String) :
    Text.eqIgnoringCase (d.identifier a) (d.identifier b) = Text.eqIgnoringCase a b := by
  rw [Bool.eq_iff_iff, eqIgnoringCase_iff, eqIgnoringCase_iff, ← identifier_lowerAscii,
    ← identifier_lowerAscii]
  constructor
  · intro same
    have equation := congrArg (· ++ (" = " ++ "")) same
    exact (identifier_inj equation).1
  · exact congrArg d.identifier

end Dialect

end EntitySql
