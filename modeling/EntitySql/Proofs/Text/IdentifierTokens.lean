import EntitySql.Proofs.Text.StringTokens

/-!
# What an identifier stands for

A reader of a statement takes an identifier as one token. Between the quotes of the dialect it goes
on to the first closing quote that no other one follows. Without quotes it goes on to the first
character that is none of a word; it is a name if it is plain and not reserved.

Names are written between separators, which neither go on in a word nor quote anything. Before a
separator a name is read back from its identifier, with nothing of what follows
(`Dialect.readIdentifier_identifier`). A name that is written as it is reads back exactly when it
needs no quotes (`Dialect.readIdentifier_bare_iff`).
-/

namespace EntitySql

set_option autoImplicit false

/-- A character that goes on in a word: those of names, three signs, and all beyond ASCII. -/
def isIdentifierChar (c : Char) : Bool :=
  isNameChar c || c == '$' || c == '#' || c == '@' || decide (128 ≤ c.toNat)

/-- A character that stands between names in a statement. -/
def isSeparator (c : Char) : Bool := [' ', ',', '.', '(', ')', '~'].contains c

/-- Nothing stands there, or a separator first. -/
def opensApart (cs : List Char) : Bool := cs.head?.all isSeparator

/-- Nothing stands there, or a separator last. -/
def closesApart (cs : List Char) : Bool := cs.getLast?.all isSeparator

/-- What needs no quotes is a plain identifier and no reserved word. -/
theorem needsQuoting_eq_false_iff {name : String} :
    needsQuoting name = false ↔ (isPlainIdentifier name && !isReservedWord name) = true := by
  cases plain : isPlainIdentifier name <;> cases reserved : isReservedWord name <;>
    simp [needsQuoting, plain, reserved]

theorem isIdentifierChar_of_isNameChar {c : Char} (h : isNameChar c = true) :
    isIdentifierChar c = true := by
  simp [isIdentifierChar, h]

/-- Separators are no characters of words. -/
theorem isIdentifierChar_of_isSeparator {c : Char} (h : isSeparator c = true) :
    isIdentifierChar c = false := by
  simp only [isSeparator, List.contains_iff_mem, List.mem_cons, List.not_mem_nil, or_false] at h
  rcases h with rfl | rfl | rfl | rfl | rfl | rfl <;> decide

theorem head_ne_of_opensApart {cs : List Char} {c : Char} (h : opensApart cs = true)
    (other : isSeparator c = false) : cs.head? ≠ some c := by
  intro first
  rw [opensApart, first, Option.all_some, other] at h
  cases h

namespace Dialect

variable {d : Dialect} {rest : List Char}

/-- Reads the identifier that a text starts with: the name, and what comes after. -/
def readIdentifier? (d : Dialect) : List Char → Option (String × List Char)
  | [] => none
  | c :: inside =>
    if c = d.identifierQuotes.1 then
      (readQuoted d.identifierQuotes.2 false inside).map fun read =>
        (String.ofList read.1, read.2)
    else
      let word := String.ofList ((c :: inside).takeWhile isIdentifierChar)
      if isPlainIdentifier word && !isReservedWord word then
        some (word, (c :: inside).dropWhile isIdentifierChar)
      else none

/-- What stands between the quotes of a name is read as the name, before anything but another
closing quote. -/
theorem readQuoted_doubling (d : Dialect) (name : String)
    (last : rest.head? ≠ some d.identifierQuotes.2) :
    readQuoted d.identifierQuotes.2 false
        (doubling d.identifierQuotes.2 name.toList ++ d.identifierQuotes.2 :: rest) =
      some (name.toList, rest) := by
  have slash : d.identifierQuotes.2 ≠ '\\' := by cases d <;> decide
  rw [doubling_eq_spelled]
  exact readQuoted_spelled false slash last name.toList

/-- A quoted name is read back. -/
theorem readIdentifier_quotedIdentifier (d : Dialect) (name : String)
    (apart : opensApart rest = true) :
    d.readIdentifier? ((d.quotedIdentifier name).toList ++ rest) = some (name, rest) := by
  have quote : isSeparator d.identifierQuotes.2 = false := by cases d <;> decide
  have inside := d.readQuoted_doubling name (head_ne_of_opensApart apart quote)
  simp [toList_quotedIdentifier, readIdentifier?, inside]

/-- A plain name that is not reserved is read back. -/
theorem readIdentifier_bare (d : Dialect) {name : String} (bare : needsQuoting name = false)
    (apart : opensApart rest = true) :
    d.readIdentifier? (name.toList ++ rest) = some (name, rest) := by
  have inside : ∀ c ∈ name.toList, isIdentifierChar c = true := fun c member =>
    isIdentifierChar_of_isNameChar (consists_bare (Bool.eq_false_iff.1 bare) c member)
  have stop : rest.takeWhile isIdentifierChar = [] ∧ rest.dropWhile isIdentifierChar = rest := by
    cases rest with
    | nil => exact ⟨rfl, rfl⟩
    | cons c rest =>
      have separator : isSeparator c = true := by simpa [opensApart] using apart
      simp [isIdentifierChar_of_isSeparator separator]
  have taken : (name.toList ++ rest).takeWhile isIdentifierChar = name.toList := by
    rw [List.takeWhile_append_of_pos inside, stop.1, List.append_nil]
  have dropped : (name.toList ++ rest).dropWhile isIdentifierChar = rest := by
    rw [List.dropWhile_append_of_pos inside, stop.2]
  cases chars : name.toList with
  | nil => simp [needsQuoting, isPlainIdentifier, chars] at bare
  | cons c cs =>
    have word : isNameChar c = true :=
      consists_bare (Bool.eq_false_iff.1 bare) c (by rw [chars]; exact List.mem_cons_self)
    have outside : c ≠ d.identifierQuotes.1 := by
      rintro rfl
      rw [d.identifierQuotes_clear.1] at word
      cases word
    rw [chars, List.cons_append] at taken dropped
    rw [List.cons_append, readIdentifier?, if_neg outside, taken, dropped, ← chars,
      String.ofList_toList, if_pos (needsQuoting_eq_false_iff.1 bare)]

/-- **A name is read back from its identifier,** before a separator or at the end. -/
theorem readIdentifier_identifier (d : Dialect) (name : String) (apart : opensApart rest = true) :
    d.readIdentifier? ((d.identifier name).toList ++ rest) = some (name, rest) := by
  unfold identifier
  split
  · exact d.readIdentifier_quotedIdentifier name apart
  · rename_i bare
    exact d.readIdentifier_bare (Bool.eq_false_iff.2 bare) apart

/-- **What is read between quotes is what is written for it,** its closing quote and the rest. -/
theorem readQuoted_eq_some {closing : Char} : ∀ {cs : List Char} {read : List Char × List Char},
    readQuoted closing false cs = some read → cs = doubling closing read.1 ++ closing :: read.2
  | [], _, h => by cases h
  | [c], read, h => by
    simp only [readQuoted] at h
    split at h
    · rename_i last
      cases h
      simp [doubling, last]
    · cases h
  | c :: e :: cs, read, h => by
    simp only [readQuoted] at h
    split at h
    · rename_i first
      split at h
      · rename_i second
        obtain ⟨inner, found, rfl⟩ := Option.map_eq_some_iff.1 h
        have inside := readQuoted_eq_some found
        simp only [readBefore, doubling, List.flatMap_append] at inside ⊢
        rw [inside, first, second]
        simp
      · cases h
        simp [doubling, first]
    · rename_i other
      rw [Bool.false_and, if_neg Bool.false_ne_true] at h
      obtain ⟨inner, found, rfl⟩ := Option.map_eq_some_iff.1 h
      have inside := readQuoted_eq_some found
      simp only [readBefore, doubling, List.flatMap_append] at inside ⊢
      rw [inside]
      simp [other]

/-- **What is read as a name is its identifier in quotes,** or the name itself where it needs
none. -/
theorem readIdentifier_eq_some {name : String} {cs : List Char}
    (read : d.readIdentifier? cs = some (name, rest)) :
    cs = (d.quotedIdentifier name).toList ++ rest ∨
      needsQuoting name = false ∧ cs = name.toList ++ rest := by
  cases cs with
  | nil => cases read
  | cons c inside =>
    rw [readIdentifier?] at read
    split at read
    · rename_i quote
      obtain ⟨found, quoted, same⟩ := Option.map_eq_some_iff.1 read
      obtain ⟨rfl, rfl⟩ := Prod.mk.inj same
      left
      rw [readQuoted_eq_some quoted, toList_quotedIdentifier, String.toList_ofList, quote]
      simp
    · simp only at read
      split at read
      · rename_i bare
        obtain ⟨rfl, rfl⟩ := Prod.mk.inj (Option.some.inj read)
        exact .inr ⟨needsQuoting_eq_false_iff.2 bare, by
          rw [String.toList_ofList, List.takeWhile_append_dropWhile]⟩
      · cases read

theorem length_le_doubling (quote : Char) (cs : List Char) :
    cs.length ≤ (doubling quote cs).length := by
  induction cs with
  | nil => exact Nat.le_refl _
  | cons c cs ih =>
    rw [doubling, List.flatMap_cons, List.length_append, List.length_cons, ← doubling]
    split <;> simp only [List.length_cons, List.length_nil] <;> omega

/-- Quotes make a name longer. -/
theorem length_lt_quotedIdentifier (d : Dialect) (name : String) :
    name.toList.length < (d.quotedIdentifier name).toList.length := by
  have written := length_le_doubling d.identifierQuotes.2 name.toList
  rw [toList_quotedIdentifier, List.length_cons, List.length_append, List.length_singleton]
  omega

/-- **A name written as it is reads back exactly when it needs no quotes.** -/
theorem readIdentifier_bare_iff (d : Dialect) {name : String}
    (apart : needsQuoting name = false → opensApart rest = true) :
    d.readIdentifier? (name.toList ++ rest) = some (name, rest) ↔ needsQuoting name = false := by
  refine ⟨fun read => ?_, fun bare => d.readIdentifier_bare bare (apart bare)⟩
  rcases readIdentifier_eq_some read with quoted | ⟨bare, -⟩
  · have longer := d.length_lt_quotedIdentifier name
    rw [List.append_cancel_right quoted] at longer
    exact absurd longer (Nat.lt_irrefl _)
  · exact bare

end Dialect

end EntitySql
