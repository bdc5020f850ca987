import EntitySql.Proofs.Text.IdentifierTokens
import EntitySql.Proofs.Text.IgnoringCase

/-!
# Names and their texts

A name stands bare in a statement if it is a word of ASCII letters, digits and underscores that
starts with no digit and is not reserved. Any other name, the empty one too, stands between quotes,
and the quotes take nothing from it: up to the last character of the text they stand for the name
(`Dialect.identifier_names`). So two names never have the same text.

**Reserved words.** A word is reserved in any case of its letters
(`isReservedWord_eq_true_iff`). The list is in the order of its words, so the search that halves it
again and again finds exactly the words of the list (`isReservedWord_eq_halvingFinds`).
-/

namespace EntitySql

set_option autoImplicit false

/-! ## Reserved words -/

/-- Looks for a word in a list that is in order. The list is halved at its middle word until one
word is left. -/
def halvingFinds (word : String) (words : List String) : Bool :=
  if h : words.length ≤ 1 then words.contains word
  else if word < words[words.length / 2] then
    halvingFinds word (words.take (words.length - words.length / 2))
  else halvingFinds word (words.drop (words.length / 2))
termination_by words.length
decreasing_by
  · rw [List.length_take]
    omega
  · rw [List.length_drop]
    omega

/-- In a list that is in order the words before a place are smaller than the one there, and the
words behind it are greater. -/
theorem lt_getElem_iff_of_mem {words : List String} (ordered : words.Pairwise (· < ·)) {n : Nat}
    (inside : n < words.length) :
    (∀ w ∈ words.take n, w < words[n]) ∧ ∀ w ∈ words.drop n, ¬w < words[n] := by
  rw [← List.take_append_drop n words, List.pairwise_append] at ordered
  obtain ⟨-, above, across⟩ := ordered
  rw [List.drop_eq_getElem_cons inside] at above across ⊢
  refine ⟨fun w before => across w before _ List.mem_cons_self, fun w behind less => ?_⟩
  rcases List.mem_cons.1 behind with rfl | behind
  · exact String.lt_irrefl _ less
  · exact String.lt_irrefl _ (String.lt_trans less (List.rel_of_pairwise_cons above behind))

/-- **Halving finds exactly the words of the list,** which has to be in order. -/
theorem halvingFinds_iff {word : String} {words : List String}
    (ordered : words.Pairwise (· < ·)) : halvingFinds word words = true ↔ word ∈ words := by
  fun_induction halvingFinds word words with
  | case1 words short => exact List.contains_iff_mem
  | case2 words long less ih =>
    rw [ih (ordered.sublist (List.take_sublist _ _))]
    refine ⟨List.mem_of_mem_take, fun member => ?_⟩
    obtain ⟨-, behind⟩ := lt_getElem_iff_of_mem ordered (n := words.length / 2) (by omega)
    rw [← List.take_append_drop (words.length / 2) words, List.mem_append] at member
    rcases member with before | after
    · exact (List.take_subset_take_left words (by omega)) before
    · exact absurd less (behind word after)
  | case3 words long less ih =>
    rw [ih (ordered.sublist (List.drop_sublist _ _))]
    refine ⟨List.mem_of_mem_drop, fun member => ?_⟩
    obtain ⟨before, -⟩ := lt_getElem_iff_of_mem ordered (n := words.length / 2) (by omega)
    rw [← List.take_append_drop (words.length / 2) words, List.mem_append] at member
    rcases member with first | after
    · exact absurd (before word first) less
    · exact after

/-- The reserved words are listed in order. -/
theorem pairwise_reservedWords : reservedWords.Pairwise (· < ·) := by
  have : Trans (α := String) (· < ·) (· < ·) (· < ·) := ⟨String.lt_trans⟩
  rw [← List.isChain_iff_pairwise]
  decide +kernel

/-- **A word is reserved exactly when the halving search finds its upper case.** -/
theorem isReservedWord_eq_halvingFinds (s : String) :
    isReservedWord s = halvingFinds (Text.upperAscii s) reservedWords := by
  rw [Bool.eq_iff_iff, halvingFinds_iff pairwise_reservedWords, isReservedWord,
    List.contains_iff_mem]

/-- The reserved words are listed in upper case. -/
theorem upperAscii_of_mem_reservedWords :
    ∀ w ∈ reservedWords, Text.upperAscii w = w := by
  decide +kernel

/-- **A word is reserved when it is in the list up to the case of its letters.** -/
theorem isReservedWord_eq_true_iff {s : String} :
    isReservedWord s = true ↔ ∃ w ∈ reservedWords, Text.eqIgnoringCase s w = true := by
  rw [isReservedWord, List.contains_iff_mem]
  constructor
  · intro listed
    refine ⟨_, listed, ?_⟩
    rw [eqIgnoringCase_iff, Text.lowerAscii_upperAscii]
  · rintro ⟨w, listed, same⟩
    rw [← Text.upperAscii_lowerAscii, eqIgnoringCase_iff.1 same, Text.upperAscii_lowerAscii,
      upperAscii_of_mem_reservedWords w listed]
    exact listed

/-! ## Bare names -/

/-- A name that may stand without quotes. -/
structure StandsBare (s : String) : Prop where
  nonempty : s ≠ ""
  word : ∀ c ∈ s.toList, c.isAlphanum = true ∨ c = '_'
  noNumber : ∀ c, s.toList.head? = some c → c.isDigit = false
  unreserved : ∀ w ∈ reservedWords, Text.eqIgnoringCase s w = false

/-- A word starts with what is allowed inside it, digits apart. -/
theorem isAlpha_or_underscore_iff {c : Char} : c.isAlpha = true ∨ c = '_' ↔
    (c.isAlphanum = true ∨ c = '_') ∧ c.isDigit = false := by
  rw [Char.isAlphanum, Bool.or_eq_true]
  constructor
  · rintro (letter | rfl)
    · exact ⟨.inl (.inl letter), isDigit_of_isAlpha letter⟩
    · exact ⟨.inr rfl, rfl⟩
  · rintro ⟨(letter | digit) | underscore, noDigit⟩
    · exact .inl letter
    · exact absurd (noDigit.symm.trans digit) Bool.false_ne_true
    · exact .inr underscore

/-- A plain identifier is a word that starts with no digit. -/
theorem isPlainIdentifier_eq_true_iff {s : String} :
    isPlainIdentifier s = true ↔ s ≠ "" ∧ (∀ c ∈ s.toList, c.isAlphanum = true ∨ c = '_') ∧
      ∀ c, s.toList.head? = some c → c.isDigit = false := by
  rw [isPlainIdentifier, ne_eq, ← String.toList_eq_nil_iff]
  cases s.toList with
  | nil => simp
  | cons c rest =>
    simp only [Bool.and_eq_true, isAlpha_or_underscore_iff, List.all_eq_true, Bool.or_eq_true,
      beq_iff_eq, List.forall_mem_cons, List.head?_cons, Option.some.injEq, forall_eq']
    constructor
    · rintro ⟨⟨first, noDigit⟩, others⟩
      exact ⟨List.cons_ne_nil c rest, ⟨first, others⟩, noDigit⟩
    · rintro ⟨-, ⟨first, others⟩, noDigit⟩
      exact ⟨⟨first, noDigit⟩, others⟩

theorem needsQuoting_eq_false_iff_standsBare {s : String} :
    needsQuoting s = false ↔ StandsBare s := by
  rw [needsQuoting, Bool.or_eq_false_iff, Bool.not_eq_false', isPlainIdentifier_eq_true_iff,
    ← Bool.not_eq_true, isReservedWord_eq_true_iff]
  constructor
  · rintro ⟨⟨nonempty, word, noNumber⟩, unlisted⟩
    exact ⟨nonempty, word, noNumber, fun w listed =>
      Bool.eq_false_iff.2 fun same => unlisted ⟨w, listed, same⟩⟩
  · intro bare
    refine ⟨⟨bare.nonempty, bare.word, bare.noNumber⟩, ?_⟩
    rintro ⟨w, listed, same⟩
    exact Bool.false_ne_true ((bare.unreserved w listed).symm.trans same)

/-! ## What is written for a name -/

namespace Dialect

/-- A name is written as it is where it needs no quotes, and only there. -/
theorem identifier_eq_self_iff (d : Dialect) (s : String) :
    d.identifier s = s ↔ needsQuoting s = false := by
  constructor
  · intro same
    by_contra quoted
    rw [Bool.not_eq_false] at quoted
    rw [identifier, if_pos quoted] at same
    have longer := d.length_lt_quotedIdentifier s
    rw [same] at longer
    exact Nat.lt_irrefl _ longer
  · intro bare
    rw [identifier, if_neg (Bool.eq_false_iff.1 bare)]

/-- A quoted name stands between its quotes up to the end of its text. -/
theorem readQuoted_quotedIdentifier (d : Dialect) (s : String) : ∃ inside,
    (d.quotedIdentifier s).toList = d.identifierQuotes.1 :: inside ∧
      ∀ rest : List Char, rest.head? ≠ some d.identifierQuotes.2 →
        readQuoted d.identifierQuotes.2 false (inside ++ rest) = some (s.toList, rest) := by
  refine ⟨_, d.toList_quotedIdentifier s, fun rest last => ?_⟩
  rw [List.append_assoc]
  exact d.readQuoted_doubling s last

/-- Two names never have the same text. -/
theorem identifier_injective (d : Dialect) {a b : String}
    (same : d.identifier a = d.identifier b) : a = b := by
  have read : ∀ name, d.readIdentifier? ((d.identifier name).toList ++ []) = some (name, []) :=
    fun name => d.readIdentifier_identifier name rfl
  have both := read a
  rw [same, read b] at both
  exact (Prod.mk.inj (Option.some.inj both)).1.symm

/-- **The text of a name tells the name.** It is the name itself exactly where the name may stand
bare. Everywhere else it is one token between the quotes of the dialect that stands for the name and
ends with the text, also before anything but another closing quote. Different names have different
texts. -/
theorem identifier_names (d : Dialect) (s : String) :
    (d.identifier s = s ↔ StandsBare s) ∧
      (d.identifier s ≠ s → ∃ inside, (d.identifier s).toList = d.identifierQuotes.1 :: inside ∧
        readQuoted d.identifierQuotes.2 false inside = some (s.toList, []) ∧
        ∀ rest : List Char, rest.head? ≠ some d.identifierQuotes.2 →
          readQuoted d.identifierQuotes.2 false (inside ++ rest) = some (s.toList, rest)) ∧
      ∀ t, d.identifier t = d.identifier s → t = s := by
  refine ⟨?_, fun quoted => ?_, fun t same => d.identifier_injective same⟩
  · rw [identifier_eq_self_iff, needsQuoting_eq_false_iff_standsBare]
  · have quotes : needsQuoting s = true := by
      rwa [ne_eq, identifier_eq_self_iff, Bool.not_eq_false] at quoted
    obtain ⟨inside, text, read⟩ := d.readQuoted_quotedIdentifier s
    have alone := read [] nofun
    rw [List.append_nil] at alone
    exact ⟨inside, by rw [identifier, if_pos quotes, text], alone, read⟩

/-- A bracket that closes is doubled, and one that opens is not. -/
example : Dialect.sqlServer.identifier "a[b]" = "[a[b]]]" := by decide

end Dialect

end EntitySql
