import EntitySql.Field.Primitive
import EntitySql.Proofs.Number.Digits

/-!
# Which texts are integers

A text is an integer of a kind if it is digits after one sign at most and their number is in the
range of the kind. Reading accepts these texts, of any length and with any number of zeros in front,
and gives their number. It accepts two texts more, a sign alone, which counts as zero
(`Primitive.parse_int_accepts`).

From the start of a longer text the digits are taken up to what follows them
(`FixedInt.read?_eq_some_iff`), so the same parts of a text are accepted there.
-/

namespace EntitySql

set_option autoImplicit false

/-- Digits and what stops them. -/
theorem exists_digits (cs : List Char) :
    ∃ ds rest, cs = ds ++ rest ∧ AreDigits ds ∧ StopsDigits rest := by
  refine ⟨cs.takeWhile Char.isDigit, cs.dropWhile Char.isDigit,
    List.takeWhile_append_dropWhile.symm,
    fun d member => List.all_eq_true.1 List.all_takeWhile d member, fun c first => ?_⟩
  have outside := List.head?_dropWhile_not Char.isDigit cs
  rw [Option.mem_def.1 first] at outside
  exact outside

/-- A sign alone is taken for zero, and everything else that is taken is a numeral. -/
theorem takenFor_iff {cs : List Char} {n : Int} :
    TakenFor cs n ↔ Numeral cs n ∨ (cs = ['+'] ∨ cs = ['-']) ∧ n = 0 := by
  constructor
  · rintro (⟨digits, nonempty⟩ | @⟨ds, digits⟩ | @⟨ds, digits⟩)
    · exact .inl (.unsigned digits nonempty)
    · by_cases none : ds = []
      · subst none
        exact .inr ⟨.inl rfl, rfl⟩
      · exact .inl (.positive digits none)
    · by_cases none : ds = []
      · subst none
        exact .inr ⟨.inr rfl, rfl⟩
      · exact .inl (.negative digits none)
  · have none : AreDigits [] := nofun
    rintro (written | ⟨rfl | rfl, rfl⟩)
    · exact written.takenFor
    · exact .positive none
    · exact .negative none

namespace TakenFor

variable {cs : List Char} {n : Int}

theorem ne_nil (number : TakenFor cs n) : cs ≠ [] := by
  cases number with
  | unsigned _ nonempty => exact nonempty
  | positive => exact List.cons_ne_nil _ _
  | negative => exact List.cons_ne_nil _ _

theorem isDigit_or_sign (number : TakenFor cs n) :
    ∀ c ∈ cs, c.isDigit = true ∨ c = '+' ∨ c = '-' := by
  cases number with
  | unsigned digits _ => exact fun c member => .inl (digits c member)
  | positive digits =>
    exact List.forall_mem_cons.2 ⟨.inr (.inl rfl), fun c member => .inl (digits c member)⟩
  | negative digits =>
    exact List.forall_mem_cons.2 ⟨.inr (.inr rfl), fun c member => .inl (digits c member)⟩

end TakenFor

/-- A text starts with something that is taken for an integer, or with neither a sign nor a
digit. -/
theorem exists_taken (cs : List Char) :
    (∃ taken rest n, cs = taken ++ rest ∧ StopsDigits rest ∧ TakenFor taken n) ∨
      StopsDigits cs ∧ splitSign cs = (false, cs) := by
  have behind : ∀ (sign : Char) (cs : List Char), sign = '+' ∨ sign = '-' →
      ∃ taken rest n, sign :: cs = taken ++ rest ∧ StopsDigits rest ∧ TakenFor taken n := by
    intro sign cs signed
    obtain ⟨ds, rest, rfl, digits, stops⟩ := exists_digits cs
    rcases signed with rfl | rfl
    · exact ⟨_, rest, _, rfl, stops, .positive digits⟩
    · exact ⟨_, rest, _, rfl, stops, .negative digits⟩
  rw [splitSign.eq_def]
  split
  · exact .inl (behind '-' _ (.inr rfl))
  · exact .inl (behind '+' _ (.inl rfl))
  · obtain ⟨ds, rest, same, digits, stops⟩ := exists_digits cs
    by_cases none : ds = []
    · rw [none, List.nil_append] at same
      exact .inr ⟨same ▸ stops, rfl⟩
    · exact .inl ⟨ds, rest, _, same, stops, .unsigned digits none⟩

namespace FixedInt

variable {k : IntKind} {cs rest : List Char} {n : FixedInt k}

/-- What starts neither with a sign nor with a digit is no integer. -/
theorem read?_eq_none (stops : StopsDigits cs) (unsigned : splitSign cs = (false, cs)) :
    read? k cs = none := by
  have noDigits : AreDigits [] := nofun
  have none := readNat_append noDigits cs stops 0 0
  rw [List.nil_append] at none
  simp [read?, unsigned, none]

/-- **Reading takes digits after one sign at most,** as far as they go, and their number must be in
range. -/
theorem read?_eq_some_iff : read? k cs = some (n, rest) ↔
    ∃ taken, cs = taken ++ rest ∧ StopsDigits rest ∧ TakenFor taken n.val := by
  constructor
  · intro found
    rcases exists_taken cs with ⟨taken, others, m, rfl, stops, number⟩ | ⟨stops, unsigned⟩
    · rw [read?_of_takenFor number stops] at found
      obtain ⟨n', value, pair⟩ := Option.map_eq_some_iff.1 found
      cases pair
      exact ⟨taken, rfl, stops, ofInt?_eq_some_iff.1 value ▸ number⟩
    · rw [read?_eq_none stops unsigned] at found
      cases found
  · rintro ⟨taken, rfl, stops, number⟩
    rw [read?_of_takenFor number stops, ofInt?_val]
    rfl

/-- A whole text is read when all of it is taken. -/
theorem read?_eq_some_nil_iff : read? k cs = some (n, []) ↔ TakenFor cs n.val := by
  rw [read?_eq_some_iff]
  constructor
  · rintro ⟨taken, rfl, -, number⟩
    rwa [List.append_nil]
  · exact fun number => ⟨cs, (List.append_nil cs).symm, nofun, number⟩

end FixedInt

namespace Primitive

variable {k : IntKind} {s : String}

theorem parse_int_eq_ok_iff {n : FixedInt k} :
    (int k).parse s = .ok n ↔ TakenFor s.toList n.val := by
  rw [← FixedInt.read?_eq_some_nil_iff, parse,
    if_neg (show ¬(int k).cuts s.toList = true from nofun)]
  simp only [readWhole, scan]
  rcases FixedInt.read? k s.toList with _ | ⟨m, _ | ⟨c, rest⟩⟩ <;> simp

/-- Every failure names the text and the kind. -/
theorem parse_int_eq_error {e : Error} (failed : (int k).parse s = .error e) :
    e = .ofText s (int k).name := by
  rw [parse, if_neg (show ¬(int k).cuts s.toList = true from nofun)] at failed
  split at failed
  · cases failed
  · exact (Except.error.inj failed).symm

/-- A text is no integer for lack of a number in the range. -/
theorem exists_parse_int_iff :
    (∃ n, (int k).parse s = .ok n) ↔ ∃ m, TakenFor s.toList m ∧ k.min ≤ m ∧ m ≤ k.max := by
  constructor
  · rintro ⟨n, read⟩
    exact ⟨n.val, parse_int_eq_ok_iff.1 read, n.min_le, n.le_max⟩
  · rintro ⟨m, number, inRange⟩
    exact ⟨⟨m, inRange.1, inRange.2⟩, parse_int_eq_ok_iff.2 number⟩

theorem parse_int_eq_error_iff {e : Error} :
    (int k).parse s = .error e ↔
      e = .ofText s (int k).name ∧ ∀ m, TakenFor s.toList m → ¬(k.min ≤ m ∧ m ≤ k.max) := by
  have refused : (∀ m, TakenFor s.toList m → ¬(k.min ≤ m ∧ m ≤ k.max)) ↔
      ¬∃ n, (int k).parse s = .ok n := by
    rw [exists_parse_int_iff]
    exact ⟨fun refused ⟨m, number, inRange⟩ => refused m number inRange,
      fun nothing m number inRange => nothing ⟨m, number, inRange⟩⟩
  rw [refused]
  constructor
  · intro failed
    refine ⟨parse_int_eq_error failed, ?_⟩
    rintro ⟨n, read⟩
    rw [failed] at read
    cases read
  · rintro ⟨rfl, nothing⟩
    cases outcome : (int k).parse s with
    | ok n => exact absurd ⟨n, outcome⟩ nothing
    | error e => rw [parse_int_eq_error outcome]

/-- **A text is read as an integer of a kind exactly when it is digits after one sign at most, with
a number in the range of the kind,** or a sign alone, which is read as zero. The result is the
number; every other text is refused, and the failure names the text and the kind. So neither the
empty text is read nor one with a character that is neither digit nor sign. -/
theorem parse_int_accepts (k : IntKind) (s : String) :
    (∀ n : FixedInt k, (int k).parse s = .ok n ↔
        Numeral s.toList n.val ∨ (s = "+" ∨ s = "-") ∧ n.val = 0) ∧
      (∀ e, (int k).parse s = .error e ↔ e = .ofText s (int k).name ∧ s ≠ "+" ∧ s ≠ "-" ∧
        ∀ m, Numeral s.toList m → ¬(k.min ≤ m ∧ m ≤ k.max)) ∧
      ((s = "" ∨ ∃ c ∈ s.toList, c.isDigit = false ∧ c ≠ '+' ∧ c ≠ '-') →
        (int k).parse s = .error (.ofText s (int k).name)) := by
  have alone : ∀ c : Char, s.toList = [c] ↔ s = String.singleton c := fun c => by
    rw [← String.toList_inj, String.toList_singleton]
  have taken : ∀ m, TakenFor s.toList m ↔
      Numeral s.toList m ∨ (s = "+" ∨ s = "-") ∧ m = 0 := fun m => by
    rw [takenFor_iff, alone, alone]
    rfl
  have zero : k.min ≤ 0 ∧ 0 ≤ k.max := by cases k <;> decide
  refine ⟨fun n => parse_int_eq_ok_iff.trans (taken n.val), fun e => ?_, fun foreign => ?_⟩
  · rw [parse_int_eq_error_iff]
    refine and_congr_right fun _ => ⟨fun refused => ⟨?_, ?_, ?_⟩, ?_⟩
    · exact fun plus => refused 0 ((taken 0).2 (.inr ⟨.inl plus, rfl⟩)) zero
    · exact fun minus => refused 0 ((taken 0).2 (.inr ⟨.inr minus, rfl⟩)) zero
    · exact fun m written => refused m ((taken m).2 (.inl written))
    · rintro ⟨noPlus, noMinus, refused⟩ m number
      rcases (taken m).1 number with written | ⟨plus | minus, -⟩
      · exact refused m written
      · exact absurd plus noPlus
      · exact absurd minus noMinus
  · refine parse_int_eq_error_iff.2 ⟨rfl, fun m number => ?_⟩
    rcases foreign with rfl | ⟨c, member, noDigit, noPlus, noMinus⟩
    · exact absurd rfl number.ne_nil
    · rcases number.isDigit_or_sign c member with digit | plus | minus
      · exact absurd (noDigit.symm.trans digit) Bool.false_ne_true
      · exact absurd plus noPlus
      · exact absurd minus noMinus

/-- A sign alone is read as zero, though it writes no number. -/
theorem parse_int_accepts_loneSign :
    (int .int8).parse "-" = .ok ⟨0, by decide, by decide⟩ ∧ ∀ m, ¬Numeral "-".toList m := by
  refine ⟨rfl, fun m written => ?_⟩
  rw [show "-".toList = ['-'] from rfl] at written
  cases written with
  | unsigned digits _ => exact absurd (digits '-' List.mem_cons_self) (by decide)
  | negative _ nonempty => exact nonempty rfl

end Primitive

end EntitySql
