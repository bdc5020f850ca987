import EntitySql.Number.Reading
import EntitySql.Proofs.Text.Characters

/-!
# Numbers are read back from their digits

Each reader of digits computes the number that the digits write, on every list of digits and with
any text after it that does not go on. What is written in decimal is therefore read as the number
itself: integers of every kind, with their sign (`FixedInt.read?_toString`), numbers filled with
zeros to a width (`readFixed_padded`), and decimals of every scale (`Decimal.ofChars?_toText`).

**Decimals.** The digits are read into a mantissa of 96 bits and are never cut, since a decimal has
at most 28 places and each initial part of its digits is at most its mantissa. A negative zero loses
its sign; its value is the same.
-/

namespace EntitySql

set_option autoImplicit false

/-- All characters are digits. -/
def AreDigits (ds : List Char) : Prop := ∀ d ∈ ds, d.isDigit = true

theorem areDigits_toDigits (n : Nat) : AreDigits (Nat.toDigits 10 n) :=
  fun _ => isDigit_of_mem_decimal

theorem AreDigits.append {ds es : List Char} (first : AreDigits ds) (second : AreDigits es) :
    AreDigits (ds ++ es) :=
  fun d member => (List.mem_append.1 member).elim (first d) (second d)

theorem areDigits_replicate (n : Nat) : AreDigits (List.replicate n '0') := by
  intro d member
  rw [List.eq_of_mem_replicate member]
  rfl

/-- One step of every reader of digits is a step of core's. -/
theorem ofDigitChars_step (c : Char) (ds : List Char) (acc : Nat) :
    Nat.ofDigitChars 10 ds (acc * 10 + Decimal.digitValue c) =
      Nat.ofDigitChars 10 (c :: ds) acc := by
  rw [Nat.ofDigitChars_cons, Nat.mul_comm acc 10]
  rfl

/-- Further digits do not make a number smaller. -/
theorem le_ofDigitChars (ds : List Char) (acc : Nat) : acc ≤ Nat.ofDigitChars 10 ds acc := by
  induction ds generalizing acc with
  | nil => exact Nat.le_refl acc
  | cons c ds ih =>
    rw [← ofDigitChars_step]
    exact Nat.le_trans (by omega) (ih _)

/-! ## Integers -/

/-- The text does not start with a digit. -/
def StopsDigits (rest : List Char) : Prop := ∀ c ∈ rest.head?, c.isDigit = false

theorem readNat_append {ds : List Char} (digits : AreDigits ds) (rest : List Char)
    (stops : StopsDigits rest) (acc count : Nat) :
    readNat acc count (ds ++ rest) = (Nat.ofDigitChars 10 ds acc, count + ds.length, rest) := by
  induction ds generalizing acc count with
  | nil =>
    cases rest with
    | nil => rfl
    | cons c rest =>
      have outside : ¬c.isDigit = true := Bool.eq_false_iff.1 (stops c rfl)
      rw [List.nil_append, readNat, if_neg outside]
      rfl
  | cons d ds ih =>
    have digit : d.isDigit = true := digits d List.mem_cons_self
    rw [List.cons_append, readNat, if_pos digit,
      ih (fun e member => digits e (List.mem_cons_of_mem _ member)), ofDigitChars_step,
      List.length_cons]
    congr 2
    omega

/-- Digits start with no sign. -/
theorem splitSign_of_areDigits {ds : List Char} (digits : AreDigits ds) (rest : List Char)
    (nonempty : ds ≠ []) : splitSign (ds ++ rest) = (false, ds ++ rest) := by
  cases ds with
  | nil => exact absurd rfl nonempty
  | cons d ds =>
    have digit : d.isDigit = true := digits d List.mem_cons_self
    rw [List.cons_append, splitSign.eq_def]
    split
    · rename_i same
      cases same
      cases digit
    · rename_i same
      cases same
      cases digit
    · rfl

/-- Digits, after one sign at most, write an integer. -/
inductive Numeral : List Char → Int → Prop
  | unsigned {ds : List Char} (digits : AreDigits ds) (nonempty : ds ≠ []) :
      Numeral ds (Nat.ofDigitChars 10 ds 0)
  | positive {ds : List Char} (digits : AreDigits ds) (nonempty : ds ≠ []) :
      Numeral ('+' :: ds) (Nat.ofDigitChars 10 ds 0)
  | negative {ds : List Char} (digits : AreDigits ds) (nonempty : ds ≠ []) :
      Numeral ('-' :: ds) (-(Nat.ofDigitChars 10 ds 0 : Int))

/-- The text of an integer writes it. -/
theorem numeral_toString (n : Int) : Numeral (toString n).toList n := by
  rw [Int.toString_eq_repr]
  cases n with
  | ofNat m =>
    have written := Numeral.unsigned (areDigits_toDigits m) Nat.toDigits_ne_nil
    rw [Nat.ofDigitChars_ten_toDigits] at written
    have text : (Int.ofNat m).repr.toList = Nat.toDigits 10 m := Nat.toList_repr
    rw [text]
    exact written
  | negSucc m =>
    have written := Numeral.negative (areDigits_toDigits (m + 1)) Nat.toDigits_ne_nil
    rw [Nat.ofDigitChars_ten_toDigits] at written
    have text : (Int.negSucc m).repr.toList = '-' :: Nat.toDigits 10 (m + 1) := by
      show ("-" ++ (m + 1).repr).toList = _
      rw [String.toList_append, Nat.toList_repr]
      rfl
    rw [text]
    exact written

/-- What is taken for an integer: digits, which may be missing behind a sign. -/
inductive TakenFor : List Char → Int → Prop
  | unsigned {ds : List Char} (digits : AreDigits ds) (nonempty : ds ≠ []) :
      TakenFor ds (Nat.ofDigitChars 10 ds 0)
  | positive {ds : List Char} (digits : AreDigits ds) :
      TakenFor ('+' :: ds) (Nat.ofDigitChars 10 ds 0)
  | negative {ds : List Char} (digits : AreDigits ds) :
      TakenFor ('-' :: ds) (-(Nat.ofDigitChars 10 ds 0 : Int))

theorem Numeral.takenFor {cs : List Char} {n : Int} (written : Numeral cs n) : TakenFor cs n := by
  cases written with
  | unsigned digits nonempty => exact .unsigned digits nonempty
  | positive digits _ => exact .positive digits
  | negative digits _ => exact .negative digits

/-- What is taken for an integer is read as it, up to what stops the digits, if it is in range. -/
theorem FixedInt.read?_of_takenFor {k : IntKind} {taken rest : List Char} {m : Int}
    (number : TakenFor taken m) (stops : StopsDigits rest) :
    read? k (taken ++ rest) = (ofInt? k m).map fun n => (n, rest) := by
  suffices read? k (taken ++ rest) = (ofInt? k m).bind fun n => some (n, rest) by
    rw [this]
    cases ofInt? k m <;> rfl
  cases number with
  | unsigned digits nonempty =>
    have counted : taken.length ≠ 0 := fun none => nonempty (List.length_eq_zero_iff.1 none)
    simp [read?, splitSign_of_areDigits digits rest nonempty, readNat_append digits rest stops,
      counted]
  | positive digits => simp [read?, splitSign, readNat_append digits rest stops]
  | negative digits => simp [read?, splitSign, readNat_append digits rest stops]

/-- **An integer in range is read from the digits that write it.** -/
theorem FixedInt.read?_of_numeral {k : IntKind} {cs : List Char} {m : Int} {n : FixedInt k}
    (written : Numeral cs m) (inRange : ofInt? k m = some n) : read? k cs = some (n, []) := by
  have stops : StopsDigits [] := nofun
  have read := read?_of_takenFor (k := k) written.takenFor stops
  rw [List.append_nil, inRange] at read
  exact read

/-- **An integer is read back from its text.** -/
theorem FixedInt.read?_toString {k : IntKind} (n : FixedInt k) :
    FixedInt.read? k (toString n.val).toList = some (n, []) :=
  read?_of_numeral (numeral_toString n.val) n.ofInt?_val

/-! ## Numbers of a fixed width -/

theorem readFixed_append {ds : List Char} (digits : AreDigits ds) (rest : List Char) (acc : Nat) :
    readFixed acc ds.length (ds ++ rest) = some (Nat.ofDigitChars 10 ds acc, rest) := by
  induction ds generalizing acc with
  | nil => rfl
  | cons d ds ih =>
    have digit : d.isDigit = true := digits d List.mem_cons_self
    rw [List.cons_append, List.length_cons, readFixed, if_pos digit,
      ih (fun e member => digits e (List.mem_cons_of_mem _ member)), ← ofDigitChars_step]
    rfl

/-- Too few digits are no number of the width. -/
theorem readFixed_short {ds : List Char} (digits : AreDigits ds) {c : Char}
    (outside : c.isDigit = false) (rest : List Char) {width : Nat} (few : ds.length < width)
    (acc : Nat) : readFixed acc width (ds ++ c :: rest) = none := by
  induction ds generalizing acc width with
  | nil =>
    obtain ⟨width, rfl⟩ := Nat.exists_eq_succ_of_ne_zero (Nat.ne_zero_of_lt few)
    rw [List.nil_append, readFixed, if_neg (Bool.eq_false_iff.1 outside)]
  | cons d ds ih =>
    obtain ⟨width, rfl⟩ := Nat.exists_eq_succ_of_ne_zero (Nat.ne_zero_of_lt few)
    have digit : d.isDigit = true := digits d List.mem_cons_self
    rw [List.cons_append, readFixed, if_pos digit]
    exact ih (fun e member => digits e (List.mem_cons_of_mem _ member))
      (Nat.lt_of_succ_lt_succ few) _

theorem areDigits_padded (width n : Nat) : AreDigits (padded width n).toList :=
  consists_padded width n

/-- Zeros in front do not change the number. -/
theorem ofDigitChars_padded (width n : Nat) :
    Nat.ofDigitChars 10 (padded width n).toList 0 = n := by
  rw [padded, String.toList_ofList, Nat.ofDigitChars_append, Nat.ofDigitChars_replicate_zero,
    Nat.mul_zero, Nat.ofDigitChars_ten_toDigits]

/-- A number that fits its width takes that width. -/
theorem length_padded {width n : Nat} (positive : 0 < width) (fits : n < tenTo width) :
    (padded width n).toList.length = width := by
  have short : (Nat.toDigits 10 n).length ≤ width :=
    (Nat.length_toDigits_le_iff (by decide) positive).2 fits
  rw [padded, String.toList_ofList, List.length_append, List.length_replicate]
  omega

theorem padded_ne_nil (width n : Nat) : (padded width n).toList ≠ [] := by
  rw [padded, String.toList_ofList]
  exact List.append_ne_nil_of_right_ne_nil _ Nat.toDigits_ne_nil

/-- A number that needs more than its width is not filled. -/
theorem padded_eq_succ {width n : Nat} (positive : 0 < width) (long : tenTo width ≤ n) :
    padded width n = padded (width + 1) n := by
  have digits : width < (Nat.toDigits 10 n).length := by
    rw [← Nat.not_le, Nat.length_toDigits_le_iff (by decide) positive]
    exact Nat.not_lt.2 long
  simp only [padded]
  rw [Nat.sub_eq_zero_of_le (Nat.le_of_lt digits), Nat.sub_eq_zero_of_le digits]

/-- **A number filled with zeros is read back.** -/
theorem readFixed_padded (width n : Nat) (positive : 0 < width) (fits : n < tenTo width)
    (rest : List Char) :
    readFixed 0 width ((padded width n).toList ++ rest) = some (n, rest) := by
  have read := readFixed_append (areDigits_padded width n) rest 0
  rwa [length_padded positive fits, ofDigitChars_padded] at read

/-! ## Decimals -/

namespace Decimal

variable {seen : Bool} {mantissa scale : Nat} {ds fs : List Char}

/-- One digit that is not cut: it is the last one, or the places do not end with it. -/
theorem readDigits_cons {point : Bool} {c : Char} {rest : List Char} (digit : c.isDigit = true)
    (small : mantissa * 10 + digitValue c < mantissaBound)
    (room : rest ≠ [] → point = true → scale + 1 < maxScale) :
    readDigits point seen mantissa scale (c :: rest) =
      if rest = [] then some (mantissa * 10 + digitValue c, if point then scale + 1 else scale)
      else readDigits point true (mantissa * 10 + digitValue c)
        (if point then scale + 1 else scale) rest := by
  rw [readDigits, if_pos digit, if_pos small]
  cases rest with
  | nil => rfl
  | cons d rest =>
    have notCut : ¬(point && decide ((if point then scale + 1 else scale) ≥ maxScale)) = true := by
      cases point with
      | false => exact Bool.false_ne_true
      | true =>
        have := room (List.cons_ne_nil d rest) rfl
        simp only [if_true, Bool.true_and, decide_eq_true_eq]
        omega
    rw [if_neg (List.cons_ne_nil d rest)]
    exact if_neg notCut

/-- Digits after the point are read to their end. -/
theorem readDigits_fraction (digits : AreDigits fs) (nonempty : fs ≠ [])
    (few : scale + fs.length ≤ maxScale)
    (small : Nat.ofDigitChars 10 fs mantissa < mantissaBound) :
    readDigits true seen mantissa scale fs =
      some (Nat.ofDigitChars 10 fs mantissa, scale + fs.length) := by
  induction fs generalizing seen mantissa scale with
  | nil => exact absurd rfl nonempty
  | cons c fs ih =>
    have digit : c.isDigit = true := digits c List.mem_cons_self
    rw [← ofDigitChars_step] at small ⊢
    rw [List.length_cons] at few ⊢
    have first : mantissa * 10 + digitValue c < mantissaBound :=
      Nat.lt_of_le_of_lt (le_ofDigitChars fs _) small
    have room : fs ≠ [] → true = true → scale + 1 < maxScale := fun more _ => by
      have := List.length_pos_iff.2 more
      omega
    rw [readDigits_cons digit first room]
    by_cases last : fs = []
    · subst last
      rfl
    · rw [if_neg last, if_pos rfl,
        ih (fun e member => digits e (List.mem_cons_of_mem _ member)) last (by omega) small]
      congr 2
      omega

/-- Digits before the point are read up to what follows them: nothing, or a point. -/
theorem readDigits_whole (seen : Bool) (scale : Nat) (fs : List Char) (digits : AreDigits ds)
    (nonempty : ds ≠ [])
    (small : Nat.ofDigitChars 10 ds mantissa < mantissaBound) :
    readDigits false seen mantissa scale ds = some (Nat.ofDigitChars 10 ds mantissa, scale) ∧
      readDigits false seen mantissa scale (ds ++ '.' :: fs) =
        readDigits true true (Nat.ofDigitChars 10 ds mantissa) scale fs := by
  induction ds generalizing seen mantissa with
  | nil => exact absurd rfl nonempty
  | cons c ds ih =>
    have digit : c.isDigit = true := digits c List.mem_cons_self
    rw [← ofDigitChars_step] at small ⊢
    have first : mantissa * 10 + digitValue c < mantissaBound :=
      Nat.lt_of_le_of_lt (le_ofDigitChars ds _) small
    have room : ∀ rest : List Char, rest ≠ [] → false = true → scale + 1 < maxScale :=
      fun _ _ impossible => nomatch impossible
    have point : readDigits false true (mantissa * 10 + digitValue c) scale ('.' :: fs) =
        readDigits true true (mantissa * 10 + digitValue c) scale fs := by
      rw [readDigits]
      rfl
    rw [List.cons_append, readDigits_cons digit first (room _),
      readDigits_cons digit first (room _), if_neg Bool.false_ne_true]
    by_cases last : ds = []
    · subst last
      exact ⟨rfl, point⟩
    · have more : ds ++ '.' :: fs ≠ [] := by simp
      rw [if_neg last, if_neg more]
      exact ih true (fun e member => digits e (List.mem_cons_of_mem _ member)) last small

/-- The text of a decimal: its sign, digits, and as many places as its scale after a point, if there
are any. Without the point the digits are those of the mantissa. -/
theorem exists_toText (d : Decimal) :
    ∃ whole fraction, d.toText.toList = (if d.negative then ['-'] else []) ++
        (if d.scale = 0 then whole else whole ++ '.' :: fraction) ∧
      whole ≠ [] ∧ AreDigits whole ∧ AreDigits fraction ∧ fraction.length = d.scale ∧
      Nat.ofDigitChars 10 fraction (Nat.ofDigitChars 10 whole 0) = d.mantissa := by
  generalize digits : List.replicate (d.scale + 1 - (Nat.toDigits 10 d.mantissa).length) '0' ++
    Nat.toDigits 10 d.mantissa = ds
  have all : AreDigits ds :=
    digits ▸ (areDigits_replicate _).append (areDigits_toDigits d.mantissa)
  have long : d.scale + 1 ≤ ds.length := by
    rw [← digits, List.length_append, List.length_replicate]
    omega
  have number : Nat.ofDigitChars 10 ds 0 = d.mantissa := by
    rw [← digits, Nat.ofDigitChars_append, Nat.ofDigitChars_replicate_zero, Nat.mul_zero,
      Nat.ofDigitChars_ten_toDigits]
  refine ⟨ds.take (ds.length - d.scale), ds.drop (ds.length - d.scale), ?_, ?_, ?_, ?_, ?_, ?_⟩
  · simp only [toText, digits, String.toList_ofList]
  · rw [← List.length_pos_iff, List.length_take]
    omega
  · exact fun c member => all c (List.mem_of_mem_take member)
  · exact fun c member => all c (List.mem_of_mem_drop member)
  · rw [List.length_drop]
    omega
  · rw [← Nat.ofDigitChars_append, List.take_append_drop, number]

/-- A decimal is read behind its sign. -/
theorem ofChars?_eq (cs : List Char) :
    ofChars? cs = (readDigits false false 0 0 (splitSign cs).2).bind fun found =>
      ofParts? (splitSign cs).1 found.1 found.2 := by
  cases cs with
  | nil => rfl
  | cons c rest =>
    by_cases minus : c = '-'
    · subst minus
      rfl
    by_cases plus : c = '+'
    · subst plus
      rfl
    · simp [ofChars?, splitSign, minus, plus, Option.bind_eq_bind]

/-- **A decimal is read back from its text:** mantissa and scale are the same, and so is the sign
but for a negative zero. -/
theorem ofChars?_toText (d : Decimal) :
    ∃ e, ofChars? d.toText.toList = some e ∧ e.signedMantissa = d.signedMantissa ∧
      e.scale = d.scale := by
  obtain ⟨whole, fraction, text, nonempty, digits, places, length, number⟩ := exists_toText d
  have bound : Nat.ofDigitChars 10 whole 0 < mantissaBound :=
    Nat.lt_of_le_of_lt (number ▸ le_ofDigitChars fraction _) d.mantissa_lt
  have body : readDigits false false 0 0
      (if d.scale = 0 then whole else whole ++ '.' :: fraction) = some (d.mantissa, d.scale) := by
    obtain ⟨alone, pointed⟩ := readDigits_whole false 0 fraction digits nonempty bound
    by_cases integer : d.scale = 0
    · have noPlaces : fraction = [] := List.length_eq_zero_iff.1 (length.trans integer)
      subst noPlaces
      rw [if_pos integer, alone, integer]
      exact congrArg (fun n => some (n, 0)) number
    · have somePlaces : fraction ≠ [] := by
        rintro rfl
        exact integer length.symm
      rw [if_neg integer, pointed, readDigits_fraction places somePlaces
        (by rw [length, Nat.zero_add]; exact d.scale_le) (number ▸ d.mantissa_lt), number, length,
        Nat.zero_add]
  have signed : splitSign d.toText.toList =
      (d.negative, if d.scale = 0 then whole else whole ++ '.' :: fraction) := by
    have unsigned := splitSign_of_areDigits digits (if d.scale = 0 then [] else '.' :: fraction)
      nonempty
    rw [text]
    cases d.negative with
    | true => rfl
    | false => by_cases integer : d.scale = 0 <;> simpa [integer] using unsigned
  refine ⟨⟨d.negative && d.mantissa ≠ 0, d.mantissa, d.scale, d.mantissa_lt, d.scale_le⟩, ?_, ?_,
    rfl⟩
  · rw [ofChars?_eq, signed, body]
    exact dif_pos ⟨d.mantissa_lt, d.scale_le⟩
  · cases sign : d.negative with
    | true => by_cases zero : d.mantissa = 0 <;> simp [signedMantissa, sign, zero]
    | false => simp [signedMantissa, sign]

end Decimal

end EntitySql
