import EntitySql.Marshal.Decode
import EntitySql.Proofs.Calendar.Texts
import EntitySql.Proofs.Marshal.Coercion
import EntitySql.Sql.Literal

/-!
# Literals are read back as values

A driver that reports no kinds hands over text. The text of a literal without its quotes, coerced to
the kind of the value it was written for, is that value again: truth values, integers, decimals,
identifiers, dates, times and moments (`Dialect.literal_coerce`).

**Short years.** The years -999 to -1 are written with three digits, which no reader of dates takes.
A date, moment or zoned moment of such a year, in UTC for the last, is refused with its text named;
no text is ever read as another value.

**Blanks.** Text is parsed without the blanks around it. No literal begins or ends with one.
-/

namespace EntitySql

set_option autoImplicit false

/-! ## Blanks -/

namespace Text

/-- The text begins and ends with characters that are not blank. -/
def Trimmed (cs : List Char) : Prop :=
  (∃ c ∈ cs.head?, isBlank c = false) ∧ ∃ c ∈ cs.getLast?, isBlank c = false

theorem isBlank_of_isAlphanum {c : Char} (h : c.isAlphanum = true) : isBlank c = false := by
  have code : (65 ≤ c.toNat ∧ c.toNat ≤ 90) ∨ (97 ≤ c.toNat ∧ c.toNat ≤ 122) ∨
      (48 ≤ c.toNat ∧ c.toNat ≤ 57) := by
    rcases Bool.or_eq_true_iff.1 h with letter | digit
    · rcases Bool.or_eq_true_iff.1 letter with upper | lower
      · exact .inl (of_decide_eq_true upper)
      · have bounds := Bool.and_eq_true_iff.1 lower
        exact .inr (.inl ⟨of_decide_eq_true bounds.1, of_decide_eq_true bounds.2⟩)
    · have bounds := Bool.and_eq_true_iff.1 digit
      exact .inr (.inr ⟨of_decide_eq_true bounds.1, of_decide_eq_true bounds.2⟩)
  simp only [isBlank, Bool.or_eq_false_iff, Bool.and_eq_false_iff, decide_eq_false_iff_not,
    beq_eq_false_iff_ne]
  omega

theorem isBlank_of_isNumberChar {c : Char} (h : isNumberChar c = true) : isBlank c = false := by
  simp only [isNumberChar, Bool.or_eq_true, beq_iff_eq] at h
  rcases h with ((digit | rfl) | rfl) | rfl
  · exact isBlank_of_isAlphanum (by simp [Char.isAlphanum, digit])
  · rfl
  · rfl
  · rfl

theorem Trimmed.of_forall {cs : List Char} (nonempty : cs ≠ [])
    (ink : ∀ c ∈ cs, isBlank c = false) : Trimmed cs := by
  refine ⟨⟨cs.head nonempty, List.head?_eq_some_head nonempty, ink _ (List.head_mem _)⟩,
    ⟨cs.getLast nonempty, List.getLast?_eq_some_getLast nonempty, ink _ (List.getLast_mem _)⟩⟩

/-- What stands between two texts is not looked at. -/
theorem Trimmed.around {as bs : List Char} (first : Trimmed as) (last : Trimmed bs)
    (between : List Char) : Trimmed (as ++ (between ++ bs)) := by
  obtain ⟨⟨a, head, ink⟩, _⟩ := first
  obtain ⟨_, ⟨b, tail, ink'⟩⟩ := last
  refine ⟨⟨a, ?_, ink⟩, ⟨b, ?_, ink'⟩⟩
  · rw [Option.mem_def] at head
    rw [List.head?_append, head]
    rfl
  · rw [Option.mem_def] at tail
    rw [List.getLast?_append, List.getLast?_append, tail]
    rfl

theorem dropWhile_eq_self {p : Char → Bool} {cs : List Char}
    (stops : ∃ c ∈ cs.head?, p c = false) : cs.dropWhile p = cs := by
  obtain ⟨c, head, outside⟩ := stops
  cases cs with
  | nil => rfl
  | cons d cs =>
    cases head
    exact List.dropWhile_cons_of_neg (by simp [outside])

/-- **The blanks around a text are left out.** -/
theorem trim_eq {s : String} {before cs after : List Char}
    (text : s.toList = before ++ (cs ++ after)) (first : ∀ c ∈ before, isBlank c = true)
    (last : ∀ c ∈ after, isBlank c = true) (trimmed : Trimmed cs) : trim s = String.ofList cs := by
  have start : (cs ++ after).dropWhile isBlank = cs ++ after := by
    refine dropWhile_eq_self ?_
    obtain ⟨c, head, ink⟩ := trimmed.1
    refine ⟨c, ?_, ink⟩
    rw [Option.mem_def] at head ⊢
    rw [List.head?_append, head]
    rfl
  have finish : cs.reverse.dropWhile isBlank = cs.reverse := by
    refine dropWhile_eq_self ?_
    rw [List.head?_reverse]
    exact trimmed.2
  have blanks : ∀ c ∈ after.reverse, isBlank c = true := fun c member =>
    last c (List.mem_reverse.1 member)
  rw [trim, text, List.dropWhile_append_of_pos first, start, trimEnd, List.reverse_append,
    List.dropWhile_append_of_pos blanks, finish, List.reverse_reverse]

/-- A text without blanks at its ends is left as it is. -/
theorem trim_of_trimmed {s : String} (trimmed : Trimmed s.toList) : trim s = s := by
  have alone : s.toList = [] ++ (s.toList ++ []) := by simp
  have whole := trim_eq alone nofun nofun trimmed
  rwa [String.ofList_toList] at whole

/-! ## Bytes -/

theorem hexValue?_hexDigit : ∀ n < 16, hexValue? (hexDigit n) = some n := by decide

theorem length_hexOfBytes (bytes : List UInt8) : (hexOfBytes bytes).length = 2 * bytes.length := by
  induction bytes with
  | nil => rfl
  | cons b bytes ih =>
    rw [hexOfBytes, List.flatMap_cons, List.length_append, ← hexOfBytes, ih]
    simp only [List.length_cons, List.length_nil]
    omega

/-- **Bytes are read back from their digits.** -/
theorem bytesOfHex?_hexOfBytes (bytes : List UInt8) :
    bytesOfHex? (hexOfBytes bytes) = some bytes := by
  induction bytes with
  | nil => rfl
  | cons b bytes ih =>
    have bound := b.toNat_lt
    have whole : b.toNat / 16 * 16 + b.toNat % 16 = b.toNat := by omega
    have high := hexValue?_hexDigit (b.toNat / 16) (by omega)
    have low := hexValue?_hexDigit (b.toNat % 16) (by omega)
    have digits : hexOfBytes (b :: bytes) =
        hexDigit (b.toNat / 16) :: hexDigit (b.toNat % 16) :: hexOfBytes bytes := rfl
    rw [digits, bytesOfHex?, high, low, ih]
    show some (UInt8.ofNat (b.toNat / 16 * 16 + b.toNat % 16) :: bytes) = _
    rw [whole, UInt8.ofNat_toNat]

end Text

namespace Uuid

theorem length_hyphenate {digits : List Char} (length : digits.length = 32) :
    (hyphenate digits).length = 36 := by
  simp [hyphenate, length]

/-- Digits in groups of eight, four, four, four and twelve. -/
theorem exists_groups {digits : List Char} (length : digits.length = 32) :
    ∃ a b c d e, digits = a ++ (b ++ (c ++ (d ++ e))) ∧
      hyphenate digits = a ++ '-' :: (b ++ '-' :: (c ++ '-' :: (d ++ '-' :: e))) ∧
      a.length = 8 ∧ b.length = 4 ∧ c.length = 4 ∧ d.length = 4 := by
  refine ⟨_, _, _, _, _, ?_, rfl, ?_, ?_, ?_, ?_⟩
  · rw [← List.drop_drop (i := 4) (j := 16), List.take_append_drop,
      ← List.drop_drop (i := 4) (j := 12), List.take_append_drop,
      ← List.drop_drop (i := 4) (j := 8), List.take_append_drop, List.take_append_drop]
  all_goals simp [length]

/-- Without the hyphens the digits are the same. -/
theorem ofHyphenated?_hyphenate {digits : List Char} (length : digits.length = 32) :
    ofHyphenated? (hyphenate digits) = ofDigits? digits := by
  have long := length_hyphenate length
  obtain ⟨a, b, c, d, e, joined, text, ha, hb, hc, hd⟩ := exists_groups length
  have rejoined : (hyphenate digits).take 8 ++ ((hyphenate digits).drop 9).take 4 ++
      ((hyphenate digits).drop 14).take 4 ++ ((hyphenate digits).drop 19).take 4 ++
      (hyphenate digits).drop 24 = digits := by
    rw [text, joined]
    simp [List.drop_append, List.drop_eq_nil_of_le, ha, hb, hc, hd]
  simp only [ofHyphenated?, rejoined, long, beq_self_eq_true, decide_true, Bool.and_self, if_true]

/-- **An identifier is read back from its text.** -/
theorem ofChars?_toText (u : Uuid) : ofChars? u.toText.toList = some u := by
  have length : (Text.hexOfBytes u.bytes).length = 32 := by
    rw [Text.length_hexOfBytes, u.length_eq]
  have found : ofBytes? u.bytes = some u := dif_pos u.length_eq
  have long := length_hyphenate length
  rw [toText, String.toList_ofList, ofChars?.eq_def, long, if_neg (by decide), if_pos rfl,
    ofHyphenated?_hyphenate length, ofDigits?, Text.bytesOfHex?_hexOfBytes]
  exact found

end Uuid

/-! ## Where texts begin and end -/

namespace Text

theorem Trimmed.of_digits {s : String} (digits : Consists Char.isDigit s)
    (nonempty : s.toList ≠ []) : Trimmed s.toList :=
  .of_forall nonempty fun c member =>
    isBlank_of_isAlphanum (by simp [Char.isAlphanum, digits c member])

theorem trimmed_padded (width n : Nat) : Trimmed (padded width n).toList :=
  .of_digits (consists_padded width n) (padded_ne_nil width n)

end Text

theorem Date.trimmed_toCompactText (d : Date) : Text.Trimmed d.toCompactText.toList := by
  have year : Text.Trimmed (CivilDate.compactYear d.civil.year).toList := by
    unfold CivilDate.compactYear
    split
    · rw [String.toList_append]
      refine .of_forall (by simp) fun c member => ?_
      rcases List.mem_append.1 member with sign | digit
      · rw [List.mem_singleton.1 sign]
        rfl
      · exact Text.isBlank_of_isAlphanum (by simp [Char.isAlphanum, consists_padded 3 _ c digit])
    · exact Text.trimmed_padded 4 _
  have ends := year.around (Text.trimmed_padded 2 d.civil.day)
    ("-" ++ padded 2 d.civil.month ++ "-").toList
  simpa [Date.toCompactText, CivilDate.monthAndDay, String.toList_append] using ends

theorem TimeOfDay.trimmed_toText (t : TimeOfDay) : Text.Trimmed t.toText.toList := by
  obtain ⟨digits, nonempty, _⟩ := t.fractionText_digits
  have ends := (Text.trimmed_padded 2 t.hour).around (Text.Trimmed.of_digits digits nonempty)
    (":" ++ padded 2 t.minute ++ ":" ++ padded 2 t.second ++ ".").toList
  simpa [toText, clockText, String.toList_append] using ends

theorem Moment.trimmed_toCompactText (m : Moment) : Text.Trimmed m.toCompactText.toList := by
  rw [m.toList_toCompactText]
  exact m.date.trimmed_toCompactText.around m.time.trimmed_toText [' ']

theorem Uuid.trimmed_toText (u : Uuid) : Text.Trimmed u.toText.toList := by
  have length : (Text.hexOfBytes u.bytes).length = 32 := by
    rw [Text.length_hexOfBytes, u.length_eq]
  have ink : ∀ c ∈ Text.hexOfBytes u.bytes, Text.isBlank c = false := fun c member =>
    Text.isBlank_of_isAlphanum (Text.isAlphanum_of_mem_hexOfBytes member).1
  obtain ⟨a, b, c, d, e, joined, text, ha, hb, hc, hd⟩ := exists_groups length
  rw [joined] at length ink
  simp only [List.length_append] at length
  have first : Text.Trimmed a :=
    .of_forall (List.length_pos_iff.1 (by omega)) fun x member => ink x (by simp [member])
  have last : Text.Trimmed e :=
    .of_forall (List.length_pos_iff.1 (by omega)) fun x member => ink x (by simp [member])
  have ends := first.around last ('-' :: (b ++ '-' :: (c ++ '-' :: (d ++ ['-']))))
  rw [toText, String.toList_ofList, text]
  simpa using ends

theorem Date.readWhole_short {d : Date} (short : d.HasShortYear) :
    Primitive.date.readWhole d.toCompactText.toList = none := by
  have unread := (CivilDate.readCivil_short short.1 short.2 []).1
  rw [List.append_nil] at unread
  have same : readCivil d.toCompactText.toList = none := unread
  simp [Primitive.readWhole, ofText?, Moment.ofDateTimeText?, same]

/-! ## Texts between quotes -/

/-- A text without the quotes around it; a text that does not begin with a quote has none. -/
def Text.unquoted (s : String) : String :=
  match s.toList with
  | '\'' :: rest => String.ofList rest.dropLast
  | _ => s

theorem Text.unquoted_quoted (s : String) : unquoted ("'" ++ s ++ "'") = s := by
  have text : ("'" ++ s ++ "'").toList = '\'' :: (s.toList ++ ['\'']) := by
    simp [String.toList_append]
  rw [unquoted, text]
  simp

theorem Text.unquoted_of_consists {s : String} (number : Consists isNumberChar s) :
    unquoted s = s := by
  rw [unquoted]
  split
  · rename_i rest same
    have quote := number '\'' (same ▸ List.mem_cons_self)
    cases quote
  · rfl

/-! ## Coercion of untyped text -/

namespace Primitive

/-- The types whose text is parsed without the blanks around it. -/
def readsTrimmed : Primitive → Bool
  | char | text | bytes => false
  | _ => true

/-- **Untyped text is read as a whole, or refused with the text named.** -/
theorem ofValue_unknown {p : Primitive} (parsed : p.readsTrimmed = true) {s : String}
    (trimmed : Text.Trimmed s.toList) :
    p.ofValue (.unknown (some s)) = orFail (.ofText s p.parsedName) (p.readWhole s.toList) := by
  have whole : p.ofValue (.unknown (some s)) = p.parse (Text.trim s) := by
    cases p with
    | char | text | bytes => cases parsed
    | _ => rfl
  have uncut : p.cuts s.toList = false := by
    cases p with
    | bytes => cases parsed
    | _ => rfl
  rw [whole, Text.trim_of_trimmed trimmed, parse, uncut, if_neg Bool.false_ne_true]
  cases p.readWhole s.toList <;> rfl

/-- Coercion of untyped text to the kind of a type. -/
theorem coerce_unknown {p : Primitive} (parsed : p.readsTrimmed = true) (notDecimal : p ≠ .decimal)
    {s : String} (trimmed : Text.Trimmed s.toList) :
    coerce p.empty (.unknown (some s)) =
      (orFail (.ofText s p.parsedName) (p.readWhole s.toList)).map p.toValue := by
  rw [← ofValue_unknown parsed trimmed]
  cases p with
  | decimal => exact absurd rfl notDecimal
  | _ => rfl

end Primitive

/-- Coercion of untyped text to a kind of decimals. -/
theorem coerce_unknown_decimal (precision scale : Nat) (s : String) :
    coerce (.decimal none precision scale) (.unknown (some s)) =
      (Primitive.decimal.ofValue (.unknown (some s))).map fun e =>
        if precision = 0 ∧ scale = 0 then .decimal (some e) 0 e.scale
        else .decimal (some (e.round scale)) precision scale := by
  rw [coerce.eq_def]
  rfl

namespace Value

/-- Values of the kinds whose literals can be read back, and nulls of these kinds: decimals need no
rounding, and zoned moments have a moment of UTC. -/
inductive IsScalar : Value → Prop
  | boolean (b : Option Bool) : IsScalar (.boolean b)
  | int (k : IntKind) (n : Option (FixedInt k)) : IsScalar (.int k n)
  | decimal (d : Option Decimal) (precision scale : Nat) (fits : ∀ x ∈ d, x.scale ≤ scale) :
    IsScalar (.decimal d precision scale)
  | uuid (u : Option Uuid) : IsScalar (.uuid u)
  | date (d : Option Date) : IsScalar (.date d)
  | time (t : Option TimeOfDay) : IsScalar (.time t)
  | timestamp (m : Option Moment) : IsScalar (.timestamp m)
  | zoned (z : Option ZonedMoment) (inRange : ∀ x ∈ z, x.utc?.isSome = true) : IsScalar (.zoned z)

/-- The date in the literal of a value, if there is one. -/
def writtenDate? : Value → Option Date
  | .date d => d
  | .timestamp m => m.map Moment.date
  | .zoned z => (z.bind ZonedMoment.utc?).map Moment.date
  | _ => none

/-- The value has content, and its literal has no date of the years -999 to -1. -/
def IsLegible (v : Value) : Prop := v.isNull = false ∧ ∀ d ∈ v.writtenDate?, ¬d.HasShortYear

theorem isLegible_of_undated {v : Value} (content : v.isNull = false)
    (undated : v.writtenDate? = none) : v.IsLegible := by
  refine ⟨content, fun d written => ?_⟩
  rw [undated] at written
  cases written

theorem isLegible_iff {v : Value} {d : Date} (content : v.isNull = false)
    (dated : v.writtenDate? = some d) : v.IsLegible ↔ ¬d.HasShortYear := by
  simp [IsLegible, content, dated]

theorem not_isLegible_of_isNull {v : Value} (null : v.isNull = true) : ¬v.IsLegible :=
  fun legible => Bool.false_ne_true (legible.1.symm.trans null)

end Value

/-- Untyped text coerced to the kind of a value is that value if it is legible, and else it is
refused. -/
def ReadsBack (v : Value) (s : String) : Prop :=
  (v.IsLegible → ∃ w, coerce v.prototype (.unknown (some s)) = .ok w ∧ w.equals v = true) ∧
    (¬v.IsLegible → ∃ target, coerce v.prototype (.unknown (some s)) = .error (.ofText s target))

/-- A value of a type whose text is parsed reads back as the type reads its text. -/
theorem readsBack_of_readWhole {p : Primitive} (parsed : p.readsTrimmed = true)
    (notDecimal : p ≠ .decimal) {v : Value} (kind : v.prototype = p.empty) {s : String}
    (trimmed : Text.Trimmed s.toList)
    (read : v.IsLegible → ∃ x, p.readWhole s.toList = some x ∧ (p.toValue x).equals v = true)
    (unread : ¬v.IsLegible → p.readWhole s.toList = none) : ReadsBack v s := by
  have result := Primitive.coerce_unknown parsed notDecimal trimmed
  refine ⟨fun legible => ?_, fun illegible => ?_⟩
  · obtain ⟨x, found, same⟩ := read legible
    exact ⟨p.toValue x, by rw [kind, result, found]; rfl, same⟩
  · exact ⟨p.parsedName, by rw [kind, result, unread illegible]; rfl⟩

/-- A value without a date is read back if its type reads it. -/
theorem readsBack_undated {p : Primitive} (parsed : p.readsTrimmed = true)
    (notDecimal : p ≠ .decimal) {v : Value} (kind : v.prototype = p.empty)
    (content : v.isNull = false)
    (undated : v.writtenDate? = none) {s : String} (trimmed : Text.Trimmed s.toList)
    {x : p.Carrier} (read : p.readWhole s.toList = some x)
    (same : (p.toValue x).equals v = true) : ReadsBack v s :=
  readsBack_of_readWhole parsed notDecimal kind trimmed (fun _ => ⟨x, read, same⟩)
    fun illegible => absurd (Value.isLegible_of_undated content undated) illegible

/-- A value with a date is read back if its type reads it where the year is not short. -/
theorem readsBack_dated {p : Primitive} (parsed : p.readsTrimmed = true) (notDecimal : p ≠ .decimal)
    {v : Value} (kind : v.prototype = p.empty) (content : v.isNull = false) {d : Date}
    (dated : v.writtenDate? = some d) {s : String} (trimmed : Text.Trimmed s.toList)
    {x : p.Carrier} (read : ¬d.HasShortYear → p.readWhole s.toList = some x)
    (unread : d.HasShortYear → p.readWhole s.toList = none)
    (same : (p.toValue x).equals v = true) : ReadsBack v s := by
  have legible := Value.isLegible_iff content dated
  exact readsBack_of_readWhole parsed notDecimal kind trimmed
    (fun long => ⟨x, read (legible.1 long), same⟩)
    fun short => unread (Decidable.not_not.1 fun long => short (legible.2 long))

/-! ### Words and numbers -/

theorem Text.trimmed_null : Text.Trimmed "NULL".toList := ⟨⟨'N', rfl, rfl⟩, 'L', rfl, rfl⟩

/-- The word for null is not read as content. -/
theorem readsBack_null {p : Primitive} (parsed : p.readsTrimmed = true) (notDecimal : p ≠ .decimal)
    (unread : p.readWhole "NULL".toList = none) : ReadsBack p.empty "NULL" := by
  have null : p.empty.isNull = true := by cases p <;> rfl
  have illegible := Value.not_isLegible_of_isNull null
  have kind : p.empty.prototype = p.empty := by cases p <;> rfl
  exact readsBack_of_readWhole parsed notDecimal kind Text.trimmed_null
    (fun legible => absurd legible illegible) fun _ => unread

theorem readsBack_boolean (b : Bool) :
    ReadsBack (.boolean (some b)) (Dialect.generic.booleanLiteral b) := by
  have trimmed : Text.Trimmed (Dialect.generic.booleanLiteral b).toList := by
    cases b with
    | true => exact ⟨⟨'t', rfl, rfl⟩, 'e', rfl, rfl⟩
    | false => exact ⟨⟨'f', rfl, rfl⟩, 'e', rfl, rfl⟩
  have read : Primitive.boolean.readWhole (Dialect.generic.booleanLiteral b).toList = some b := by
    cases b <;> decide
  exact readsBack_undated (p := .boolean) rfl nofun rfl rfl rfl trimmed read
    (by simp [Primitive.toValue, Value.equals])

theorem Text.trimmed_of_consists {s : String} (number : Consists isNumberChar s)
    (nonempty : s.toList ≠ []) : Trimmed s.toList :=
  .of_forall nonempty fun c member => isBlank_of_isNumberChar (number c member)

theorem readsBack_int (k : IntKind) (n : FixedInt k) :
    ReadsBack (.int k (some n)) (toString n.val) := by
  have read := FixedInt.read?_toString n
  have nonempty : (toString n.val).toList ≠ [] := fun empty => by
    rw [empty] at read
    cases read
  have whole : (Primitive.int k).readWhole (toString n.val).toList = some n := by
    simp only [Primitive.readWhole, Primitive.scan, read]
  exact readsBack_undated (p := .int k) rfl nofun rfl rfl rfl
    (Text.trimmed_of_consists (consists_toString_int n.val) nonempty) whole
    (by simp [Primitive.toValue, Value.equals, Value.agree])

namespace Primitive

/-- The text of a decimal is a decimal number to its end. -/
theorem spanDecimal_toText (d : Decimal) : spanDecimal d.toText.toList = (d.toText.toList, []) := by
  obtain ⟨whole, fraction, text, nonempty, digits, places, _, _⟩ := d.exists_toText
  have digit : ∀ c : Char, c.isDigit = true → inDecimal c = true := fun c isDigit => by
    simp [inDecimal, isDigit]
  have body : ∃ c cs, (if d.scale = 0 then whole else whole ++ '.' :: fraction) = c :: cs ∧
      inDecimal c = true ∧ ∀ x ∈ cs, inDecimal x = true := by
    obtain ⟨c, cs, rfl⟩ := List.exists_cons_of_ne_nil nonempty
    have first := digit c (digits c List.mem_cons_self)
    have rest : ∀ x ∈ cs, inDecimal x = true := fun x member =>
      digit x (digits x (List.mem_cons_of_mem c member))
    split
    · exact ⟨c, cs, rfl, first, rest⟩
    · refine ⟨c, cs ++ '.' :: fraction, rfl, first, fun x member => ?_⟩
      rcases List.mem_append.1 member with before | after
      · exact rest x before
      · rcases List.mem_cons.1 after with rfl | after
        · rfl
        · exact digit x (places x after)
  obtain ⟨c, cs, same, first, rest⟩ := body
  have spanned : ∀ xs : List Char, (∀ x ∈ xs, inDecimal x = true) →
      xs.takeWhile inDecimal = xs ∧ xs.dropWhile inDecimal = [] := fun xs inside => by
    constructor
    · simpa using @List.takeWhile_append_of_pos _ inDecimal xs [] inside
    · simpa using @List.dropWhile_append_of_pos _ inDecimal xs [] inside
  rw [text, same]
  cases d.negative with
  | true =>
    have all := spanned (c :: cs) (List.forall_mem_cons.2 ⟨first, rest⟩)
    show ('-' :: (c :: cs).takeWhile inDecimal, (c :: cs).dropWhile inDecimal) = _
    rw [all.1, all.2]
    rfl
  | false =>
    have all := spanned cs rest
    rw [if_neg Bool.false_ne_true, List.nil_append, spanDecimal, first, Bool.true_or, Bool.true_or,
      if_pos rfl, all.1, all.2]

end Primitive

/-- A decimal that needs no rounding is read back; zero loses its sign. -/
theorem readsBack_decimal (d : Decimal) {precision scale : Nat} (fits : d.scale ≤ scale) :
    ReadsBack (.decimal (some d) precision scale) d.toText := by
  have legible := Value.isLegible_of_undated (v := .decimal (some d) precision scale) rfl rfl
  obtain ⟨e, read, mantissa, places⟩ := d.ofChars?_toText
  have nonempty : d.toText.toList ≠ [] := fun empty => by
    rw [empty] at read
    cases read
  have parsed : Primitive.decimal.ofValue (.unknown (some d.toText)) = .ok e := by
    rw [Primitive.ofValue_unknown rfl (Text.trimmed_of_consists d.consists_toText nonempty)]
    simp [Primitive.readWhole, Primitive.scan, Primitive.readDecimal,
      Primitive.spanDecimal_toText, read, Primitive.orFail]
  have same : e.sameValue d = true := by
    simp [Decimal.sameValue, mantissa, places]
  have coerced := coerce_unknown_decimal precision scale d.toText
  rw [parsed] at coerced
  refine ⟨fun _ => ⟨_, coerced, ?_⟩, fun illegible => absurd legible illegible⟩
  have kept : e.round scale = e := Decimal.round_of_le (places ▸ fits)
  by_cases free : precision = 0 ∧ scale = 0
  · obtain ⟨rfl, rfl⟩ := free
    have integer : e.scale = 0 := places.trans (Nat.le_zero.1 fits)
    simp [Value.equals, Value.agree, same, integer]
  · simp [Value.equals, Value.agree, same, free, kept]

theorem readsBack_nullDecimal (precision scale : Nat) :
    ReadsBack (.decimal none precision scale) "NULL" := by
  have illegible : ¬(Value.decimal none precision scale).IsLegible :=
    Value.not_isLegible_of_isNull rfl
  have refused : Primitive.decimal.ofValue (.unknown (some "NULL")) =
      .error (.ofText "NULL" Primitive.decimal.name) := by
    rw [Primitive.ofValue_unknown rfl Text.trimmed_null]
    rfl
  refine ⟨fun legible => absurd legible illegible, fun _ => ⟨Primitive.decimal.name, ?_⟩⟩
  rw [Value.prototype, coerce_unknown_decimal, refused]
  rfl

/-! ### Identifiers, dates and times -/

theorem readsBack_uuid (u : Uuid) : ReadsBack (.uuid (some u)) u.toText :=
  readsBack_undated (p := .uuid) rfl nofun rfl rfl rfl u.trimmed_toText u.ofChars?_toText
    (by simp [Primitive.toValue, Value.equals])

theorem readsBack_time (t : TimeOfDay) : ReadsBack (.time (some t)) t.toText :=
  readsBack_undated (p := .time) rfl nofun rfl rfl rfl t.trimmed_toText t.ofText?_toText
    (by simp [Primitive.toValue, Value.equals])

theorem readsBack_date (d : Date) : ReadsBack (.date (some d)) d.toCompactText := by
  have read : ¬d.HasShortYear → Primitive.date.readWhole d.toCompactText.toList = some d :=
    fun long => by simp [Primitive.readWhole, d.ofText?_toCompactText long]
  exact readsBack_dated (p := .date) rfl nofun rfl rfl rfl d.trimmed_toCompactText read
    Date.readWhole_short (by simp [Primitive.toValue, Value.equals])

theorem readsBack_timestamp (m : Moment) : ReadsBack (.timestamp (some m)) m.toCompactText :=
  readsBack_dated (p := .moment) rfl nofun rfl rfl rfl m.trimmed_toCompactText
    m.ofText?_toCompactText (fun short => (m.ofText?_short short).1)
    (by simp [Primitive.toValue, Value.equals])

/-- A zoned moment is read back as its moment of UTC, which is the same instant. -/
theorem readsBack_zoned {z : ZonedMoment} {m : Moment} (inRange : z.utc? = some m) :
    ReadsBack (.zoned (some z)) m.toCompactText := by
  have dated : (Value.zoned (some z)).writtenDate? = some m.date := by
    simp [Value.writtenDate?, inRange]
  have instant : m.toNanos = z.instant := Moment.toNanos_of_ofNanos? inRange
  exact readsBack_dated (p := .zoned) rfl nofun rfl rfl dated m.trimmed_toCompactText
    m.ofZonedText?_toCompactText (fun short => (m.ofText?_short short).2)
    (by simp [Primitive.toValue, Value.equals, Value.agree, instant])

/-! ## Literals -/

/-- **The text of a generic literal without its quotes is read back as the value,** if it has
content and none of the years -999 to -1; else the text is refused. -/
theorem Dialect.literal_coerce {v : Value} (scalar : v.IsScalar) :
    ∃ text, Dialect.generic.literal v = .ok text ∧ ReadsBack v (Text.unquoted text) := by
  have quoted : ∀ {s : String}, ReadsBack v s → ReadsBack v (Text.unquoted ("'" ++ s ++ "'")) :=
    fun {s} read => (Text.unquoted_quoted s).symm ▸ read
  have moment : ∀ m : Moment, Dialect.generic.momentLiteral m = "'" ++ m.toCompactText ++ "'" :=
    fun m => by simp [momentLiteral, Moment.toCompactText, String.append_assoc]
  cases scalar with
  | boolean b =>
    rcases b with _ | _ | _
    · exact ⟨"NULL", rfl, readsBack_null (p := .boolean) rfl (by simp) rfl⟩
    · exact ⟨"false", rfl, readsBack_boolean false⟩
    · exact ⟨"true", rfl, readsBack_boolean true⟩
  | int k n =>
    cases n with
    | none => exact ⟨"NULL", rfl, readsBack_null (p := .int k) rfl (by simp) rfl⟩
    | some n =>
      refine ⟨_, rfl, ?_⟩
      rw [Text.unquoted_of_consists (consists_toString_int n.val)]
      exact readsBack_int k n
  | decimal d precision scale fits =>
    cases d with
    | none => exact ⟨"NULL", rfl, readsBack_nullDecimal precision scale⟩
    | some d =>
      refine ⟨_, rfl, ?_⟩
      rw [Text.unquoted_of_consists d.consists_toText]
      exact readsBack_decimal d (fits d rfl)
  | uuid u =>
    cases u with
    | none => exact ⟨"NULL", rfl, readsBack_null (p := .uuid) rfl (by simp) rfl⟩
    | some u => exact ⟨_, rfl, quoted (readsBack_uuid u)⟩
  | date d =>
    cases d with
    | none => exact ⟨"NULL", rfl, readsBack_null (p := .date) rfl (by simp) rfl⟩
    | some d => exact ⟨_, rfl, quoted (readsBack_date d)⟩
  | time t =>
    cases t with
    | none => exact ⟨"NULL", rfl, readsBack_null (p := .time) rfl (by simp) rfl⟩
    | some t => exact ⟨_, rfl, quoted (readsBack_time t)⟩
  | timestamp m =>
    cases m with
    | none => exact ⟨"NULL", rfl, readsBack_null (p := .moment) rfl (by simp) rfl⟩
    | some m => exact ⟨_, congrArg Except.ok (moment m), quoted (readsBack_timestamp m)⟩
  | zoned z inRange =>
    cases z with
    | none => exact ⟨"NULL", rfl, readsBack_null (p := .zoned) rfl (by simp) rfl⟩
    | some z =>
      obtain ⟨m, utc⟩ := Option.isSome_iff_exists.1 (inRange z rfl)
      have written : Dialect.generic.literal (.zoned (some z)) =
          .ok ("'" ++ m.toCompactText ++ "'") := by
        simp [literal, Primitive.utc, utc, Primitive.orFail, Except.map, moment]
      exact ⟨_, written, quoted (readsBack_zoned utc)⟩

/-- A moment of the evening of 29 February 2024, two hours ahead of UTC. -/
theorem Dialect.literal_coerce_leapDay :
    let wall : Moment := ⟨⟨19782, by decide, by decide⟩, ⟨84600500000000, by decide, by decide⟩⟩
    let v : Value := .zoned (some ⟨wall, 7200, by decide, by decide⟩)
    ∃ text, Dialect.generic.literal v = .ok text ∧ ReadsBack v (Text.unquoted text) :=
  literal_coerce (.zoned _ fun _ same => Option.some.inj same ▸ by decide)

/-- The literal of 15 March of year -44 is not read back. -/
theorem Dialect.literal_coerce_idesOfMarch :
    ¬∀ v : Value, v.IsScalar → v.isNull = false → ∃ text, Dialect.generic.literal v = .ok text ∧
      ∃ w, coerce v.prototype (.unknown (some (Text.unquoted text))) = .ok w ∧
        w.equals v = true := by
  intro readBack
  have short : (⟨-735525, by decide, by decide⟩ : Date).HasShortYear := by decide
  obtain ⟨text, written, w, read, _⟩ :=
    readBack (.date (some ⟨-735525, by decide, by decide⟩)) (.date _) rfl
  obtain ⟨target, refused⟩ :=
    (readsBack_date _).2 fun legible => (Value.isLegible_iff rfl rfl).1 legible short
  obtain rfl := Except.ok.inj written
  have quoted : ∀ d : Date, Dialect.generic.dateLiteral d = "'" ++ d.toCompactText ++ "'" :=
    fun _ => rfl
  rw [quoted, Text.unquoted_quoted, refused] at read
  cases read

end EntitySql
