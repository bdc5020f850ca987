import EntitySql.Sql.Literal

/-!
# Which characters texts are made of

Numbers, dates, times, identifiers and bytes are written with few characters. Their texts are
followed here down to the digits, so that a reader of a statement can be told what cannot occur in
them: no quote, no parenthesis, no mark of a parameter.

**Number characters** are the digits, the point, the minus and the `e` before an exponent.
**Name characters** are those of names that need no quotes.
**Plain characters** are all that a reader of SQL passes over without a change of mind.
-/

namespace EntitySql

set_option autoImplicit false

/-- Every character of the text is in the class. -/
def Consists (p : Char → Bool) (s : String) : Prop := ∀ c ∈ s.toList, p c = true

instance (p : Char → Bool) (s : String) : Decidable (Consists p s) :=
  decidable_of_iff (s.toList.all p = true) List.all_eq_true

/-- Digits, point, minus and the sign of an exponent. -/
def isNumberChar (c : Char) : Bool := c.isDigit || c == '.' || c == '-' || c == 'e'

/-- Letters, digits and the underscore. -/
def isNameChar (c : Char) : Bool := c.isAlphanum || c == '_'

/-- Neither quote nor bracket, no backslash and no mark of a parameter. -/
def isPlainChar (c : Char) : Bool :=
  !(['\'', '"', '\x60', '\\', '(', ')', '[', ']', '?', '$'].contains c)

namespace Consists

variable {p q : Char → Bool} {a b s : String}

theorem ofList {cs : List Char} (h : ∀ c ∈ cs, p c = true) : Consists p (String.ofList cs) := by
  intro c member
  rw [String.toList_ofList] at member
  exact h c member

/-- A literal is checked on its characters, without decoding it first. -/
theorem literal {cs : List Char} (same : s = String.ofList cs) (h : cs.all p = true) :
    Consists p s :=
  same ▸ ofList (List.all_eq_true.1 h)

theorem append (ha : Consists p a) (hb : Consists p b) : Consists p (a ++ b) := by
  intro c member
  rw [String.toList_append, List.mem_append] at member
  exact member.elim (ha c) (hb c)

theorem mono (le : ∀ c, p c = true → q c = true) (h : Consists p s) : Consists q s :=
  fun c member => le c (h c member)

end Consists

/-- No letter is a digit. -/
theorem isDigit_of_isAlpha {c : Char} (h : c.isAlpha = true) : c.isDigit = false := by
  rw [Bool.eq_false_iff]
  intro digit
  have most : c.val ≤ '9'.val := of_decide_eq_true (Bool.and_eq_true_iff.1 digit).2
  rcases Bool.or_eq_true_iff.1 h with upper | lower
  · have least : 'A'.val ≤ c.val := (of_decide_eq_true upper).1
    exact absurd (UInt32.le_trans least most) (by decide)
  · have least : 'a'.val ≤ c.val := of_decide_eq_true (Bool.and_eq_true_iff.1 lower).1
    exact absurd (UInt32.le_trans least most) (by decide)

theorem isNumberChar_of_isDigit {c : Char} (h : c.isDigit = true) : isNumberChar c = true := by
  simp [isNumberChar, h]

/-- Digits, letters and the point are plain. -/
theorem isPlainChar_of_isAlphanum {c : Char} (h : c.isAlphanum = true) :
    isPlainChar c = true := by
  cases plain : isPlainChar c with
  | true => rfl
  | false =>
    simp only [isPlainChar, Bool.not_eq_false', List.contains_iff_mem, List.mem_cons,
      List.not_mem_nil, or_false] at plain
    rcases plain with rfl | rfl | rfl | rfl | rfl | rfl | rfl | rfl | rfl | rfl <;>
      exact absurd h (by decide)

theorem isPlainChar_of_isDigit {c : Char} (h : c.isDigit = true) : isPlainChar c = true :=
  isPlainChar_of_isAlphanum (by simp [Char.isAlphanum, h])

theorem isPlainChar_of_isNameChar {c : Char} (h : isNameChar c = true) : isPlainChar c = true := by
  rcases Bool.or_eq_true_iff.1 h with alphanumeric | underscore
  · exact isPlainChar_of_isAlphanum alphanumeric
  · rw [beq_iff_eq.1 underscore]
    rfl

theorem isPlainChar_of_isNumberChar {c : Char} (h : isNumberChar c = true) :
    isPlainChar c = true := by
  simp only [isNumberChar, Bool.or_eq_true, beq_iff_eq] at h
  rcases h with ((digit | rfl) | rfl) | rfl
  · exact isPlainChar_of_isDigit digit
  · decide
  · decide
  · decide

/-! ## Names -/

/-- A name written bare consists of letters, digits and underscores. -/
theorem consists_bare {s : String} (h : ¬needsQuoting s = true) : Consists isNameChar s := by
  have identifier : isPlainIdentifier s = true := by
    simp only [needsQuoting, Bool.or_eq_true, not_or, Bool.not_eq_true, Bool.not_eq_false'] at h
    exact h.1
  intro c member
  unfold isPlainIdentifier at identifier
  split at identifier
  · cases identifier
  · rename_i first rest same
    simp only [Bool.and_eq_true, List.all_eq_true] at identifier
    rw [same] at member
    rcases List.mem_cons.1 member with rfl | member
    · rcases Bool.or_eq_true_iff.1 identifier.1 with letter | underscore
      · simp [isNameChar, Char.isAlphanum, letter]
      · simp [isNameChar, underscore]
    · exact identifier.2 c member

/-! ## Digits -/

theorem isDigit_of_mem_decimal {n : Nat} {c : Char} (h : c ∈ Nat.toDigits 10 n) :
    c.isDigit = true :=
  Nat.isDigit_of_mem_toDigits (by decide) (by decide) h

theorem consists_toString_nat (n : Nat) : Consists Char.isDigit (toString n) := by
  rw [Nat.toString_eq_ofList_toDigits]
  exact .ofList fun c member => isDigit_of_mem_decimal member

theorem consists_toString_int (n : Int) : Consists isNumberChar (toString n) := by
  rw [Int.toString_eq_repr]
  cases n with
  | ofNat m => exact (consists_toString_nat m).mono fun _ => isNumberChar_of_isDigit
  | negSucc m =>
    have digits : Consists isNumberChar (m.succ.repr) :=
      (consists_toString_nat m.succ).mono fun _ => isNumberChar_of_isDigit
    exact Consists.append (by decide) digits

theorem consists_padded (width n : Nat) : Consists Char.isDigit (padded width n) := by
  refine .ofList fun c member => ?_
  rcases List.mem_append.1 member with zero | digit
  · rw [List.eq_of_mem_replicate zero]
    rfl
  · exact isDigit_of_mem_decimal digit

/-! ## Numbers -/

namespace Decimal

theorem consists_toText (v : Decimal) : Consists isNumberChar v.toText := by
  have digits : ∀ c ∈ List.replicate (v.scale + 1 - (Nat.toDigits 10 v.mantissa).length) '0' ++
      Nat.toDigits 10 v.mantissa, isNumberChar c = true := by
    intro c member
    rcases List.mem_append.1 member with zero | digit
    · rw [List.eq_of_mem_replicate zero]
      rfl
    · exact isNumberChar_of_isDigit (isDigit_of_mem_decimal digit)
  refine .ofList fun c member => ?_
  rcases List.mem_append.1 member with sign | body
  · split at sign
    · rw [List.mem_singleton.1 sign]
      rfl
    · cases sign
  · split at body
    · exact digits c (List.mem_of_mem_take body)
    · rcases List.mem_append.1 body with whole | fraction
      · exact digits c (List.mem_of_mem_take whole)
      · rcases List.mem_cons.1 fraction with rfl | fraction
        · rfl
        · exact digits c (List.mem_of_mem_drop fraction)

end Decimal

namespace DecimalDigits

theorem isDigit_of_mem_shortest {k : FloatKind} {evenTie : Bool} {significand : Nat}
    {exponent : Int} {c : Char} (h : c ∈ (shortest k evenTie significand exponent).digits) :
    c.isDigit = true := by
  simp only [shortest] at h
  split at h
  · simp only [ofScaled, List.mem_reverse] at h
    exact isDigit_of_mem_decimal (List.mem_reverse.1 ((List.dropWhile_sublist _).subset h))
  · simp only [List.mem_singleton] at h
    rw [h]
    rfl

end DecimalDigits

namespace FloatLayout

/-- The layout of digits adds zeros, a point and an exponent. -/
theorem isNumberChar_of_mem_digits {layout : FloatLayout} {n : DecimalDigits}
    (digits : ∀ c ∈ n.digits, c.isDigit = true) :
    ∀ c ∈ layout.digits n, isNumberChar c = true := by
  have plain : ∀ c ∈ n.digits, isNumberChar c = true := fun c member =>
    isNumberChar_of_isDigit (digits c member)
  have zeros : ∀ m, ∀ c ∈ List.replicate m '0', isNumberChar c = true := fun m c member => by
    rw [List.eq_of_mem_replicate member]
    rfl
  have exponent : ∀ c ∈ (toString (n.point - 1)).toList, isNumberChar c = true :=
    consists_toString_int _
  have point : isNumberChar '.' = true := rfl
  have zero : isNumberChar '0' = true := rfl
  have mark : isNumberChar 'e' = true := rfl
  have tail : ∀ first rest, n.digits = first :: rest →
      isNumberChar first = true ∧ ∀ c ∈ rest, isNumberChar c = true := fun first rest same =>
    List.forall_mem_cons.1 (same ▸ plain)
  unfold FloatLayout.digits
  dsimp only
  split
  · split
    · exact List.forall_mem_cons.2 ⟨zero, List.forall_mem_cons.2 ⟨point,
        List.forall_mem_append.2 ⟨zeros _, plain⟩⟩⟩
    · split
      · have fraction : ∀ c ∈ ['.', '0'], isNumberChar c = true := List.all_eq_true.1 rfl
        exact List.forall_mem_append.2
          ⟨List.forall_mem_append.2 ⟨plain, zeros _⟩, fraction⟩
      · exact List.forall_mem_append.2 ⟨fun c taken => plain c (List.mem_of_mem_take taken),
          List.forall_mem_cons.2 ⟨point, fun c left => plain c (List.mem_of_mem_drop left)⟩⟩
  · split
    · exact List.forall_mem_nil _
    · rename_i first same
      exact List.forall_mem_cons.2 ⟨(tail first [] same).1,
        List.forall_mem_cons.2 ⟨mark, exponent⟩⟩
    · rename_i first rest _ same
      obtain ⟨lead, others⟩ := tail first rest same
      exact List.forall_mem_cons.2 ⟨lead, List.forall_mem_cons.2 ⟨point,
        List.forall_mem_append.2 ⟨others, List.forall_mem_cons.2 ⟨mark, exponent⟩⟩⟩⟩

theorem consists_finite (layout : FloatLayout) (k : FloatKind) (negative : Bool)
    (significand : Nat) (exponent : Int) :
    Consists isNumberChar (layout.finite k negative significand exponent) := by
  refine .ofList fun c member => ?_
  rcases List.mem_append.1 member with sign | body
  · split at sign
    · rw [List.mem_singleton.1 sign]
      rfl
    · cases sign
  · split at body
    · have zero : ∀ c ∈ ['0', '.', '0'], isNumberChar c = true := List.all_eq_true.1 rfl
      exact zero c body
    · exact isNumberChar_of_mem_digits (fun _ => DecimalDigits.isDigit_of_mem_shortest) c body

end FloatLayout

/-! ## Dates, times, identifiers and bytes -/

theorem Date.consists_toCompactText (day : Date) : Consists isPlainChar day.toCompactText := by
  have digits : ∀ width n, Consists isPlainChar (padded width n) := fun width n =>
    (consists_padded width n).mono fun _ => isPlainChar_of_isDigit
  have year : Consists isPlainChar (CivilDate.compactYear day.civil.year) := by
    unfold CivilDate.compactYear
    split
    · exact .append (by decide) (digits _ _)
    · exact digits _ _
  have hyphen : Consists isPlainChar "-" := by decide
  exact year.append (((hyphen.append (digits _ _)).append hyphen).append (digits _ _))

theorem TimeOfDay.consists_toText (t : TimeOfDay) : Consists isPlainChar t.toText := by
  have digits : ∀ width n, Consists isPlainChar (padded width n) := fun width n =>
    (consists_padded width n).mono fun _ => isPlainChar_of_isDigit
  have colon : Consists isPlainChar ":" := by decide
  have clock : Consists isPlainChar t.clockText :=
    ((((digits _ _).append colon).append (digits _ _)).append colon).append (digits _ _)
  have fraction : Consists isPlainChar t.fractionText := by
    refine .ofList fun c member => ?_
    split at member
    · rw [List.mem_singleton.1 member]
      rfl
    · have kept : c ∈ (padded 9 t.nano).toList :=
        List.mem_reverse.1 ((List.dropWhile_sublist _).subset (List.mem_reverse.1 member))
      exact digits 9 t.nano c kept
  exact (clock.append (by decide)).append fraction

namespace Text

theorem isAlphanum_hexDigit :
    ∀ n < 16, (hexDigit n).isAlphanum = true ∧ (hexDigit n).toUpper.isAlphanum = true := by
  decide

/-- The digits of bytes are alphanumeric, in either case. -/
theorem isAlphanum_of_mem_hexOfBytes {bytes : List UInt8} {c : Char}
    (h : c ∈ hexOfBytes bytes) : c.isAlphanum = true ∧ c.toUpper.isAlphanum = true := by
  simp only [hexOfBytes, List.mem_flatMap, List.mem_cons, List.not_mem_nil, or_false] at h
  obtain ⟨b, _, high | low⟩ := h
  · have bound := b.toNat_lt
    rw [high]
    exact isAlphanum_hexDigit _ (by omega)
  · rw [low]
    exact isAlphanum_hexDigit _ (by omega)

end Text

theorem Uuid.consists_toText (u : Uuid) : Consists isPlainChar u.toText := by
  have digits : ∀ c ∈ Text.hexOfBytes u.bytes, isPlainChar c = true := fun c member =>
    isPlainChar_of_isAlphanum (Text.isAlphanum_of_mem_hexOfBytes member).1
  have last : ∀ c ∈ (Text.hexOfBytes u.bytes).drop 20, isPlainChar c = true :=
    fun c member => digits c (List.mem_of_mem_drop member)
  have joined : ∀ n m, ∀ rest : List Char, (∀ c ∈ rest, isPlainChar c = true) →
      ∀ c ∈ ((Text.hexOfBytes u.bytes).drop n).take m ++ '-' :: rest, isPlainChar c = true :=
    fun n m rest others => List.forall_mem_append.2
      ⟨fun c member => digits c (List.mem_of_mem_drop (List.mem_of_mem_take member)),
        List.forall_mem_cons.2 ⟨rfl, others⟩⟩
  exact .ofList (joined 0 8 _ (joined 8 4 _ (joined 12 4 _ (joined 16 4 _ last))))

end EntitySql
