import EntitySql.Proofs.Marshal.Carriers

/-!
# Integers between kinds

Coercion to a kind of integers looks at the number that a value is, not at the kind it has. Integers
of all kinds are numbers, and so are decimals; a decimal is an integer if nothing but zeros stands
after its point. No other value but a text is one (`Value.Denotes`).

A value is coerced exactly when it is an integer in the range of the kind, and the result is the
same integer. So an integer may take a way through other kinds: if it fits there, it arrives as it
would have arrived without them (`coerce_integer_iff`).
-/

namespace EntitySql

set_option autoImplicit false

/-- The decimal is an integer: its digits are those of the integer with zeros behind them. -/
theorem Decimal.signedMantissa_eq_iff {d : Decimal} {n : Int} :
    d.signedMantissa = n * tenTo d.scale ↔ d.isInteger = true ∧ d.truncated = n := by
  have positive : (tenTo d.scale : Int) ≠ 0 :=
    Int.natCast_ne_zero.2 (Nat.ne_of_gt (tenTo_pos d.scale))
  have size : d.signedMantissa.natAbs = d.mantissa := by
    rw [signedMantissa]
    cases d.negative <;> simp
  have divides : d.isInteger = true ↔ (tenTo d.scale : Int) ∣ d.signedMantissa := by
    rw [isInteger, beq_iff_eq, ← Nat.dvd_iff_mod_eq_zero, Int.ofNat_dvd_left, size]
  rw [divides, d.truncated_eq_tdiv]
  constructor
  · intro whole
    rw [whole]
    exact ⟨Int.dvd_mul_left _ _, Int.mul_tdiv_cancel n positive⟩
  · rintro ⟨whole, rfl⟩
    exact (Int.tdiv_mul_cancel whole).symm

namespace Value

variable {v w : Value} {m n : Int}

/-- The value is the integer, as an integer of some kind or as a decimal. -/
inductive Denotes : Value → Int → Prop
  | int {k : IntKind} (n : FixedInt k) : Denotes (.int k (some n)) n.val
  | decimal {d : Decimal} {n : Int} (precision scale : Nat)
      (whole : d.signedMantissa = n * tenTo d.scale) : Denotes (.decimal (some d) precision scale) n

/-- The integer that a value is. -/
def integer? : Value → Option Int
  | .int _ (some n) => some n.val
  | .decimal (some d) _ _ => if d.isInteger then some d.truncated else none
  | _ => none

theorem integer?_eq_some_iff : v.integer? = some n ↔ v.Denotes n := by
  constructor
  · intro found
    unfold integer? at found
    split at found
    · cases found
      exact .int _
    · split at found
      · next whole =>
        exact .decimal _ _ (Decimal.signedMantissa_eq_iff.2 ⟨whole, Option.some.inj found⟩)
      · cases found
    · cases found
  · rintro (n | ⟨p, s, whole⟩)
    · rfl
    · obtain ⟨integer, rfl⟩ := Decimal.signedMantissa_eq_iff.1 whole
      exact if_pos integer

/-- A value is one integer at most. -/
theorem Denotes.unique (first : v.Denotes m) (second : v.Denotes n) : m = n :=
  Option.some.inj ((integer?_eq_some_iff.2 first).symm.trans (integer?_eq_some_iff.2 second))

end Value

/-- A number that may be missing is a result if it is there, and the failure otherwise. -/
theorem Primitive.orFail_eq_ok {α : Type} {e : Error} {found : Option α} {a : α} :
    orFail e found = .ok a ↔ found = some a := by
  cases found with
  | none => exact ⟨nofun, nofun⟩
  | some b =>
    refine ⟨fun same => congrArg some (Except.ok.inj same), ?_⟩
    rintro ⟨⟩
    rfl

theorem Primitive.orFail_eq_error {α : Type} {e e' : Error} {found : Option α} :
    orFail e found = .error e' ↔ found = none ∧ e' = e := by
  cases found with
  | none =>
    refine ⟨fun same => ⟨rfl, (Except.error.inj same).symm⟩, ?_⟩
    rintro ⟨-, rfl⟩
    rfl
  | some b => exact ⟨nofun, nofun⟩

theorem FixedInt.exists_ofInt?_iff {k : IntKind} {n : Int} :
    (∃ m, FixedInt.ofInt? k n = some m) ↔ k.min ≤ n ∧ n ≤ k.max := by
  constructor
  · rintro ⟨m, same⟩
    exact FixedInt.ofInt?_eq_some_iff.1 same ▸ ⟨m.min_le, m.le_max⟩
  · exact fun inRange => ⟨_, dif_pos inRange⟩

/-! ## Coercion -/

variable {v w : Value} {k : IntKind} {c : Option (FixedInt k)}

/-- Coercion of a value that is no text looks for its integer first and for the range then. -/
theorem coerce_int_eq (content : v.isNull = false) (notText : v.text? = none)
    (c : Option (FixedInt k)) :
    coerce (.int k c) v = (Primitive.orFail (.ofValue v (Primitive.int k).name)
      (v.integer?.bind (FixedInt.ofInt? k))).map fun n => .int k (some n) := by
  have via : coerce (.int k c) v = coerceVia (.int k) v := by
    rw [coerce.eq_def]
    exact if_neg (Bool.eq_false_iff.1 content)
  rw [via]
  refine congrArg (Except.map _) ?_
  show Primitive.intOfValue k v = _
  cases v with
  | int l n =>
    cases n with
    | none => cases content
    | some n => rfl
  | decimal d p s =>
    cases d with
    | none => cases content
    | some d =>
      show Primitive.orFail _ (if d.isInteger = true then FixedInt.ofInt? k d.truncated else none) =
        Primitive.orFail _ ((if d.isInteger = true then some d.truncated else none).bind _)
      split <;> rfl
  | varchar s =>
    cases notText
    cases content
  | unknown s =>
    cases notText
    cases content
  | _ => rfl

/-- **The result is the integer that the value is.** -/
theorem coerce_int_eq_ok_iff (content : v.isNull = false) (notText : v.text? = none) :
    coerce (.int k c) v = .ok w ↔ ∃ n : FixedInt k, v.Denotes n.val ∧ w = .int k (some n) := by
  rw [coerce_int_eq content notText, Outcome.map_eq_ok]
  refine exists_congr fun n => and_congr ?_ eq_comm
  rw [Primitive.orFail_eq_ok, Option.bind_eq_some_iff]
  simp only [FixedInt.ofInt?_eq_some_iff, Value.integer?_eq_some_iff, exists_eq_right']

/-- **Coercion fails for lack of an integer in the range,** and names the value. -/
theorem coerce_int_eq_error_iff (content : v.isNull = false) (notText : v.text? = none)
    {e : Error} :
    coerce (.int k c) v = .error e ↔
      (∀ n, v.Denotes n → ¬(k.min ≤ n ∧ n ≤ k.max)) ∧ e = .ofValue v (Primitive.int k).name := by
  rw [coerce_int_eq content notText, Outcome.map_eq_error, Primitive.orFail_eq_error,
    Option.bind_eq_none_iff]
  refine and_congr_left' (forall_congr' fun n => ?_)
  rw [Value.integer?_eq_some_iff, ← FixedInt.exists_ofInt?_iff]
  simp [Option.eq_none_iff_forall_ne_some]

/-- **A value that is no text is coerced to a kind of integers exactly when it is an integer in the
range of the kind,** whatever its own kind. The result is the same integer; every failure names the
value and the kind, and values that are neither integers nor decimals always fail. A value that has
been coerced to another kind of integers before is coerced as it would be without that. -/
theorem coerce_integer_iff (content : v.isNull = false) (notText : v.text? = none) (k : IntKind)
    (c : Option (FixedInt k)) :
    ((∃ w, coerce (.int k c) v = .ok w) ↔ ∃ n, v.Denotes n ∧ k.min ≤ n ∧ n ≤ k.max) ∧
      (∀ w, coerce (.int k c) v = .ok w →
        ∃ n, v.Denotes n ∧ w.Denotes n ∧ w.prototype = .int k none) ∧
      (∀ e, coerce (.int k c) v = .error e → e = .ofValue v (Primitive.int k).name) ∧
      ((∀ l n, v ≠ .int l n) → (∀ d p s, v ≠ .decimal d p s) →
        coerce (.int k c) v = .error (.ofValue v (Primitive.int k).name)) ∧
      ∀ (l : IntKind) (b : Option (FixedInt l)) (u : Value), coerce (.int l b) v = .ok u →
        ∀ w, coerce (.int k c) u = .ok w ↔ coerce (.int k c) v = .ok w := by
  refine ⟨?_, fun w result => ?_, fun e failed => ?_, fun noInteger noDecimal => ?_,
    fun l b u before w => ?_⟩
  · constructor
    · rintro ⟨w, result⟩
      obtain ⟨n, number, -⟩ := (coerce_int_eq_ok_iff content notText).1 result
      exact ⟨n.val, number, n.min_le, n.le_max⟩
    · rintro ⟨n, number, inRange⟩
      exact ⟨_, (coerce_int_eq_ok_iff content notText).2 ⟨⟨n, inRange.1, inRange.2⟩, number, rfl⟩⟩
  · obtain ⟨n, number, rfl⟩ := (coerce_int_eq_ok_iff content notText).1 result
    exact ⟨n.val, number, .int n, rfl⟩
  · exact ((coerce_int_eq_error_iff content notText).1 failed).2
  · refine (coerce_int_eq_error_iff content notText).2 ⟨fun n number => ?_, rfl⟩
    cases number with
    | int n => exact absurd rfl (noInteger _ _)
    | decimal p s _ => exact absurd rfl (noDecimal _ _ _)
  · obtain ⟨m, number, rfl⟩ := (coerce_int_eq_ok_iff content notText).1 before
    rw [coerce_int_eq_ok_iff rfl rfl, coerce_int_eq_ok_iff content notText]
    -- Both are the one integer `m`, so each is `n` exactly when `m` is.
    refine exists_congr fun n => and_congr_left' ⟨fun same => ?_, fun same => ?_⟩
    · exact (Value.Denotes.int m).unique same ▸ number
    · exact number.unique same ▸ .int m

/-- Forty-two with two zeros after the point. -/
def wholePrice : Value := .decimal (some ⟨false, 4200, 2, by decide, by decide⟩) 10 2

theorem coerce_integer_iff_wholePrice :
    wholePrice.Denotes 42 ∧
      (∃ w, coerce (.int .uint8 none) wholePrice = .ok w) ∧
      coerce (.int .uint8 none) (.int .int16 (some ⟨42, by decide, by decide⟩)) =
        .ok (.int .uint8 (some ⟨42, by decide, by decide⟩)) := by
  have number : wholePrice.Denotes 42 := .decimal _ _ rfl
  obtain ⟨accepts, -, -, -, through⟩ :=
    coerce_integer_iff (v := wholePrice) rfl rfl .uint8 none
  exact ⟨number, accepts.2 ⟨42, number, by decide, by decide⟩, (through .int16 none _ rfl _).2 rfl⟩

end EntitySql
