import EntitySql.Proofs.Code.Expressions
import EntitySql.Proofs.Number.Digits
import EntitySql.Proofs.Value.Prototypes

/-!
# Values denoted by expressions

The expression that a value is written as evaluates to what is left of the value without its
contents (`Value.evaluate?_expression`). Tokens spell one expression at most; so what a value is
written as denotes this and nothing else (`denotes_prototypeTokens_iff`), and values are written
alike exactly when they are of the same type (`prototypeTokens_eq_iff`).

**Evaluation.** Paths from the root of all names lead into the library. `None` and `Box` are known
everywhere, and no other name hides them.
-/

namespace EntitySql

set_option autoImplicit false

open Code

/-! ## Evaluation -/

/-- What an expression stands for. -/
inductive Meaning where
  | value (v : Value)
  /-- The absent content of any kind. -/
  | absent
  | byte (n : Nat)
  | boxed (v : Value)

/-- The variants of values that hold one optional content, by name, without it. -/
def contentVariants : List (String × Value) :=
  [("Boolean", .boolean none), ("Int8", .int .int8 none), ("Int16", .int .int16 none),
    ("Int32", .int .int32 none), ("Int64", .int .int64 none), ("UInt8", .int .uint8 none),
    ("UInt16", .int .uint16 none), ("UInt32", .int .uint32 none), ("UInt64", .int .uint64 none),
    ("Float32", .float .float32 none), ("Float64", .float .float64 none), ("Char", .char none),
    ("Varchar", .varchar none), ("Blob", .blob none), ("Date", .date none), ("Time", .time none),
    ("Timestamp", .timestamp none), ("TimestampWithTimezone", .zoned none), ("Uuid", .uuid none),
    ("Unknown", .unknown none)]

/-- The number that a literal with the suffix of bytes writes. -/
def byteLiteral? (written : String) : Option Nat :=
  match readNat 0 0 written.toList with
  | (n, _ + 1, ['u', '8']) => some n
  | _ => none

namespace Code.Expression

/-- What a path stands for. -/
def constant? (p : CodePath) : Option Meaning :=
  match p.rooted, p.names with
  | false, ["None"] => some .absent
  | true, ["tabula", "Value", "Null"] => some (.value .null)
  | _, _ => none

/-- What a path yields that is called. -/
def applied? (f : CodePath) (arguments : List Meaning) : Option Meaning :=
  match f.rooted, f.names, arguments with
  | false, ["Box", "new"], [.value v] => some (.boxed v)
  | true, ["tabula", "Value", "Decimal"], [.absent, .byte precision, .byte scale] =>
    some (.value (.decimal none precision scale))
  | true, ["tabula", "Value", "List"], [.absent, .boxed element] =>
    some (.value (.list none element))
  | true, ["tabula", "Value", variant], [.absent] => (contentVariants.lookup variant).map .value
  | _, _, _ => none

mutual
/-- What the expression stands for. -/
def evaluate? : Expression → Option Meaning
  | literal written => (byteLiteral? written).map .byte
  | path p => constant? p
  | call f arguments => (evaluateAll? arguments).bind (applied? f)
  termination_by structural e => e

/-- What each of the expressions stands for. -/
def evaluateAll? : List Expression → Option (List Meaning)
  | [] => some []
  | e :: es => e.evaluate?.bind fun m => (evaluateAll? es).map (m :: ·)
  termination_by structural es => es
end

mutual
/-- The literals of bytes in the expression are below 256. -/
def InRange : Expression → Prop
  | literal written => ∀ n, byteLiteral? written = some n → n < 256
  | path _ => True
  | call _ arguments => AreInRange arguments
  termination_by structural e => e

/-- So are those in all the expressions. -/
def AreInRange : List Expression → Prop
  | [] => True
  | e :: es => e.InRange ∧ AreInRange es
  termination_by structural es => es
end

end Code.Expression

/-- The tokens are an expression that stands for the value. -/
def Code.Denotes (ts : List Token) (v : Value) : Prop :=
  ∃ e : Expression, e.IsWritten ∧ e.tokens = ts ∧ e.InRange ∧ e.evaluate? = some (.value v)

theorem byteLiteral?_toString (n : Nat) : byteLiteral? (toString n ++ "u8") = some n := by
  have text : (toString n ++ "u8").toList = Nat.toDigits 10 n ++ ['u', '8'] := by
    rw [String.toList_append]
    exact congrArg (· ++ ['u', '8']) Nat.toList_repr
  have read := readNat_append (areDigits_toDigits n) ['u', '8'] (by rintro _ ⟨⟩; rfl) 0 0
  obtain ⟨count, length⟩ := Nat.exists_eq_succ_of_ne_zero
    (mt List.length_eq_zero_iff.1 (Nat.toDigits_ne_nil (b := 10) (n := n)))
  rw [Nat.ofDigitChars_ten_toDigits, length, Nat.zero_add] at read
  rw [byteLiteral?, text, read]
  rfl

/-! ## Written values -/

/-- A path of the library, from the root of all names. -/
def libraryPath (names : List String) : CodePath :=
  { CodePath.ofNames ("tabula" :: names) with rooted := true }

theorem tokens_libraryPath (names : List String) :
    (libraryPath names).tokens = libraryTokens names :=
  congrArg (Token.mark "::" :: ·) (segmentTokens_ofNames ("tabula" :: names))

theorem tokens_ofNames (names : List String) :
    (CodePath.ofNames names).tokens = pathTokens names :=
  segmentTokens_ofNames names

namespace Value

/-- The expression for the prototype of a value. -/
def expression : Value → Expression
  | null => .path (libraryPath ["Value", "Null"])
  | decimal _ precision scale =>
    .call (libraryPath ["Value", "Decimal"])
      [.path (.ofNames ["None"]), .literal (toString precision ++ "u8"),
        .literal (toString scale ++ "u8")]
  | list _ element =>
    .call (libraryPath ["Value", "List"])
      [.path (.ofNames ["None"]), .call (.ofNames ["Box", "new"]) [element.expression]]
  | v => .call (libraryPath ["Value", v.kindName]) [.path (.ofNames ["None"])]

theorem tokens_expression (v : Value) : v.expression.tokens = v.prototypeTokens := by
  cases v with
  | null => exact tokens_libraryPath _
  | list items element =>
    rw [prototypeTokens, ← tokens_expression element]
    simp only [expression, Expression.tokens, Expression.allTokens, tokens_libraryPath,
      tokens_ofNames]
    rfl
  | _ =>
    simp only [expression, Expression.tokens, Expression.allTokens, tokens_libraryPath,
      tokens_ofNames]
    rfl

theorem isWritten_expression (v : Value) : v.expression.IsWritten := by
  have library (names : List String) : (libraryPath names).IsBare :=
    isBare_ofNames (List.cons_ne_nil _ _) true
  have unrooted (name : String) (names : List String) :
      (CodePath.ofNames (name :: names)).IsBare :=
    isBare_ofNames (List.cons_ne_nil name names) false
  cases v with
  | null => exact library _
  | list items element =>
    have boxed : (Expression.call (.ofNames ["Box", "new"]) [element.expression]).IsWritten :=
      ⟨unrooted _ _, isWritten_expression element, trivial⟩
    exact ⟨library _, unrooted _ _, boxed, trivial⟩
  | decimal => exact ⟨library _, unrooted _ _, trivial, trivial, trivial⟩
  | _ => exact ⟨library _, unrooted _ _, trivial⟩

/-- What is written is in range as the digits of the value are. -/
theorem inRange_expression (v : Value) : v.expression.InRange ↔ v.DigitsFit := by
  cases v with
  | null => exact Iff.rfl
  | list items element =>
    simp only [expression, Expression.InRange, Expression.AreInRange, true_and, and_true,
      inRange_expression element, DigitsFit]
  | decimal content precision scale =>
    simp only [expression, Expression.InRange, Expression.AreInRange, true_and, and_true,
      byteLiteral?_toString, Option.some.injEq, forall_eq', DigitsFit]
  | _ =>
    simp only [expression, Expression.InRange, Expression.AreInRange, true_and, DigitsFit]

/-- **What a value is written as** evaluates to it without its contents. -/
theorem evaluate?_expression (v : Value) : v.expression.evaluate? = some (.value v.bare) := by
  cases v with
  | list items element =>
    simp only [expression, Expression.evaluate?, Expression.evaluateAll?,
      evaluate?_expression element]
    rfl
  | decimal content precision scale =>
    simp only [expression, Expression.evaluate?, Expression.evaluateAll?, byteLiteral?_toString]
    rfl
  | int k _ => cases k <;> rfl
  | float k _ => cases k <;> rfl
  | _ => rfl

end Value

variable {v w : Value}

/-- **What a value is written as stands for the value without its contents** and for nothing else,
if its digits are numbers of eight bits. -/
theorem denotes_prototypeTokens_iff :
    Denotes v.prototypeTokens w ↔ v.DigitsFit ∧ w = v.bare := by
  constructor
  · rintro ⟨e, written, spelled, inRange, value⟩
    rw [← v.tokens_expression] at spelled
    obtain rfl := Expression.eq_of_tokens written v.isWritten_expression spelled
    rw [v.evaluate?_expression] at value
    cases value
    exact ⟨v.inRange_expression.1 inRange, rfl⟩
  · rintro ⟨fits, rfl⟩
    exact ⟨v.expression, v.isWritten_expression, v.tokens_expression, v.inRange_expression.2 fits,
      v.evaluate?_expression⟩

/-- Contents are not written. -/
theorem prototypeTokens_bare (v : Value) : v.bare.prototypeTokens = v.prototypeTokens := by
  cases v with
  | list items element =>
    rw [Value.bare, Value.prototypeTokens, Value.prototypeTokens, prototypeTokens_bare element]
  | _ => rfl

/-- **Values are written alike** exactly when they are of the same type. -/
theorem prototypeTokens_eq_iff :
    v.prototypeTokens = w.prototypeTokens ↔ v.sameType w = true := by
  rw [Value.sameType_iff_bare]
  constructor
  · intro same
    rw [← v.tokens_expression, ← w.tokens_expression] at same
    have expressions :=
      Expression.eq_of_tokens v.isWritten_expression w.isWritten_expression same
    have values := v.evaluate?_expression
    rw [expressions, w.evaluate?_expression] at values
    exact (Meaning.value.inj (Option.some.inj values)).symm
  · intro same
    rw [← prototypeTokens_bare, same, prototypeTokens_bare]

end EntitySql
