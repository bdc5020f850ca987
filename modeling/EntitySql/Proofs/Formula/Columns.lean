import EntitySql.Proofs.Formula.Reader
import EntitySql.Proofs.Number.Bits
import EntitySql.Proofs.Outcome
import EntitySql.Sql.Expression

/-!
# Formulas of columns

A column that is made of references and integers by operators is written as a text of arithmetic.
The text is told from a formula: that of the column in its scope, where a reference is the column
found for it under the qualifier it is written with (`Column.render_eq_text`).

**Trees.** A dialect with signs for all operators writes a text that reads back as the formula it
was written from, however deep its operands are nested (`Arithmetic.read?_text_signs`). A dialect
with the conjunction of bits only writes an operand in two places; what reads back is the formula
with the other operators derived from the conjunction (`Arithmetic.read?_text_functions`).

**Values.** Deriving keeps the value (`Formula.value_derived`), so both texts have the value of the
formula, whatever integers the columns hold (`Column.render_value`). Qualifiers are written as they
are, so the texts are read as meant only if none of them needs quotes.
-/

namespace EntitySql

set_option autoImplicit false

open Outcome

namespace Formula

/-! ## Texts -/

/-- The text of a formula. -/
def text (d : Dialect) : Formula → String
  | number n => toString n
  | reference qualifier name =>
    (if qualifier = "" then "" else qualifier ++ ".") ++ d.identifier name
  | complement f => d.complement (f.text d)
  | operation op f g => d.binary op (f.text d) (g.text d)

/-- The qualifiers that are written. -/
def qualifiers : Formula → List String
  | number _ => []
  | reference qualifier _ => if qualifier = "" then [] else [qualifier]
  | complement f => f.qualifiers
  | operation _ f g => f.qualifiers ++ g.qualifiers

/-- All operators take two integers to an integer, where they have a value. -/
def isIntegral : Formula → Bool
  | number _ | reference _ _ => true
  | complement f => f.isIntegral
  | operation op f g => !op.isUnary && op != .divide && f.isIntegral && g.isIntegral

/-- The formula without disjunctions and complements of bits. -/
def derived : Formula → Formula
  | number n => number n
  | reference qualifier name => reference qualifier name
  | complement f =>
    operation .subtract (operation .subtract f.derived (number 1))
      (operation .multiply (number 2) (operation .and f.derived (number (-1))))
  | operation .or f g =>
    operation .subtract (operation .add f.derived g.derived) (operation .and f.derived g.derived)
  | operation .xor f g =>
    operation .subtract (operation .add f.derived g.derived)
      (operation .multiply (number 2) (operation .and f.derived g.derived))
  | operation op f g => operation op f.derived g.derived

/-- **Deriving operators from the conjunction keeps the value.** -/
theorem value_derived (assign : String → String → Int) (f : Formula) :
    f.derived.value assign = f.value assign := by
  induction f with
  | number n => rfl
  | reference qualifier name => rfl
  | complement f ih =>
    simp only [derived, value, ih]
    cases f.value assign with
    | none => rfl
    | some m => exact congrArg some (lnot_eq m).symm
  | operation op f g first second =>
    have same : ∀ combine : Int → Int → Option Int,
        ((f.derived.value assign).bind fun m => (g.derived.value assign).bind (combine m)) =
          (f.value assign).bind fun m => (g.value assign).bind (combine m) := by
      intro combine
      rw [first, second]
    cases op with
    | or =>
      simp only [derived, value, first, second]
      cases f.value assign with
      | none => rfl
      | some m =>
        cases g.value assign with
        | none => rfl
        | some n => exact congrArg some (lor_eq m n).symm
    | xor =>
      simp only [derived, value, first, second]
      cases f.value assign with
      | none => rfl
      | some m =>
        cases g.value assign with
        | none => rfl
        | some n => exact congrArg some (xor_eq m n).symm
    | _ => exact same _

end Formula

/-! ## The two languages -/

namespace Arithmetic

/-- All operators have signs. -/
def signs : Arithmetic where
  dialect := .generic
  sign?
    | '|' => some (1, .or)
    | '^' => some (2, .xor)
    | '&' => some (3, .and)
    | '+' => some (4, .add)
    | '-' => some (4, .subtract)
    | '*' => some (5, .multiply)
    | '%' => some (5, .remainder)
    | _ => none
  complements := true
  function? _ := none
  closing := ⟨rfl, rfl⟩

/-- The conjunction of bits and the remainder are functions; there are no other operators of
bits. -/
def functions : Arithmetic where
  dialect := .oracle
  sign?
    | '+' => some (4, .add)
    | '-' => some (4, .subtract)
    | '*' => some (5, .multiply)
    | _ => none
  complements := false
  function? name :=
    if name = "BITAND" then some .and else if name = "MOD" then some .remainder else none
  closing := ⟨rfl, rfl⟩

/-- The value of a text. -/
def value? (a : Arithmetic) (assign : String → String → Int) (text : String) : Option Int :=
  (a.read? text.toList).bind (Formula.value assign)

variable {a : Arithmetic} {f g : Formula} {x y : String}

theorem Operand.integer (n : Int) : a.Operand (toString n).toList (.number n) := by
  refine Operand.numeral (numeral_toString n) fun first => ?_
  have member : '+' ∈ (toString n).toList := List.mem_of_mem_head? first
  exact absurd (consists_toString_int n '+' member) (by decide)

theorem Operand.reference {qualifier : String}
    (legible : qualifier ≠ "" → needsQuoting qualifier = false) (name : String) :
    a.Operand (Formula.text a.dialect (.reference qualifier name)).toList
      (.reference qualifier name) := by
  by_cases bare : qualifier = ""
  · subst bare
    simpa [Formula.text] using Operand.name name
  · simpa [Formula.text, bare] using Operand.qualified (legible bare) name

/-- A sign between operands, in parentheses. -/
theorem Operand.between {symbol : String} {c : Char} {strength : Nat} {op : BitOp}
    (letter : symbol.toList = [c]) (known : a.sign? c = some (strength, op)) (solid : c ≠ ' ')
    (first : a.Operand x.toList f) (second : a.Operand y.toList g) :
    a.Operand (Dialect.between x symbol y).toList (.operation op f g) := by
  have whole := first.group (.sign known solid (Nat.zero_le _) second .nil)
  simpa [Dialect.between, letter] using whole

theorem Operand.callText {function : String} {op : BitOp} (known : a.function? function = some op)
    (bare : needsQuoting function = false) (first : a.Operand x.toList f)
    (second : a.Operand y.toList g) :
    a.Operand (Dialect.call function x y).toList (.operation op f g) := by
  have whole := Operand.call known bare first second
  simpa [Dialect.call] using whole

/-- **Signs write the formula itself.** Every operator stands in parentheses of its own. -/
theorem operand_text_signs : ∀ {f : Formula}, f.isIntegral = true →
    (∀ qualifier ∈ f.qualifiers, needsQuoting qualifier = false) →
      signs.Operand (f.text .generic).toList f
  | .number n, _, _ => Operand.integer n
  | .reference qualifier name, _, legible =>
    Operand.reference (fun given => legible qualifier (by simp [Formula.qualifiers, given])) name
  | .complement f, integral, legible => by
    have inside := operand_text_signs (f := f) integral legible
    have whole := (inside.complement rfl).group .nil
    simpa [Formula.text, Dialect.complement] using whole
  | .operation op f g, integral, legible => by
    simp only [Formula.isIntegral, Bool.and_eq_true] at integral
    obtain ⟨⟨⟨binary, noQuotient⟩, left⟩, right⟩ := integral
    have first := operand_text_signs left fun q member =>
      legible q (List.mem_append_left _ member)
    have second := operand_text_signs right fun q member =>
      legible q (List.mem_append_right _ member)
    cases op with
    | not => cases binary
    | divide => cases noQuotient
    | and => exact .between rfl rfl (by decide) first second
    | or => exact .between rfl rfl (by decide) first second
    | xor => exact .between rfl rfl (by decide) first second
    | add => exact .between rfl rfl (by decide) first second
    | subtract => exact .between rfl rfl (by decide) first second
    | multiply => exact .between rfl rfl (by decide) first second
    | remainder => exact .between rfl rfl (by decide) first second

/-- A product with two is taken from an operand before the difference is. -/
theorem Operand.lessTwice (first : functions.Operand x.toList f)
    (second : functions.Operand y.toList g) :
    functions.Operand ("(" ++ x ++ " - 2 * " ++ y ++ ")").toList
      (.operation .subtract f (.operation .multiply (.number 2) g)) := by
  have product : functions.Continues 5 (.number 2) (' ' :: '*' :: ' ' :: (y.toList ++ []))
      (.operation .multiply (.number 2) g) := .sign rfl (by decide) (Nat.le_refl _) second .nil
  have two : functions.Operand ['2'] (.number 2) := Operand.integer 2
  have whole := first.group (.sign (c := '-') rfl (by decide) (Nat.zero_le _) two product)
  simpa using whole

/-- **Functions write the derived formula.** An operand that is written twice is read twice. -/
theorem operand_text_functions : ∀ {f : Formula}, f.isIntegral = true →
    (∀ qualifier ∈ f.qualifiers, needsQuoting qualifier = false) →
      functions.Operand (f.text .oracle).toList f.derived
  | .number n, _, _ => Operand.integer n
  | .reference qualifier name, _, legible =>
    Operand.reference (fun given => legible qualifier (by simp [Formula.qualifiers, given])) name
  | .complement f, integral, legible => by
    have inside := operand_text_functions (f := f) integral legible
    have before : functions.Operand (Dialect.between (f.text .oracle) "-" "1").toList
        (.operation .subtract f.derived (.number 1)) :=
      .between rfl rfl (by decide) inside (Operand.integer 1)
    have bits : functions.Operand (Dialect.call "BITAND" (f.text .oracle) "-1").toList
        (.operation .and f.derived (.number (-1))) :=
      .callText rfl (by decide) inside (Operand.integer (-1))
    have whole := before.lessTwice bits
    simpa [Formula.text, Dialect.complement, Dialect.between, Dialect.call, Formula.derived]
      using whole
  | .operation op f g, integral, legible => by
    simp only [Formula.isIntegral, Bool.and_eq_true] at integral
    obtain ⟨⟨⟨binary, noQuotient⟩, left⟩, right⟩ := integral
    have first := operand_text_functions left fun q member =>
      legible q (List.mem_append_left _ member)
    have second := operand_text_functions right fun q member =>
      legible q (List.mem_append_right _ member)
    have both : functions.Operand
        (Dialect.call "BITAND" (f.text .oracle) (g.text .oracle)).toList
          (.operation .and f.derived g.derived) := .callText rfl (by decide) first second
    have sum : functions.Operand
        (Dialect.between (f.text .oracle) "+" (g.text .oracle)).toList
          (.operation .add f.derived g.derived) :=
      .between rfl rfl (by decide) first second
    cases op with
    | not => cases binary
    | divide => cases noQuotient
    | and => exact both
    | or =>
      have whole := sum.group (.sign (c := '-') rfl (by decide) (Nat.zero_le _) both .nil)
      simpa [Formula.text, Dialect.binary, Dialect.between, Formula.derived] using whole
    | xor =>
      have whole := sum.lessTwice both
      simpa [Formula.text, Dialect.binary, Dialect.between, Formula.derived] using whole
    | add => exact sum
    | subtract => exact .between rfl rfl (by decide) first second
    | multiply => exact .between rfl rfl (by decide) first second
    | remainder => exact .callText rfl (by decide) first second

/-- **A text in signs reads back as the formula it was written from.** -/
theorem read?_text_signs (integral : f.isIntegral = true)
    (legible : ∀ qualifier ∈ f.qualifiers, needsQuoting qualifier = false) :
    signs.read? (f.text .generic).toList = some f := by
  rw [← List.append_nil (f.text .generic).toList]
  exact read?_append (operand_text_signs integral legible) .nil

/-- **A text in functions reads back as the derived formula.** -/
theorem read?_text_functions (integral : f.isIntegral = true)
    (legible : ∀ qualifier ∈ f.qualifiers, needsQuoting qualifier = false) :
    functions.read? (f.text .oracle).toList = some f.derived := by
  rw [← List.append_nil (f.text .oracle).toList]
  exact read?_append (operand_text_functions integral legible) .nil

end Arithmetic

/-! ## Columns -/

/-- The name that is written for a column: that of the column of the entity where there is one. -/
def Scope.writtenName (s : Scope) (qualifier name : String) : String :=
  match s.columnDef? qualifier name with
  | some column => column.name
  | none => name

namespace Column

/-- The column is an integer in place or names a column, in no function. -/
def isIntegerOperand (c : Column) : Bool :=
  c.function.isNone && !c.raw &&
    match c.literal with
    | some (.int _ (some _)) => true
    | some _ => false
    | none => c.name != "" && c.name != "*"

/-- The column and its second operands are integers in place or name columns, and there is no
quotient. -/
def isArithmetic : Column → Bool
  | ⟨function, qualifier, name, label, value, raw, none⟩ =>
    isIntegerOperand ⟨function, qualifier, name, label, value, raw, none⟩
  | ⟨function, qualifier, name, label, value, raw, some (op, other)⟩ =>
    isIntegerOperand ⟨function, qualifier, name, label, value, raw, none⟩ && op != .divide &&
      (op.isUnary || isArithmetic other)
  termination_by structural c => c

/-- The first operand as a formula. What is no integer in place is a reference, under its qualifier
where that is written. -/
def operandFormula (s : Scope) (c : Column) : Except Error Formula :=
  match c.literal with
  | some (.int _ (some n)) => .ok (.number n.val)
  | _ =>
    (s.qualifierOf c).map fun qualifier =>
      .reference (if s.qualify then qualifier else "") (s.writtenName qualifier c.name)

/-- The formula of a column with its operations. -/
def formula (s : Scope) : Column → Except Error Formula
  | ⟨function, qualifier, name, label, value, raw, none⟩ =>
    operandFormula s ⟨function, qualifier, name, label, value, raw, none⟩
  | ⟨function, qualifier, name, label, value, raw, some (op, other)⟩ => do
    let f ← operandFormula s ⟨function, qualifier, name, label, value, raw, none⟩
    if op.isUnary then return .complement f
    else
      let g ← formula s other
      return .operation op f g
  termination_by structural c => c

variable {s : Scope}

theorem reference_eq_text (d : Dialect) {c : Column} (named : c.isWildcard = false)
    (qualifier : String) :
    c.reference d s qualifier = Formula.text d
      (.reference (if s.qualify then qualifier else "") (s.writtenName qualifier c.name)) := by
  have prefixed : (if s.qualify && qualifier != "" then qualifier ++ "." else "") =
      if (if s.qualify then qualifier else "") = "" then ""
        else (if s.qualify then qualifier else "") ++ "." := by
    by_cases bare : qualifier = "" <;> cases s.qualify <;> simp [bare]
  rw [reference, Formula.text, Scope.writtenName, ← prefixed, named, if_neg Bool.false_ne_true]
  cases s.columnDef? qualifier c.name <;> rfl

theorem base_eq_text (d : Dialect) (s : Scope) {c : Column} (operand : c.isIntegerOperand = true) :
    c.base d s = (c.operandFormula s).map (Formula.text d) := by
  simp only [isIntegerOperand, Bool.and_eq_true, Bool.not_eq_true'] at operand
  obtain ⟨⟨-, plain⟩, content⟩ := operand
  rw [base, plain, if_neg Bool.false_ne_true, operandFormula]
  split at content
  · rename_i literal
    rw [literal]
    rfl
  · cases content
  · rename_i absent
    obtain ⟨given, named⟩ : c.name ≠ "" ∧ c.name ≠ "*" := by simpa using content
    have single : c.isWildcard = false := by simp [isWildcard, named]
    rw [absent]
    dsimp only
    rw [if_neg given]
    cases s.qualifierOf c with
    | error e => rfl
    | ok qualifier => exact congrArg Except.ok (reference_eq_text d single qualifier)

/-- **An arithmetic column is written as the text of its formula,** or fails as the formula does. -/
theorem render_eq_text (d : Dialect) (s : Scope) : ∀ {c : Column}, c.isArithmetic = true →
    c.render d s = (c.formula s).map (Formula.text d)
  | ⟨function, qualifier, name, label, value, raw, none⟩, arithmetic => by
    rw [isArithmetic] at arithmetic
    have plain : function = none := by
      simp only [isIntegerOperand, Bool.and_eq_true, Option.isNone_iff_eq_none] at arithmetic
      exact arithmetic.1.1
    rw [render, formula, base_eq_text d s arithmetic, plain]
    cases operandFormula s _ <;> rfl
  | ⟨function, qualifier, name, label, value, raw, some (op, other)⟩, arithmetic => by
    rw [isArithmetic, Bool.and_eq_true, Bool.and_eq_true, Bool.or_eq_true] at arithmetic
    obtain ⟨⟨operand, -⟩, second⟩ := arithmetic
    have plain : function = none := by
      simp only [isIntegerOperand, Bool.and_eq_true, Option.isNone_iff_eq_none] at operand
      exact operand.1.1
    rw [render, formula, base_eq_text d s operand, plain]
    cases operandFormula s _ with
    | error e => rfl
    | ok f =>
      cases unary : op.isUnary with
      | true =>
        cases beq_iff_eq.1 unary
        rfl
      | false =>
        have later := render_eq_text d s (second.resolve_left (by simp [unary]))
        simp only [Bool.false_eq_true, if_false, later]
        cases formula s other with
        | error e => rfl
        | ok g => cases op <;> rfl

theorem isIntegral_operandFormula {c : Column} {f : Formula}
    (found : c.operandFormula s = .ok f) : f.isIntegral = true := by
  unfold operandFormula at found
  split at found
  · cases found
    rfl
  · obtain ⟨qualifier, -, rfl⟩ := map_eq_ok.1 found
    rfl

/-- The formula of an arithmetic column is integral. -/
theorem isIntegral_formula : ∀ {c : Column} {f : Formula}, c.isArithmetic = true →
    c.formula s = .ok f → f.isIntegral = true
  | ⟨function, qualifier, name, label, value, raw, none⟩, f, _, found => by
    rw [formula] at found
    exact isIntegral_operandFormula found
  | ⟨function, qualifier, name, label, value, raw, some (op, other)⟩, f, arithmetic, found => by
    rw [isArithmetic, Bool.and_eq_true, Bool.and_eq_true, Bool.or_eq_true] at arithmetic
    obtain ⟨⟨-, noQuotient⟩, second⟩ := arithmetic
    rw [formula] at found
    obtain ⟨g, first, found⟩ := bind_eq_ok.1 found
    have left := isIntegral_operandFormula first
    split at found
    · cases found
      exact left
    · rename_i binary
      obtain ⟨h, later, same⟩ := bind_eq_ok.1 found
      cases same
      have right := isIntegral_formula (second.resolve_left binary) later
      simp [Formula.isIntegral, left, right, noQuotient, binary]

/-- **Both languages write the value of the expression.** The texts of an arithmetic column have the
value of its formula in either language, whatever integers the columns hold, if no qualifier that is
written needs quotes; if the formula fails, so do the texts, for the same reason. A column with a
qualifier is read as what it is exactly when the qualifier needs no quotes. -/
theorem render_value (assign : String → String → Int) {c : Column}
    (arithmetic : c.isArithmetic = true) :
    ((∀ f, c.formula s = .ok f → ∀ qualifier ∈ f.qualifiers, needsQuoting qualifier = false) →
      (c.render .oracle s).map (Arithmetic.functions.value? assign) =
          (c.render .generic s).map (Arithmetic.signs.value? assign) ∧
        (c.render .generic s).map (Arithmetic.signs.value? assign) =
          (c.formula s).map (Formula.value assign)) ∧
    ∀ qualifier name : String, qualifier ≠ "" →
      (Arithmetic.signs.read? (Formula.text .generic (.reference qualifier name)).toList =
          some (.reference qualifier name) ↔ needsQuoting qualifier = false) ∧
      (Arithmetic.functions.read? (Formula.text .oracle (.reference qualifier name)).toList =
          some (.reference qualifier name) ↔ needsQuoting qualifier = false) := by
  refine ⟨fun legible => ?_, fun qualifier name given => ?_⟩
  · rw [render_eq_text .oracle s arithmetic, render_eq_text .generic s arithmetic]
    cases found : c.formula s with
    | error e => exact ⟨rfl, rfl⟩
    | ok f =>
      have integral := isIntegral_formula arithmetic found
      have inSigns : Arithmetic.signs.value? assign (f.text .generic) = f.value assign := by
        rw [Arithmetic.value?, Arithmetic.read?_text_signs integral (legible f found)]
        rfl
      have inFunctions : Arithmetic.functions.value? assign (f.text .oracle) = f.value assign := by
        rw [Arithmetic.value?, Arithmetic.read?_text_functions integral (legible f found)]
        exact f.value_derived assign
      exact ⟨congrArg Except.ok (inFunctions.trans inSigns.symm), congrArg Except.ok inSigns⟩
  · have text : ∀ d, (Formula.text d (.reference qualifier name)).toList =
        qualifier.toList ++ '.' :: (d.identifier name).toList := by
      intro d
      simp [Formula.text, given]
    rw [text, text]
    exact ⟨Arithmetic.signs.read?_qualified_iff given name,
      Arithmetic.functions.read?_qualified_iff given name⟩

/-- The scope of a query on one table under an alias. -/
def aliasScope (aliasName : String) : Scope := ⟨[⟨aliasName, none⟩], [], true, true, false⟩

/-- Exclusive disjunction of a column and a disjunction: a negative integer, and the complement of a
column whose name is reserved. -/
def flagsColumn : Column :=
  { ofName "AGE" with
    operation := some (.xor, { ofLiteral (.int .int32 (some ⟨-5, by decide, by decide⟩)) with
      operation := some (.or, { ofName "ORDER" with operation := some (.not, default) }) }) }

theorem render_value_flags :
    (flagsColumn.render .oracle (aliasScope "u")).map (Arithmetic.functions.value? fun _ name =>
      if name = "AGE" then 29 else -100) = .ok (some (-26)) := by
  have same := (render_value (fun _ name => if name = "AGE" then 29 else -100)
    (s := aliasScope "u") (c := flagsColumn) rfl).1 (by
      rintro f ⟨⟩
      decide)
  have found : flagsColumn.formula (aliasScope "u") =
      .ok (.operation .xor (.reference "u" "AGE")
        (.operation .or (.number (-5)) (.complement (.reference "u" "ORDER")))) := rfl
  rw [same.1, same.2, found]
  exact congrArg Except.ok (by decide +kernel)

/-- The complement of a column of a table under an alias with a hyphen. The alias is read as the
difference of a column and a table, so the two texts have different values, and neither has that of
the expression. -/
theorem render_value_hyphen :
    let c : Column := { ofName "AGE" with operation := some (.not, default) }
    let assign : String → String → Int := fun qualifier name =>
      if qualifier = "old-users" then 40 else if name = "old" then 10 else 3
    c.isArithmetic = true ∧
      c.render .generic (aliasScope "old-users") = .ok "(~old-users.AGE)" ∧
      c.render .oracle (aliasScope "old-users") =
        .ok "((old-users.AGE - 1) - 2 * BITAND(old-users.AGE, -1))" ∧
      Arithmetic.signs.value? assign "(~old-users.AGE)" = some (-14) ∧
      Arithmetic.functions.value? assign
        "((old-users.AGE - 1) - 2 * BITAND(old-users.AGE, -1))" = some (-8) ∧
      (c.formula (aliasScope "old-users")).map (Formula.value assign) = .ok (some (-41)) := by
  refine ⟨rfl, rfl, rfl, ?_, ?_, ?_⟩
  · decide +kernel
  · decide +kernel
  · rfl

end Column

end EntitySql
