import EntitySql.BitOp
import EntitySql.Proofs.Number.Digits
import EntitySql.Proofs.Text.IdentifierTokens
import Mathlib.Data.Int.Bitwise

/-!
# Reading formulas

An arithmetic text is read by the rules of its language: numbers, names with at most one qualifier,
functions of two operands, and parentheses are operands; the signs before an operand belong to it;
of the signs between operands the stronger ones come first, and equal ones from the left. Two minus
signs in a row are refused, since they start a comment. The reader knows nothing of the tree a text
was written from.

Languages differ in their signs and functions (`Arithmetic`). One has signs for bits and remainders,
the other has functions for the conjunction of bits and for remainders and no more.

A text is an operand if the reader takes it as one before a blank, a comma, a closing parenthesis or
the end (`Arithmetic.Operand`), and it continues a formula if the reader goes on through it there
(`Arithmetic.Continues`). Each rule of the language is one lemma about these.
-/

namespace EntitySql

set_option autoImplicit false

/-! ## Formulas -/

/-- A formula of integers and columns that hold integers. -/
inductive Formula where
  | number (n : Int)
  /-- A column; the qualifier is empty when there is none. -/
  | reference (qualifier name : String)
  | complement (f : Formula)
  | operation (op : BitOp) (f g : Formula)
deriving DecidableEq

/-- The integer that an operator makes of two. Bits are those of two's complement without end. The
remainder has the sign of the dividend; there is none for zero. Quotients are no integers. -/
def BitOp.combine : BitOp → Int → Int → Option Int
  | and, m, n => some (m.land n)
  | or, m, n => some (m.lor n)
  | xor, m, n => some (m.xor n)
  | add, m, n => some (m + n)
  | subtract, m, n => some (m - n)
  | multiply, m, n => some (m * n)
  | remainder, m, n => if n = 0 then none else some (m.tmod n)
  | not, _, _ | divide, _, _ => none

namespace Formula

/-- The value where the columns hold the given integers. -/
def value (assign : String → String → Int) : Formula → Option Int
  | number n => some n
  | reference qualifier name => some (assign qualifier name)
  | complement f => (f.value assign).map Int.lnot
  | operation op f g => (f.value assign).bind fun m => (g.value assign).bind (op.combine m)

/-- The formula after a minus sign. -/
def negated : Formula → Formula
  | number n => number (-n)
  | f => operation .subtract (number 0) f

end Formula

/-! ## The reader -/

/-- A language of arithmetic. -/
structure Arithmetic where
  /-- The dialect of its identifiers. -/
  dialect : Dialect
  /-- The strength and the operator of a sign between operands. -/
  sign? : Char → Option (Nat × BitOp)
  /-- There is a sign for complements. -/
  complements : Bool
  /-- The operator of a function. -/
  function? : String → Option BitOp
  /-- What ends an operand is no sign. -/
  closing : sign? ',' = none ∧ sign? ')' = none

namespace Arithmetic

variable {a : Arithmetic}

mutual
/-- Reads the operand that a text starts with. The fuel is spent on each call. -/
def readOperand (a : Arithmetic) : Nat → List Char → Option (Formula × List Char)
  | 0, _ => none
  | _ + 1, [] => none
  | fuel + 1, c :: inside =>
    if c = ' ' then a.readOperand fuel inside
    else if c = '(' then
      match a.readFrom fuel 0 inside with
      | some (f, ')' :: rest) => some (f, rest)
      | _ => none
    else if c = '-' then
      if inside.head? = some '-' then none
      else (a.readOperand fuel inside).map fun (f, rest) => (f.negated, rest)
    else if c = '~' then
      if a.complements then
        (a.readOperand fuel inside).map fun (f, rest) => (.complement f, rest)
      else none
    else if c.isDigit then
      let (n, _, rest) := readNat 0 0 (c :: inside)
      some (.number n, rest)
    else a.readName fuel (c :: inside)

/-- Reads the column or the function of two operands that a text starts with. -/
def readName (a : Arithmetic) : Nat → List Char → Option (Formula × List Char)
  | 0, _ => none
  | fuel + 1, cs =>
    match a.dialect.readIdentifier? cs with
    | none => none
    | some (qualifier, '.' :: rest) =>
      (a.dialect.readIdentifier? rest).map fun (name, rest) => (.reference qualifier name, rest)
    | some (function, '(' :: rest) =>
      match a.function? function, a.readFrom fuel 0 rest with
      | some op, some (f, ',' :: rest) =>
        match a.readFrom fuel 0 rest with
        | some (g, ')' :: rest) => some (.operation op f g, rest)
        | _ => none
      | _, _ => none
    | some (name, rest) => some (.reference "" name, rest)

/-- Reads an operand and goes on with the signs that are strong enough. -/
def readFrom (a : Arithmetic) : Nat → Nat → List Char → Option (Formula × List Char)
  | 0, _, _ => none
  | fuel + 1, least, cs => (a.readOperand fuel cs).bind fun (f, rest) => a.goOn fuel least f rest

/-- Goes on after a formula with the signs that are strong enough. -/
def goOn (a : Arithmetic) : Nat → Nat → Formula → List Char → Option (Formula × List Char)
  | 0, _, _, _ => none
  | _ + 1, _, f, [] => some (f, [])
  | fuel + 1, least, f, c :: rest =>
    if c = ' ' then a.goOn fuel least f rest
    else
      match a.sign? c with
      | none => some (f, c :: rest)
      | some (strength, op) =>
        if strength < least then some (f, c :: rest)
        else if c = '-' ∧ rest.head? = some '-' then none
        else
          (a.readFrom fuel (strength + 1) rest).bind fun (g, rest) =>
            a.goOn fuel least (.operation op f g) rest
end

/-- The formula that a text is. -/
def read? (a : Arithmetic) (cs : List Char) : Option Formula :=
  match a.readFrom (2 * cs.length + 2) 0 cs with
  | some (f, []) => some f
  | _ => none

/-! ## Operands and what continues a formula -/

/-- A formula ends there. -/
def endsFormula (rest : List Char) : Bool := rest.head?.all [',', ')'].contains

/-- An operand ends there. -/
def endsOperand (rest : List Char) : Bool := rest.head?.all [' ', ',', ')'].contains

theorem endsOperand_of_endsFormula {rest : List Char} (ends : endsFormula rest = true) :
    endsOperand rest = true := by
  cases rest with
  | nil => rfl
  | cons c rest =>
    have closing : c = ',' ∨ c = ')' := by simpa [endsFormula] using ends
    rcases closing with rfl | rfl <;> rfl

/-- It ends with the text, or before a space, a comma or a closing parenthesis. -/
theorem eq_of_endsOperand {rest : List Char} (ends : endsOperand rest = true) :
    rest = [] ∨ ∃ c later, rest = c :: later ∧ (c = ' ' ∨ c = ',' ∨ c = ')') := by
  cases rest with
  | nil => exact .inl rfl
  | cons c later => exact .inr ⟨c, later, rfl, by simpa [endsOperand] using ends⟩

theorem opensApart_of_endsOperand {rest : List Char} (ends : endsOperand rest = true) :
    opensApart rest = true := by
  rcases eq_of_endsOperand ends with rfl | ⟨c, later, rfl, rfl | rfl | rfl⟩ <;> rfl

/-- The reader takes the text as the operand, with nothing of what follows. -/
structure Operand (a : Arithmetic) (cs : List Char) (f : Formula) : Prop where
  reads : ∀ {rest : List Char} {fuel : Nat}, endsOperand rest = true →
    2 * (cs ++ rest).length < fuel → a.readOperand fuel (cs ++ rest) = some (f, rest)

/-- After one formula the reader goes on through the text and has another one, with nothing of
what follows. -/
structure Continues (a : Arithmetic) (least : Nat) (f : Formula) (cs : List Char) (g : Formula) :
    Prop where
  apart : ∀ {rest : List Char}, endsFormula rest = true → endsOperand (cs ++ rest) = true
  reads : ∀ {rest : List Char} {fuel : Nat}, endsFormula rest = true →
    2 * (cs ++ rest).length < fuel → a.goOn fuel least f (cs ++ rest) = some (g, rest)

/-- A formula that ends is read. -/
theorem Continues.nil {least : Nat} {f : Formula} : a.Continues least f [] f where
  apart := endsOperand_of_endsFormula
  reads {rest fuel} ends enough := by
    obtain ⟨fuel, rfl⟩ := Nat.exists_eq_succ_of_ne_zero (Nat.ne_zero_of_lt enough)
    cases rest with
    | nil => rfl
    | cons c rest =>
      have closing : c = ',' ∨ c = ')' := by simpa [endsFormula] using ends
      rcases closing with rfl | rfl
      · simp [goOn, a.closing.1]
      · simp [goOn, a.closing.2]

/-- An operand and what continues it are read. -/
theorem readFrom_append {least fuel : Nat} {cs ds rest : List Char} {f g : Formula}
    (operand : a.Operand cs f) (more : a.Continues least f ds g) (ends : endsFormula rest = true)
    (enough : 2 * (cs ++ ds ++ rest).length + 1 < fuel) :
    a.readFrom fuel least (cs ++ ds ++ rest) = some (g, rest) := by
  obtain ⟨fuel, rfl⟩ := Nat.exists_eq_succ_of_ne_zero (Nat.ne_zero_of_lt enough)
  have whole : 2 * (cs ++ (ds ++ rest)).length < fuel := by
    rw [← List.append_assoc]
    omega
  have later : 2 * (ds ++ rest).length < fuel := by
    rw [List.length_append] at whole
    omega
  rw [List.append_assoc, readFrom, operand.reads (more.apart ends) whole]
  exact more.reads ends later

/-- **A text of an operand and what continues it is its formula.** -/
theorem read?_append {cs ds : List Char} {f g : Formula} (operand : a.Operand cs f)
    (more : a.Continues 0 f ds g) : a.read? (cs ++ ds) = some g := by
  have read : a.readFrom (2 * (cs ++ ds).length + 2) 0 (cs ++ ds ++ []) = some (g, []) :=
    readFrom_append operand more rfl (by simp)
  rw [List.append_nil] at read
  rw [read?, read]

/-- A blank before an operand is passed over. -/
theorem Operand.blank {cs : List Char} {f : Formula} (operand : a.Operand cs f) :
    a.Operand (' ' :: cs) f := by
  refine ⟨fun {rest fuel} ends enough => ?_⟩
  obtain ⟨fuel, rfl⟩ := Nat.exists_eq_succ_of_ne_zero (Nat.ne_zero_of_lt enough)
  rw [List.cons_append, readOperand, if_pos rfl]
  exact operand.reads ends (by rw [List.cons_append, List.length_cons] at enough; omega)

/-- **A sign between blanks, an operand and what continues it** with stronger signs continue a
formula. -/
theorem Continues.sign {least strength : Nat} {op : BitOp} {c : Char} {cs ds : List Char}
    {f g h : Formula} (known : a.sign? c = some (strength, op)) (solid : c ≠ ' ')
    (strong : least ≤ strength) (operand : a.Operand cs g)
    (more : a.Continues (strength + 1) g ds h) :
    a.Continues least f (' ' :: c :: ' ' :: (cs ++ ds)) (.operation op f h) where
  apart _ := rfl
  reads {rest fuel} ends enough := by
    simp only [List.cons_append, List.length_cons] at enough
    obtain ⟨fuel, rfl⟩ : ∃ less, fuel = less + 2 := ⟨fuel - 2, by omega⟩
    have right : a.readFrom fuel (strength + 1) (' ' :: (cs ++ ds) ++ rest) = some (h, rest) := by
      rw [← List.cons_append]
      refine readFrom_append operand.blank more ends ?_
      simp only [List.cons_append, List.length_cons]
      omega
    have ended : a.goOn fuel least (.operation op f h) rest = some (.operation op f h, rest) := by
      refine Continues.nil.reads ends ?_
      simp only [List.length_append, List.nil_append] at enough ⊢
      omega
    rw [List.cons_append, goOn, if_pos rfl, List.cons_append, goOn, if_neg solid, known]
    dsimp only
    rw [if_neg (Nat.not_lt.2 strong), if_neg (by simp), right]
    exact ended

/-! ## Rules for operands -/

section Rules

variable {cs ds : List Char} {f g : Formula}

/-- A formula in parentheses is an operand. -/
theorem Operand.group (operand : a.Operand cs f) (more : a.Continues 0 f ds g) :
    a.Operand ('(' :: (cs ++ ds ++ [')'])) g := by
  refine ⟨fun {rest fuel} _ enough => ?_⟩
  simp only [List.cons_append, List.append_assoc, List.length_cons, List.length_append] at enough
  obtain ⟨fuel, rfl⟩ := Nat.exists_eq_succ_of_ne_zero (Nat.ne_zero_of_lt enough)
  have inside : a.readFrom fuel 0 (cs ++ ds ++ ')' :: rest) = some (g, ')' :: rest) := by
    refine readFrom_append operand more rfl ?_
    simp only [List.length_append, List.length_cons, List.length_nil] at enough ⊢
    omega
  rw [List.cons_append, List.append_assoc, List.singleton_append, readOperand,
    if_neg (by decide), if_pos rfl, inside]
  rfl

/-- The sign for complements belongs to the operand after it. -/
theorem Operand.complement (signed : a.complements = true) (operand : a.Operand cs f) :
    a.Operand ('~' :: cs) (.complement f) := by
  refine ⟨fun {rest fuel} ends enough => ?_⟩
  obtain ⟨fuel, rfl⟩ := Nat.exists_eq_succ_of_ne_zero (Nat.ne_zero_of_lt enough)
  have inside : a.readOperand fuel (cs ++ rest) = some (f, rest) :=
    operand.reads ends (by rw [List.cons_append, List.length_cons] at enough; omega)
  rw [List.cons_append, readOperand, if_neg (by decide), if_neg (by decide), if_neg (by decide),
    if_pos rfl, if_pos signed, inside]
  rfl

theorem Operand.digits (digits : AreDigits cs) (nonempty : cs ≠ []) :
    a.Operand cs (.number (Nat.ofDigitChars 10 cs 0)) := by
  refine ⟨fun {rest fuel} ends enough => ?_⟩
  obtain ⟨fuel, rfl⟩ := Nat.exists_eq_succ_of_ne_zero (Nat.ne_zero_of_lt enough)
  have stops : StopsDigits rest := by
    intro c first
    rw [endsOperand, Option.mem_def.1 first] at ends
    have separator : c = ' ' ∨ c = ',' ∨ c = ')' := by simpa using ends
    rcases separator with rfl | rfl | rfl <;> rfl
  have read := readNat_append digits rest stops 0 0
  cases cs with
  | nil => exact absurd rfl nonempty
  | cons c cs =>
    have digit : c.isDigit = true := digits c List.mem_cons_self
    have other : ∀ e : Char, e.isDigit = false → c ≠ e := by
      rintro e outside rfl
      rw [digit] at outside
      cases outside
    rw [List.cons_append] at read
    rw [List.cons_append, readOperand, if_neg (other ' ' rfl), if_neg (other '(' rfl),
      if_neg (other '-' rfl), if_neg (other '~' rfl), if_pos digit, read]

/-- **An integer is an operand,** with its sign if it has one. -/
theorem Operand.numeral {n : Int} (written : Numeral cs n) (unsigned : cs.head? ≠ some '+') :
    a.Operand cs (.number n) := by
  cases written with
  | unsigned digits nonempty => exact Operand.digits digits nonempty
  | positive digits nonempty => exact absurd rfl unsigned
  | @negative ds digits nonempty =>
    refine ⟨fun {rest fuel} ends enough => ?_⟩
    obtain ⟨fuel, rfl⟩ := Nat.exists_eq_succ_of_ne_zero (Nat.ne_zero_of_lt enough)
    have inside : a.readOperand fuel (ds ++ rest) =
        some (.number (Nat.ofDigitChars 10 ds 0), rest) :=
      (Operand.digits digits nonempty).reads ends
        (by rw [List.cons_append, List.length_cons] at enough; omega)
    have single : (ds ++ rest).head? ≠ some '-' := by
      cases ds with
      | nil => exact absurd rfl nonempty
      | cons d ds =>
        have digit : d.isDigit = true := digits d List.mem_cons_self
        intro first
        cases first
        cases digit
    rw [List.cons_append, readOperand, if_neg (by decide), if_neg (by decide), if_pos rfl,
      if_neg single, inside]
    rfl

/-- Not one of the signs and digits that other operands start with. -/
def opensName (c : Char) : Bool := !([' ', '(', '-', '~'].contains c) && !c.isDigit

/-- What starts with none of the signs and digits is read as a name. -/
theorem exists_readOperand_name {fuel : Nat} (opens : cs.head?.any opensName = true)
    (enough : 2 * cs.length < fuel) :
    ∃ less, fuel = less + 2 ∧ a.readOperand fuel cs = a.readName (less + 1) cs := by
  cases cs with
  | nil => cases opens
  | cons c inside =>
    rw [List.length_cons] at enough
    obtain ⟨less, rfl⟩ : ∃ less, fuel = less + 2 := ⟨fuel - 2, by omega⟩
    obtain ⟨⟨blank, opening, minus, tilde⟩, digit⟩ :
        (c ≠ ' ' ∧ c ≠ '(' ∧ c ≠ '-' ∧ c ≠ '~') ∧ c.isDigit = false := by
      simpa [opensName] using opens
    refine ⟨less, rfl, ?_⟩
    rw [readOperand, if_neg blank, if_neg opening, if_neg minus, if_neg tilde,
      if_neg (Bool.eq_false_iff.1 digit)]

/-- What needs no quotes starts with a letter or an underscore. -/
theorem opensName_bare {name : String} (bare : needsQuoting name = false) (rest : List Char) :
    (name.toList ++ rest).head?.any opensName = true := by
  have plain := (Bool.and_eq_true_iff.1 (needsQuoting_eq_false_iff.1 bare)).1
  cases chars : name.toList with
  | nil => simp [isPlainIdentifier, chars] at plain
  | cons c cs =>
    have letter : c.isAlpha = true ∨ c = '_' := by
      simp only [isPlainIdentifier, chars, Bool.and_eq_true, Bool.or_eq_true, beq_iff_eq] at plain
      exact plain.1
    rcases letter with letter | rfl
    · have other : ∀ e ∈ [' ', '(', '-', '~'], c ≠ e := by
        rintro e member rfl
        simp only [List.mem_cons, List.not_mem_nil, or_false] at member
        rcases member with rfl | rfl | rfl | rfl <;> cases letter
      have noSign : c ∉ [' ', '(', '-', '~'] := fun member => other c member rfl
      simp [opensName, isDigit_of_isAlpha letter, noSign]
    · rfl

theorem opensName_identifier (d : Dialect) (name : String) (rest : List Char) :
    ((d.identifier name).toList ++ rest).head?.any opensName = true := by
  unfold Dialect.identifier
  split
  · rw [Dialect.toList_quotedIdentifier]
    cases d <;> rfl
  · rename_i bare
    exact opensName_bare (Bool.eq_false_iff.2 bare) rest

/-- A name alone is a column. -/
theorem Operand.name (name : String) :
    a.Operand (a.dialect.identifier name).toList (.reference "" name) := by
  refine ⟨fun {rest fuel} ends enough => ?_⟩
  have found := a.dialect.readIdentifier_identifier name (opensApart_of_endsOperand ends)
  obtain ⟨less, rfl, named⟩ :=
    exists_readOperand_name (opensName_identifier a.dialect name rest) enough
  rw [named, readName, found]
  rcases eq_of_endsOperand ends with rfl | ⟨c, rest, rfl, rfl | rfl | rfl⟩ <;> rfl

/-- **A qualifier that needs no quotes, a point and a name** are one column. -/
theorem Operand.qualified {qualifier : String} (bare : needsQuoting qualifier = false)
    (name : String) : a.Operand (qualifier.toList ++ '.' :: (a.dialect.identifier name).toList)
      (.reference qualifier name) := by
  refine ⟨fun {rest fuel} ends enough => ?_⟩
  rw [List.append_assoc, List.cons_append] at enough ⊢
  have second := a.dialect.readIdentifier_identifier name (opensApart_of_endsOperand ends)
  generalize (a.dialect.identifier name).toList ++ rest = later at enough second ⊢
  have first : a.dialect.readIdentifier? (qualifier.toList ++ '.' :: later) =
      some (qualifier, '.' :: later) := a.dialect.readIdentifier_bare bare rfl
  obtain ⟨less, rfl, named⟩ := exists_readOperand_name (opensName_bare bare _) enough
  rw [named, readName, first]
  simp only [second]
  rfl

/-- **A function of two operands** is an operand. -/
theorem Operand.call {function : String} {op : BitOp} (known : a.function? function = some op)
    (bare : needsQuoting function = false) (first : a.Operand cs f) (second : a.Operand ds g) :
    a.Operand (function.toList ++ '(' :: (cs ++ ',' :: ' ' :: (ds ++ [')'])))
      (.operation op f g) := by
  refine ⟨fun {rest fuel} _ enough => ?_⟩
  simp only [List.append_assoc, List.cons_append, List.nil_append] at enough ⊢
  have found : a.dialect.readIdentifier?
      (function.toList ++ '(' :: (cs ++ ',' :: ' ' :: (ds ++ ')' :: rest))) =
        some (function, '(' :: (cs ++ ',' :: ' ' :: (ds ++ ')' :: rest))) :=
    a.dialect.readIdentifier_bare bare rfl
  obtain ⟨less, rfl, named⟩ := exists_readOperand_name (opensName_bare bare _) enough
  have nonempty : function.toList ≠ [] := by
    intro none
    have opens := opensName_bare bare []
    rw [none] at opens
    cases opens
  have counted := List.length_pos_iff.2 nonempty
  simp only [List.length_append, List.length_cons] at enough
  have left : a.readFrom less 0 (cs ++ ',' :: ' ' :: (ds ++ ')' :: rest)) =
      some (f, ',' :: ' ' :: (ds ++ ')' :: rest)) := by
    rw [← List.append_nil cs]
    refine readFrom_append first .nil rfl ?_
    simp only [List.length_append, List.length_cons, List.length_nil]
    omega
  have right : a.readFrom less 0 (' ' :: (ds ++ ')' :: rest)) = some (g, ')' :: rest) := by
    rw [← List.cons_append, ← List.append_nil (' ' :: ds)]
    refine readFrom_append second.blank .nil rfl ?_
    simp only [List.length_append, List.length_cons, List.length_nil]
    omega
  rw [named, readName, found]
  simp only [known, left, right]

end Rules

/-! ## What is read as a column -/

/-- The characters that a name takes at least. -/
def nameLength (d : Dialect) (name : String) : Nat := (d.identifier name).toList.length

/-- The characters that a formula takes at least. Only those of qualified columns are counted. -/
def extent (d : Dialect) : Formula → Nat
  | .reference qualifier name =>
    if qualifier = "" then 0 else nameLength d qualifier + 1 + nameLength d name
  | _ => 0

theorem nameLength_add_le {d : Dialect} {name : String} {cs rest : List Char}
    (read : d.readIdentifier? cs = some (name, rest)) :
    nameLength d name + rest.length ≤ cs.length := by
  have longer := d.length_lt_quotedIdentifier name
  unfold nameLength Dialect.identifier
  rcases Dialect.readIdentifier_eq_some read with rfl | ⟨bare, rfl⟩
  · rw [List.length_append]
    split <;> omega
  · rw [bare, if_neg Bool.false_ne_true, List.length_append]

theorem length_readNat_le (cs : List Char) (acc count : Nat) :
    (readNat acc count cs).2.2.length ≤ cs.length := by
  induction cs generalizing acc count with
  | nil => exact Nat.le_refl _
  | cons c cs ih =>
    rw [readNat]
    split
    · exact Nat.le_succ_of_le (ih _ _)
    · exact Nat.le_refl _

theorem extent_negated (d : Dialect) (f : Formula) : extent d f.negated = 0 := by
  cases f <;> rfl

/-- With this fuel, what is read is as long as its extent. Going on keeps the formula before it, or
makes an operation of it, which has no extent. -/
structure Measured (a : Arithmetic) (fuel : Nat) : Prop where
  operand : ∀ {cs f rest}, a.readOperand fuel cs = some (f, rest) →
    extent a.dialect f + rest.length ≤ cs.length
  formula : ∀ {least cs f rest}, a.readFrom fuel least cs = some (f, rest) →
    extent a.dialect f + rest.length ≤ cs.length
  named : ∀ {cs f rest}, a.readName fuel cs = some (f, rest) →
    extent a.dialect f + rest.length ≤ cs.length
  goesOn : ∀ {least f cs g rest}, a.goOn fuel least f cs = some (g, rest) →
    extent a.dialect g + rest.length ≤ extent a.dialect f + cs.length

namespace Measured

variable {fuel least : Nat} {cs rest : List Char} {f g : Formula}

theorem readOperand (h : a.Measured fuel) (read : a.readOperand (fuel + 1) cs = some (f, rest)) :
    extent a.dialect f + rest.length ≤ cs.length := by
  cases cs with
  | nil => cases read
  | cons c inside =>
    rw [Arithmetic.readOperand] at read
    split at read
    · exact Nat.le_succ_of_le (h.operand read)
    split at read
    · split at read
      · rename_i found
        cases read
        exact Nat.le_succ_of_le (Nat.le_of_succ_le (h.formula found))
      · cases read
    -- A formula behind a sign has no extent of its own.
    have signed : ∀ {g : Formula}, a.readOperand fuel inside = some (g, rest) →
        0 + rest.length ≤ (c :: inside).length := by
      intro g found
      have shorter := h.operand found
      rw [List.length_cons]
      omega
    split at read
    · split at read
      · cases read
      · obtain ⟨⟨g, _⟩, found, same⟩ := Option.map_eq_some_iff.1 read
        cases same
        rw [extent_negated]
        exact signed found
    split at read
    · split at read
      · obtain ⟨⟨g, _⟩, found, same⟩ := Option.map_eq_some_iff.1 read
        cases same
        exact signed found
      · cases read
    split at read
    · have shorter := length_readNat_le (c :: inside) 0 0
      generalize readNat 0 0 (c :: inside) = digits at read shorter
      cases read
      simpa [extent] using shorter
    · exact h.named read

theorem readFrom (h : a.Measured fuel)
    (read : a.readFrom (fuel + 1) least cs = some (f, rest)) :
    extent a.dialect f + rest.length ≤ cs.length := by
  rw [Arithmetic.readFrom] at read
  obtain ⟨⟨g, between⟩, found, read⟩ := Option.bind_eq_some_iff.1 read
  exact Nat.le_trans (h.goesOn read) (h.operand found)

theorem readName (h : a.Measured fuel) (read : a.readName (fuel + 1) cs = some (f, rest)) :
    extent a.dialect f + rest.length ≤ cs.length := by
  rw [Arithmetic.readName] at read
  split at read
  · cases read
  · rename_i qualifier between found
    obtain ⟨⟨column, _⟩, named, same⟩ := Option.map_eq_some_iff.1 read
    cases same
    have first := nameLength_add_le found
    have second := nameLength_add_le named
    rw [List.length_cons] at first
    simp only [extent]
    split <;> omega
  · rename_i function between found
    have first := nameLength_add_le found
    split at read
    · rename_i left
      have second := h.formula left
      split at read
      · rename_i right
        cases read
        have third := h.formula right
        simp only [List.length_cons] at first second third
        simp only [extent]
        omega
      · cases read
    · cases read
  · rename_i found
    cases read
    have first := nameLength_add_le found
    simp only [extent, if_true]
    omega

theorem goOn (h : a.Measured fuel)
    (read : a.goOn (fuel + 1) least f cs = some (g, rest)) :
    extent a.dialect g + rest.length ≤ extent a.dialect f + cs.length := by
  cases cs with
  | nil =>
    cases read
    exact Nat.le_refl _
  | cons c inside =>
    rw [Arithmetic.goOn] at read
    split at read
    · exact Nat.le_succ_of_le (h.goesOn read)
    split at read
    · cases read
      exact Nat.le_refl _
    · split at read
      · cases read
        exact Nat.le_refl _
      split at read
      · cases read
      · obtain ⟨⟨right, between⟩, found, read⟩ := Option.bind_eq_some_iff.1 read
        have first := h.formula found
        have second : extent a.dialect g + rest.length ≤ 0 + between.length := h.goesOn read
        rw [List.length_cons]
        omega

end Measured

/-- **What is read is as long as its extent.** -/
theorem measured (a : Arithmetic) (fuel : Nat) : a.Measured fuel := by
  induction fuel with
  | zero => exact ⟨nofun, nofun, nofun, nofun⟩
  | succ fuel ih => exact ⟨ih.readOperand, ih.readFrom, ih.readName, ih.goOn⟩

/-- **A column is read as what it is exactly when its qualifier needs no quotes.** Otherwise the
identifier of the qualifier is longer than the qualifier, so the text is too short. -/
theorem read?_qualified_iff (a : Arithmetic) {qualifier : String} (given : qualifier ≠ "")
    (name : String) :
    a.read? (qualifier.toList ++ '.' :: (a.dialect.identifier name).toList) =
      some (.reference qualifier name) ↔ needsQuoting qualifier = false := by
  constructor
  · intro read
    rw [read?] at read
    split at read
    · rename_i f found
      cases read
      have long := (a.measured _).formula found
      rw [Bool.eq_false_iff]
      intro quoted
      have longer := a.dialect.length_lt_quotedIdentifier qualifier
      simp only [extent, if_neg given, nameLength, Dialect.identifier, if_pos quoted,
        List.length_append, List.length_cons, List.length_nil] at long
      omega
    · cases read
  · intro bare
    have read := read?_append (a := a) (Operand.qualified bare name) .nil
    rwa [List.append_nil] at read

end Arithmetic

end EntitySql
