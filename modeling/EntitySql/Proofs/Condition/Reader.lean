import EntitySql.Proofs.Condition.Items

/-!
# Reading conditions

A condition is read by the grammar of truth values: parentheses first, then `AND`, then `OR`. The
items of a text become words and marks (`Item.lexemesFrom`); the words `AND` and `OR` cut them into
runs of operands (`splitFrom`), except that the `AND` after a `BETWEEN` belongs to its operand. An
operand that is nothing but a pair of parentheses is a group and is read again; any other operand
is a test.

What is read is a disjunction of runs, a run being a conjunction of tests and groups. The reader
knows nothing of the model a text was written from. `read_chain` says what it finds in texts that
are joined by connectives, when it finds one operand in each of them.
-/

namespace EntitySql

set_option autoImplicit false

/-- A test, or runs of tests and groups in parentheses. -/
inductive TestTree where
  | test (text : List Char)
  | group (runs : List (List TestTree))

/-- The words that join tests, or are inside one. -/
inductive Keyword where
  | and
  | or
  | between
deriving DecidableEq

/-- A word, another character, a quoted text, or parentheses with the runs inside. -/
inductive Lexeme where
  | word (cs : List Char)
  | mark (c : Char)
  | quoted (cs : List Char)
  | group (text : List Char) (runs : Option (List (List TestTree)))

/-- A character of a word. -/
def isWordChar (c : Char) : Bool := isNameChar c || decide (127 < c.toNat)

/-- The keyword a word is, in either case. -/
def keywordOf? (word : List Char) : Option Keyword :=
  if word.map Char.toUpper = ['A', 'N', 'D'] then some .and
  else if word.map Char.toUpper = ['O', 'R'] then some .or
  else if word.map Char.toUpper = ['B', 'E', 'T', 'W', 'E', 'E', 'N'] then some .between
  else none

/-- A text without the blanks around it. -/
def trim (cs : List Char) : List Char :=
  ((cs.reverse.dropWhile Char.isWhitespace).reverse).dropWhile Char.isWhitespace

namespace Lexeme

/-- The keyword the lexeme is. -/
def keyword? : Lexeme → Option Keyword
  | word cs => keywordOf? cs
  | _ => none

/-- The lexeme is a blank. -/
def isBlank : Lexeme → Bool
  | mark c => c.isWhitespace
  | _ => false

/-- The lexeme makes an operand a test. -/
def isSolid : Lexeme → Bool
  | mark c => !c.isWhitespace
  | group _ _ => false
  | _ => true

/-- The text of the lexeme. -/
def text : Lexeme → List Char
  | word cs => cs
  | mark c => [c]
  | quoted cs => cs
  | group cs _ => cs

end Lexeme

/-- Cuts at the connectives, after `operand` was read of an operand and `run` of a run; `between`
says that the operand waits for its own `AND`. -/
def splitFrom (between : Bool) (operand : List Lexeme) (run : List (List Lexeme)) :
    List Lexeme → List (List (List Lexeme))
  | [] => [run ++ [operand]]
  | l :: ls =>
    match l.keyword? with
    | some .or => (run ++ [operand]) :: splitFrom false [] [] ls
    | some .and =>
      if between then splitFrom false (operand ++ [l]) run ls
      else splitFrom false [] (run ++ [operand]) ls
    | some .between => splitFrom true (operand ++ [l]) run ls
    | none => splitFrom between (operand ++ [l]) run ls

/-- The operand that lexemes are, if they are one. -/
def operand? (ls : List Lexeme) : Option TestTree :=
  match ls.filter fun l => !l.isBlank with
  | [] => none
  | [.group _ runs] => runs.map .group
  | _ => some (.test (trim (ls.flatMap Lexeme.text)))

/-- The runs that lexemes are, if all their operands are there. -/
def readRuns (ls : List Lexeme) : Option (List (List TestTree)) :=
  (splitFrom false [] [] ls).mapM fun run => run.mapM operand?

/-- The word read so far, if there is one. -/
def wordRead (word : List Char) : List Lexeme := if word.isEmpty then [] else [.word word]

/-- The item goes on with a word. -/
def Item.isWordItem : Item → Bool
  | .char c => isWordChar c
  | _ => false

mutual
/-- The lexeme of an item that is not part of a word. -/
def Item.lexeme : Item → Lexeme
  | .char c => .mark c
  | .quoted cs => .quoted cs
  | .paren items =>
    .group ('(' :: (Item.allText items ++ [')'])) (readRuns (Item.lexemesFrom [] items))
  termination_by structural i => i

/-- The lexemes of items, when a word was read before them. -/
def Item.lexemesFrom : List Char → List Item → List Lexeme
  | word, [] => wordRead word
  | word, i :: is =>
    if i.isWordItem then Item.lexemesFrom (word ++ i.text) is
    else wordRead word ++ i.lexeme :: Item.lexemesFrom [] is
  termination_by structural _ is => is
end

/-- The lexemes of items. -/
def lexemes (is : List Item) : List Lexeme := Item.lexemesFrom [] is

/-- The runs of the condition a text is; a blank text has none. -/
def readCondition (d : Dialect) (cs : List Char) : Option (List (List TestTree)) :=
  (readItems d cs).bind fun is =>
    if (lexemes is).all Lexeme.isBlank then some [] else readRuns (lexemes is)

/-! ## Lexemes of items -/

/-- **An item that is no part of a word separates** the lexemes before it from those after it. -/
theorem lexemesFrom_append_cons {i : Item} (apart : i.isWordItem = false) (ys : List Item) :
    ∀ (xs : List Item) (word : List Char), Item.lexemesFrom word (xs ++ i :: ys) =
      Item.lexemesFrom word xs ++ i.lexeme :: lexemes ys := by
  intro xs
  induction xs with
  | nil =>
    intro word
    simp [Item.lexemesFrom, apart, lexemes]
  | cons x xs ih =>
    intro word
    rw [List.cons_append, Item.lexemesFrom, Item.lexemesFrom]
    split
    · exact ih _
    · rw [ih, List.append_assoc, List.cons_append]

theorem lexemes_append_cons {i : Item} (apart : i.isWordItem = false) (xs ys : List Item) :
    lexemes (xs ++ i :: ys) = lexemes xs ++ i.lexeme :: lexemes ys :=
  lexemesFrom_append_cons apart ys xs []

theorem lexemesFrom_word {cs : List Char} (h : ∀ c ∈ cs, isWordChar c = true)
    (word : List Char) : Item.lexemesFrom word (cs.map .char) = wordRead (word ++ cs) := by
  induction cs generalizing word with
  | nil => simp [Item.lexemesFrom]
  | cons c cs ih =>
    have letter : (Item.char c).isWordItem = true := h c List.mem_cons_self
    rw [List.map_cons, Item.lexemesFrom, if_pos letter,
      ih fun b member => h b (List.mem_cons_of_mem _ member)]
    simp [Item.text]

/-- The characters of a word are one word. -/
theorem lexemes_word {cs : List Char} (h : ∀ c ∈ cs, isWordChar c = true) :
    lexemes (cs.map .char) = wordRead cs := lexemesFrom_word h []

/-- A word between blanks is a lexeme of its own. -/
theorem lexemes_spaced {word : List Char} (letters : ∀ c ∈ word, isWordChar c = true)
    (notEmpty : word ≠ []) (xs ys : List Item) :
    lexemes (xs ++ .char ' ' :: (word.map .char ++ .char ' ' :: ys)) =
      lexemes xs ++ .mark ' ' :: .word word :: .mark ' ' :: lexemes ys := by
  have blank : (Item.char ' ').isWordItem = false := rfl
  have alone : wordRead word = [.word word] := by simp [wordRead, notEmpty]
  rw [lexemes_append_cons blank, lexemes_append_cons blank, lexemes_word letters, alone]
  rfl

/-- Lexemes have the text of their items. -/
theorem flatMap_text_lexemesFrom (is : List Item) (word : List Char) :
    (Item.lexemesFrom word is).flatMap Lexeme.text = word ++ Item.allText is := by
  have ended : ∀ cs, (wordRead cs).flatMap Lexeme.text = cs := by
    intro cs
    cases cs <;> simp [wordRead, Lexeme.text]
  induction is generalizing word with
  | nil => simp [Item.lexemesFrom, Item.allText, ended]
  | cons i is ih =>
    have own : i.lexeme.text = i.text := by
      cases i <;> rfl
    rw [Item.lexemesFrom, Item.allText]
    split
    · rw [ih, List.append_assoc]
    · rw [List.flatMap_append, List.flatMap_cons, ih, ended, own, List.nil_append]

/-- A blank separates, and so does the end. -/
theorem lexemes_append_of_apart (xs : List Item) {ys : List Item}
    (apart : ys = [] ∨ ∃ zs, ys = .char ' ' :: zs) :
    lexemes (xs ++ ys) = lexemes xs ++ lexemes ys := by
  rcases apart with rfl | ⟨zs, rfl⟩
  · simp [lexemes, Item.lexemesFrom, wordRead]
  · have blank : (Item.char ' ').isWordItem = false := rfl
    rw [lexemes_append_cons blank]
    exact congrArg _ (lexemes_append_cons blank [] zs).symm

/-! ## Operands -/

/-- Lexemes that the reader takes into an operand as they are. -/
def Passes (ls : List Lexeme) : Prop :=
  ∀ operand run rest, splitFrom false operand run (ls ++ rest) =
    splitFrom false (operand ++ ls) run rest

/-- What has no keyword passes. -/
theorem splitFrom_of_keywordFree {ls : List Lexeme} (free : ∀ l ∈ ls, l.keyword? = none)
    (between : Bool) (operand : List Lexeme) (run : List (List Lexeme)) (rest : List Lexeme) :
    splitFrom between operand run (ls ++ rest) = splitFrom between (operand ++ ls) run rest := by
  induction ls generalizing operand with
  | nil => rw [List.nil_append, List.append_nil]
  | cons l ls ih =>
    rw [List.cons_append, splitFrom, free l List.mem_cons_self]
    simp only
    rw [ih fun m member => free m (List.mem_cons_of_mem _ member), List.append_assoc]
    rfl

theorem Passes.of_keywordFree {ls : List Lexeme} (free : ∀ l ∈ ls, l.keyword? = none) :
    Passes ls := fun operand run rest => splitFrom_of_keywordFree free false operand run rest

/-- The `AND` after a `BETWEEN` passes with it. -/
theorem Passes.range {a b c : List Lexeme} {l m : Lexeme} (first : ∀ l ∈ a, l.keyword? = none)
    (second : ∀ l ∈ b, l.keyword? = none) (third : ∀ l ∈ c, l.keyword? = none)
    (opens : l.keyword? = some .between) (closes : m.keyword? = some .and) :
    Passes (a ++ l :: (b ++ m :: c)) := by
  intro operand run rest
  have opened : ∀ op ls, splitFrom false op run (l :: ls) = splitFrom true (op ++ [l]) run ls := by
    intro op ls
    rw [splitFrom, opens]
  have closed : ∀ op ls, splitFrom true op run (m :: ls) = splitFrom false (op ++ [m]) run ls := by
    intro op ls
    rw [splitFrom, closes]
    rfl
  calc splitFrom false operand run (a ++ l :: (b ++ m :: c) ++ rest)
      = splitFrom false operand run (a ++ l :: (b ++ m :: (c ++ rest))) := by simp
    _ = splitFrom true (operand ++ a ++ [l]) run (b ++ m :: (c ++ rest)) := by
      rw [splitFrom_of_keywordFree first, opened]
    _ = splitFrom false (operand ++ a ++ [l] ++ b ++ [m]) run (c ++ rest) := by
      rw [splitFrom_of_keywordFree second, closed]
    _ = splitFrom false (operand ++ (a ++ l :: (b ++ m :: c))) run rest := by
      rw [splitFrom_of_keywordFree third]
      simp

/-- Something solid makes an operand a test. -/
theorem operand?_of_solid {ls : List Lexeme} {l : Lexeme} (member : l ∈ ls)
    (solid : l.isSolid = true) : operand? ls = some (.test (trim (ls.flatMap Lexeme.text))) := by
  have kept : l ∈ ls.filter fun l => !l.isBlank := by
    refine List.mem_filter.2 ⟨member, ?_⟩
    cases l with
    | mark c => exact solid
    | word cs => rfl
    | quoted cs => rfl
    | group cs runs => cases solid
  unfold operand?
  split
  · rename_i none
    rw [none] at kept
    cases kept
  · rename_i cs runs alone
    rw [alone] at kept
    rw [List.mem_singleton.1 kept] at solid
    cases solid
  · rfl

/-- Blanks before and after a text are trimmed. -/
theorem trim_blank_cons {c : Char} (blank : c.isWhitespace = true) (cs : List Char) :
    trim (c :: cs) = trim cs := by
  unfold trim
  rw [List.reverse_cons, List.dropWhile_append]
  split
  · rename_i nothing
    rw [List.isEmpty_iff.1 nothing]
    simp [blank]
  · rw [List.reverse_append]
    simp [blank]

theorem trim_append_blank {c : Char} (blank : c.isWhitespace = true) (cs : List Char) :
    trim (cs ++ [c]) = trim cs := by
  simp [trim, blank]

theorem operand?_blank_cons {l : Lexeme} (blank : l.isBlank = true) (ls : List Lexeme) :
    operand? (l :: ls) = operand? ls := by
  cases l with
  | mark c =>
    have same : (Lexeme.mark c :: ls).filter (fun l => !l.isBlank) =
        ls.filter fun l => !l.isBlank := by
      rw [List.filter_cons, if_neg (by simp [blank])]
    unfold operand?
    rw [same, List.flatMap_cons]
    rw [show Lexeme.text (.mark c) ++ ls.flatMap Lexeme.text = c :: ls.flatMap Lexeme.text from rfl,
      trim_blank_cons blank]
  | word cs => cases blank
  | quoted cs => cases blank
  | group cs runs => cases blank

theorem operand?_append_blank {l : Lexeme} (blank : l.isBlank = true) (ls : List Lexeme) :
    operand? (ls ++ [l]) = operand? ls := by
  cases l with
  | mark c =>
    have same : (ls ++ [Lexeme.mark c]).filter (fun l => !l.isBlank) =
        ls.filter fun l => !l.isBlank := by
      rw [List.filter_append, List.filter_cons, if_neg (by simp [blank])]
      simp
    unfold operand?
    rw [same, List.flatMap_append]
    rw [show [Lexeme.mark c].flatMap Lexeme.text = [c] from rfl, trim_append_blank blank]
  | word cs => cases blank
  | quoted cs => cases blank
  | group cs runs => cases blank

/-- An operand is not blank. -/
theorem not_all_isBlank {ls : List Lexeme} {t : TestTree} (h : operand? ls = some t) :
    ls.all Lexeme.isBlank = false := by
  cases blank : ls.all Lexeme.isBlank with
  | false => rfl
  | true =>
    have none : (ls.filter fun l => !l.isBlank) = [] := by
      refine List.filter_eq_nil_iff.2 fun l member => ?_
      simp [List.all_eq_true.1 blank l member]
    unfold operand? at h
    rw [none] at h
    cases h

/-- **The reader finds one operand in the text.** -/
def Reads (d : Dialect) (cs : List Char) (t : TestTree) : Prop :=
  ∃ is, Item.AllLexical d is ∧ Item.allText is = cs ∧ Passes (lexemes is) ∧
    operand? (lexemes is) = some t

/-! ## Chains -/

/-- Texts that follow others, each with its connective. -/
def chainAfter : List (Connective × List Char) → List Char
  | [] => []
  | (c, cs) :: rest => c.spaced.toList ++ (cs ++ chainAfter rest)

/-- Texts joined by their connectives; the first one has none. -/
def chainText : List (Connective × List Char) → List Char
  | [] => []
  | (_, cs) :: rest => cs ++ chainAfter rest

/-- The runs of trees that follow a run. -/
def assembleAfter (run : List TestTree) : List (Connective × TestTree) → List (List TestTree)
  | [] => [run]
  | (.and, t) :: rest => assembleAfter (run ++ [t]) rest
  | (.or, t) :: rest => run :: assembleAfter [t] rest

/-- The disjunction of runs that trees with their connectives are. -/
def assemble : List (Connective × TestTree) → List (List TestTree)
  | [] => []
  | (_, t) :: rest => assembleAfter [t] rest

/-- The lexemes of a connective. -/
def Connective.lexemes (c : Connective) : List Lexeme :=
  [.mark ' ', .word (match c with | and => ['A', 'N', 'D'] | or => ['O', 'R']), .mark ' ']

/-- The items of a connective. -/
def Connective.items (c : Connective) : List Item := c.spaced.toList.map .char

/-- The texts and the trees have the same connectives, and each text reads as its tree. -/
def ReadsEach (d : Dialect) : List (Connective × List Char) → List (Connective × TestTree) → Prop :=
  List.Forall₂ fun member tree => member.1 = tree.1 ∧ Reads d member.2 tree.2

/-- The reader goes through what follows an operand. -/
theorem read_chainAfter {d : Dialect} {members : List (Connective × List Char)}
    {trees : List (Connective × TestTree)} (h : ReadsEach d members trees) :
    ∃ is, Item.AllLexical d is ∧ Item.allText is = chainAfter members ∧
      (is = [] ∨ ∃ ys, is = .char ' ' :: ys) ∧
      ∀ operand run t ts, operand? operand = some t → run.mapM operand? = some ts →
        (splitFrom false operand run (lexemes is)).mapM (fun r => r.mapM operand?) =
          some (assembleAfter (ts ++ [t]) trees) := by
  induction h with
  | nil =>
    refine ⟨[], trivial, rfl, .inl rfl, ?_⟩
    intro operand run t ts last before
    simp [lexemes, Item.lexemesFrom, wordRead, splitFrom, assembleAfter, last, before]
  | @cons member tree members trees head _ ih =>
    obtain ⟨c, cs⟩ := member
    obtain ⟨c', t'⟩ := tree
    obtain ⟨rfl, is, lexical, rfl, passes, found⟩ := head
    obtain ⟨rest, restLexical, restText, apart, continues⟩ := ih
    have connective : Item.AllLexical d c.items ∧ Item.allText c.items = c.spaced.toList := by
      refine Item.allLexical_chars (List.all_eq_true.1 ?_)
      cases c <;> rfl
    refine ⟨c.items ++ (is ++ rest), ?_, ?_, ?_, ?_⟩
    · exact Item.allLexical_append.2 ⟨connective.1, Item.allLexical_append.2 ⟨lexical, restLexical⟩⟩
    · rw [Item.allText_append, Item.allText_append, connective.2, restText]
      rfl
    · right
      cases c <;> exact ⟨_, rfl⟩
    · intro operand run t ts last before
      have split :
          lexemes (c.items ++ (is ++ rest)) = c.lexemes ++ (lexemes is ++ lexemes rest) := by
        rw [← lexemes_append_of_apart is apart]
        cases c <;> rfl
      rw [split]
      have padded : operand? (operand ++ [Lexeme.mark ' ']) = some t := by
        rw [operand?_append_blank rfl, last]
      have next : operand? (Lexeme.mark ' ' :: lexemes is) = some t' := by
        rw [operand?_blank_cons rfl, found]
      have closed : (run ++ [operand ++ [Lexeme.mark ' ']]).mapM operand? = some (ts ++ [t]) := by
        simp [List.mapM_append, before, padded]
      cases c with
      | and =>
        have step : splitFrom false operand run
            (Connective.lexemes .and ++ (lexemes is ++ lexemes rest)) =
              splitFrom false (Lexeme.mark ' ' :: lexemes is)
                (run ++ [operand ++ [Lexeme.mark ' ']]) (lexemes rest) :=
          passes [Lexeme.mark ' '] _ _
        rw [step, continues _ _ _ _ next closed]
        rfl
      | or =>
        have step : splitFrom false operand run
            (Connective.lexemes .or ++ (lexemes is ++ lexemes rest)) =
              (run ++ [operand ++ [Lexeme.mark ' ']]) ::
                splitFrom false (Lexeme.mark ' ' :: lexemes is) [] (lexemes rest) :=
          congrArg _ (passes [Lexeme.mark ' '] _ _)
        rw [step, List.mapM_cons, closed, continues _ [] _ [] next rfl]
        rfl

/-- **Texts joined by connectives read as their trees assembled:** the reader cuts at the `OR`s
first and finds the members of a run between its `AND`s. -/
theorem read_chain {d : Dialect} {members : List (Connective × List Char)}
    {trees : List (Connective × TestTree)} (h : ReadsEach d members trees)
    (notEmpty : members ≠ []) :
    ∃ is, Item.AllLexical d is ∧ Item.allText is = chainText members ∧
      (lexemes is).all Lexeme.isBlank = false ∧ readRuns (lexemes is) = some (assemble trees) := by
  cases h with
  | nil => exact absurd rfl notEmpty
  | @cons member tree members trees head others =>
    obtain ⟨c, cs⟩ := member
    obtain ⟨c', t⟩ := tree
    obtain ⟨rfl, is, lexical, rfl, passes, found⟩ := head
    obtain ⟨rest, restLexical, restText, apart, continues⟩ := read_chainAfter others
    have inner := lexemes_append_of_apart is apart
    refine ⟨is ++ rest, Item.allLexical_append.2 ⟨lexical, restLexical⟩, ?_, ?_, ?_⟩
    · rw [Item.allText_append, restText]
      rfl
    · rw [inner, List.all_append, not_all_isBlank found, Bool.false_and]
    · rw [inner, readRuns, passes [] [] (lexemes rest)]
      exact continues (lexemes is) [] t [] found rfl

variable {d : Dialect} {members : List (Connective × List Char)}
  {trees : List (Connective × TestTree)}

/-- A chain between parentheses is one operand. -/
theorem Reads.group (h : ReadsEach d members trees) (notEmpty : members ≠ []) :
    Reads d ('(' :: (chainText members ++ [')'])) (.group (assemble trees)) := by
  obtain ⟨is, lexical, text, _, found⟩ := read_chain h notEmpty
  have alone : lexemes [.paren is] =
      [.group ('(' :: (Item.allText is ++ [')'])) (some (assemble trees))] := by
    rw [← found]
    rfl
  refine ⟨[.paren is], ⟨lexical, trivial⟩, ?_, ?_, ?_⟩
  · simp [Item.allText, Item.text, text]
  · rw [alone]
    refine .of_keywordFree ?_
    intro l member
    rw [List.mem_singleton.1 member]
    rfl
  · rw [alone]
    rfl

/-- **The condition that a chain of operands is.** -/
theorem readCondition_chain (h : ReadsEach d members trees) :
    readCondition d (chainText members) = some (assemble trees) := by
  by_cases empty : members = []
  · subst empty
    cases h
    rfl
  · obtain ⟨is, lexical, text, notBlank, found⟩ := read_chain h empty
    unfold readCondition
    rw [← text, readItems_allText lexical, Option.bind_some, notBlank, if_neg Bool.false_ne_true,
      found]

end EntitySql
