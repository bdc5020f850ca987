import EntitySql.Code.Token
import EntitySql.Text.Alphanumeric
import EntitySql.Text.Blank
import EntitySql.Text.Cluster

/-!
# Reading tokens

A text is cut into tokens from its start: blanks are skipped, words and numbers are as long as
possible, text literals end at the next quote that is not escaped, and of marks only `::`, `->`
and `=>` are longer than one character. Every text is read; a text literal that does not end takes
all that is left.
-/

namespace EntitySql.Code

set_option autoImplicit false

/-- The signs that join the parts of a word, besides letters, digits and marks. -/
def joiningRanges : Array (Nat × Nat) := #[
  (0x5f, 0x5f), (0xb7, 0xb7), (0x387, 0x387), (0x203f, 0x2040), (0x2054, 0x2054),
  (0x2118, 0x2118), (0x212e, 0x212e), (0x30fb, 0x30fb), (0xfe33, 0xfe34), (0xfe4d, 0xfe4f),
  (0xff3f, 0xff3f), (0xff65, 0xff65)]

/-- The character may stand inside a word. -/
def isWordChar (c : Char) : Bool :=
  Text.isAlphanumeric c || Text.isAttached c || Text.inRanges joiningRanges c.toNat

/-- The character may start a word. -/
def isWordStart (c : Char) : Bool := isWordChar c && !c.isDigit

/-- The character that an escape stands for. -/
def unescaped : Char → Char
  | 'n' => '\n'
  | 'r' => '\r'
  | 't' => '\t'
  | '0' => '\x00'
  | c => c

/-- The content of a text literal after its opening quote, and what follows the closing one. -/
def literalContent : List Char → List Char × List Char
  | [] => ([], [])
  | '"' :: rest => ([], rest)
  | '\\' :: c :: rest => ((unescaped c :: (literalContent rest).1), (literalContent rest).2)
  | c :: rest => ((c :: (literalContent rest).1), (literalContent rest).2)

/-- What follows a text literal is not longer than what stood after its opening quote. -/
theorem literalContent_length (cs : List Char) :
    (literalContent cs).2.length ≤ cs.length := by
  fun_induction literalContent cs with
  | case1 => simp
  | case2 rest => simp
  | case3 c rest ih => simp; omega
  | case4 c rest _ _ ih => simp; omega

/-- The bracket a character stands for. -/
def bracket? : Char → Option Token
  | '(' => some (.opening .round)
  | ')' => some (.closing .round)
  | '[' => some (.opening .square)
  | ']' => some (.closing .square)
  | '\x7b' => some (.opening .curly)
  | '\x7d' => some (.closing .curly)
  | _ => none

/-- The point and the digits of a fraction, and what follows them; a point before another one or
before a name starts none. -/
def fraction : List Char → List Char × List Char
  | '.' :: rest =>
    if rest.head?.any fun d => d == '.' || isWordStart d then ([], '.' :: rest)
    else ('.' :: rest.takeWhile isWordChar, rest.dropWhile isWordChar)
  | rest => ([], rest)

/-- What a number has after its first digit, and what follows it; only decimal digits can have a
fraction. -/
def numberRest (cs : List Char) : List Char × List Char :=
  let digits := cs.takeWhile isWordChar
  let rest := cs.dropWhile isWordChar
  if digits.all fun c => c.isDigit || c == '_' then (digits ++ (fraction rest).1, (fraction rest).2)
  else (digits, rest)

/-- The first token of a text that starts with `c`, and what follows it. -/
def firstToken (c : Char) (rest : List Char) : Token × List Char :=
  match c, rest with
  | 'r', '#' :: d :: more =>
    if isWordStart d then
      (.word (String.ofList ('r' :: '#' :: d :: more.takeWhile isWordChar)),
        more.dropWhile isWordChar)
    else wordOrMark 'r' rest
  | ':', ':' :: more => (.mark "::", more)
  | '-', '>' :: more => (.mark "->", more)
  | '=', '>' :: more => (.mark "=>", more)
  | '\'', d :: '\'' :: more => (.literal (String.ofList ['\'', d, '\'']), more)
  | '\'', _ =>
    (.lifetime (String.ofList (rest.takeWhile isWordChar)), rest.dropWhile isWordChar)
  | '"', _ => (.text (String.ofList (literalContent rest).1), (literalContent rest).2)
  | c, rest => wordOrMark c rest
where
  /-- A token that is not told by its first two characters. -/
  wordOrMark (c : Char) (rest : List Char) : Token × List Char :=
    if isWordStart c then
      (.word (String.ofList (c :: rest.takeWhile isWordChar)), rest.dropWhile isWordChar)
    else if c.isDigit then
      (.literal (String.ofList (c :: (numberRest rest).1)), (numberRest rest).2)
    else ((bracket? c).getD (.mark (String.singleton c)), rest)

theorem dropWhile_length_le {α : Type} (p : α → Bool) (l : List α) :
    (l.dropWhile p).length ≤ l.length := (List.dropWhile_sublist p).length_le

theorem fraction_length (cs : List Char) : (fraction cs).2.length ≤ cs.length := by
  unfold fraction
  split
  · split
    · exact Nat.le_refl _
    · exact Nat.le_succ_of_le (dropWhile_length_le _ _)
  · exact Nat.le_refl _

theorem numberRest_length (cs : List Char) : (numberRest cs).2.length ≤ cs.length := by
  unfold numberRest
  dsimp only
  split
  · exact Nat.le_trans (fraction_length _) (dropWhile_length_le _ _)
  · exact dropWhile_length_le _ _

/-- A token takes at least the character it starts with. -/
theorem firstToken_length (c : Char) (rest : List Char) :
    (firstToken c rest).2.length ≤ rest.length := by
  have split : (firstToken.wordOrMark c rest).2.length ≤ rest.length := by
    unfold firstToken.wordOrMark
    split
    · exact dropWhile_length_le _ _
    · split
      · exact numberRest_length _
      · exact Nat.le_refl _
  unfold firstToken
  split
  · rename_i d more
    split
    · have := dropWhile_length_le isWordChar more
      simp only [List.length_cons]
      omega
    · exact split
  · simp
  · simp
  · simp
  · simp only [List.length_cons]
    omega
  · exact dropWhile_length_le _ _
  · exact literalContent_length _
  · exact split

/-- The tokens of a list of characters. -/
def scan : List Char → List Token
  | [] => []
  | c :: rest =>
    if Text.isBlank c then scan rest
    else
      have := firstToken_length c rest
      (firstToken c rest).1 :: scan (firstToken c rest).2
  termination_by cs => cs.length

/-- The tokens of a text. -/
def tokensOf (s : String) : List Token := scan s.toList

end EntitySql.Code
