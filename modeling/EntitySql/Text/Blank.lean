/-!
# Blank characters

A character is blank when it has the Unicode property White_Space. Texts read from drivers are
taken without the blanks around them.
-/

namespace EntitySql.Text

set_option autoImplicit false

/-- The twenty-five blank characters: ASCII blanks, next line, and the spaces and separators of
all scripts. -/
def isBlank (c : Char) : Bool :=
  let n := c.toNat
  (9 ≤ n && n ≤ 13) || n == 0x20 || n == 0x85 || n == 0xa0 || n == 0x1680 ||
    (0x2000 ≤ n && n ≤ 0x200a) || n == 0x2028 || n == 0x2029 || n == 0x202f || n == 0x205f ||
    n == 0x3000

/-- The characters without the blanks at their end. -/
def trimEnd (cs : List Char) : List Char := (cs.reverse.dropWhile isBlank).reverse

/-- The text without the blanks around it. -/
def trim (s : String) : String := String.ofList (trimEnd (s.toList.dropWhile isBlank))

/-- Core's blanks are blank. -/
theorem isBlank_of_isWhitespace {c : Char} (h : c.isWhitespace = true) : isBlank c = true := by
  simp only [Char.isWhitespace, Bool.or_eq_true, decide_eq_true_eq] at h
  rcases h with ((rfl | rfl) | rfl) | rfl <;> rfl

end EntitySql.Text
