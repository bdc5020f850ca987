import EntitySql.Text.Quoted

/-!
# Tokens of program text

Declarations of entities, and the code that is written for them, are lists of tokens: words,
literals, marks, lifetimes and the brackets around groups.

**Two written forms.** Spelled out, every character of a mark stands alone and one blank stands
between any two pieces. In the compact form marks such as `::` stay together and nothing separates
round and square brackets from what they enclose.
-/

namespace EntitySql.Code

set_option autoImplicit false

/-- The brackets around groups. -/
inductive Bracket where
  | round
  | square
  | curly
  deriving DecidableEq, Repr

namespace Bracket

def left : Bracket → String
  | round => "("
  | square => "["
  | curly => "\x7b"

def right : Bracket → String
  | round => ")"
  | square => "]"
  | curly => "\x7d"

/-- No blank separates the bracket from what it encloses in the compact form. -/
def isTight (b : Bracket) : Bool := b != curly

end Bracket

/-- A token of program text. -/
inductive Token where
  | word (name : String)
  /-- A number or a character, as it is written. -/
  | literal (written : String)
  /-- A text literal with this content. -/
  | text (content : String)
  | mark (symbol : String)
  | lifetime (name : String)
  | opening (bracket : Bracket)
  | closing (bracket : Bracket)
  deriving DecidableEq, Repr

namespace Token

/-- The text starts with an octal digit. -/
def startsOctal : List Char → Bool
  | c :: _ => '0' ≤ c && c ≤ '7'
  | [] => false

/-- The inside of a text literal: that of a quoted text, except that a null character is written
so that no digit after it can be taken for a part of its escape. -/
def literalInside : List Char → String
  | [] => ""
  | c :: rest =>
    (if c = '\x00' && startsOctal rest then "\\x00" else Text.escapeChar '"' c) ++
      literalInside rest

/-- A text as a literal. -/
def literalText (s : String) : String := "\"" ++ literalInside s.toList ++ "\""

/-- The pieces of a token when it is spelled out. -/
def pieces : Token → List String
  | word name => [name]
  | literal written => [written]
  | text content => [literalText content]
  | mark symbol => symbol.toList.map String.singleton
  | lifetime name => ["'", name]
  | opening b => [b.left]
  | closing b => [b.right]

/-- A token in the compact form. -/
def shown (t : Token) : String := String.join t.pieces

/-- The two tokens stand side by side in the compact form. -/
def adjoins : Token → Token → Bool
  | opening b, closing c => b.isTight || c.isTight
  | opening b, _ => b.isTight
  | _, closing b => b.isTight
  | _, _ => false

end Token

/-- The tokens spelled out. -/
def spelled (ts : List Token) : String := String.intercalate " " (ts.flatMap Token.pieces)

/-- The tokens in the compact form. -/
def compact : List Token → String
  | [] => ""
  | [a] => a.shown
  | a :: b :: rest => a.shown ++ (if a.adjoins b then "" else " ") ++ compact (b :: rest)

/-- The tokens with no blank between them. -/
def joined (ts : List Token) : String := String.join (ts.map Token.shown)

/-- The tokens inside a pair of brackets. -/
def enclosed (b : Bracket) (ts : List Token) : List Token :=
  Token.opening b :: ts ++ [Token.closing b]

/-- Names joined by `::`. -/
def pathTokens : List String → List Token
  | [] => []
  | [name] => [.word name]
  | name :: rest => .word name :: .mark "::" :: pathTokens rest

/-- Names joined by `::`, starting at the root of all names. -/
def rootedTokens (names : List String) : List Token := .mark "::" :: pathTokens names

end EntitySql.Code
