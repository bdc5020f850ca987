import EntitySql.Code.Token

/-!
# Paths

A path is a list of names joined by `::`, such as `std::vec::Vec<i32>`. A name may take arguments
between angle marks or round brackets; they are kept as they are written.

A path is recognised by its end: it agrees with a list of names when the two have the same names
at their ends, over the length of the shorter one. So `Vec` and `std::vec::Vec` both agree with
`std::vec::Vec`, and `my::Vec` does not.
-/

namespace EntitySql.Code

set_option autoImplicit false

/-- One name of a path and its arguments. -/
structure PathSegment where
  name : String
  arguments : List Token
  deriving DecidableEq, Repr

/-- Names joined by `::`, which start at the root of all names when the path is rooted. -/
structure CodePath where
  rooted : Bool
  segments : List PathSegment
  deriving DecidableEq, Repr

namespace PathSegment

/-- A name and its arguments as tokens. -/
def tokens (s : PathSegment) : List Token := .word s.name :: s.arguments

end PathSegment

namespace CodePath

/-- A path of names without arguments. -/
def ofNames (names : List String) : CodePath := ⟨false, names.map fun name => ⟨name, []⟩⟩

def names (p : CodePath) : List String := p.segments.map (·.name)

/-- The name that the path is, if it is nothing but one name. -/
def name? (p : CodePath) : Option String :=
  match p.rooted, p.segments with
  | false, [⟨name, []⟩] => some name
  | _, _ => none

/-- The path can be an expression: arguments only follow a `::`. -/
def isExpression (p : CodePath) : Bool :=
  p.segments.all fun s => s.arguments.isEmpty || s.arguments.head? == some (.mark "::")

/-- The path as tokens. -/
def tokens (p : CodePath) : List Token :=
  (if p.rooted then [Token.mark "::"] else []) ++
    [Token.mark "::"].intercalate (p.segments.map PathSegment.tokens)

/-- The path and the names agree at their ends. -/
def agreesWith (p : CodePath) (expected : List String) : Bool :=
  (p.names.reverse.zip expected.reverse).all fun (a, b) => a == b

end CodePath

/-! ## Reading paths -/

/-- The nesting after a token: angle marks and brackets open and close groups. -/
def nestingAfter (depth : Nat) : Token → Nat
  | .opening _ | .mark "<" => depth + 1
  | .closing _ | .mark ">" => depth - 1
  | _ => depth

/-- The tokens before the first one outside all groups at which to stop, and the others. -/
def spanOutside (stop : Token → Bool) (depth : Nat) : List Token → List Token × List Token
  | [] => ([], [])
  | t :: rest =>
    if depth = 0 && stop t then ([], t :: rest)
    else
      let (inside, others) := spanOutside stop (nestingAfter depth t) rest
      (t :: inside, others)

/-- The token closes a group. -/
def isClosing : Token → Bool
  | .closing _ | .mark ">" => true
  | _ => false

/-- The tokens up to the one that closes the group they are in, and what follows it; none when
another token closes it, or none does. -/
def readGroup? (close : Token) (ts : List Token) : Option (List Token × List Token) :=
  match spanOutside isClosing 0 ts with
  | (inside, t :: more) => if t = close then some (inside, more) else none
  | (_, []) => none

/-- The arguments after a name, with the marks or brackets around them, and what follows them. -/
def readArguments? : List Token → Option (List Token × List Token)
  | .mark "<" :: rest => enclosedBy [.mark "<"] (.mark ">") rest
  | .mark "::" :: .mark "<" :: rest => enclosedBy [.mark "::", .mark "<"] (.mark ">") rest
  | .opening .round :: rest => enclosedBy [.opening .round] (.closing .round) rest
  | ts => some ([], ts)
where
  /-- The arguments up to the token that closes them. -/
  enclosedBy (before : List Token) (close : Token) (rest : List Token) :
      Option (List Token × List Token) :=
    (readGroup? close rest).map fun (inside, more) => (before ++ inside ++ [close], more)

/-- The names of a path from the front of the tokens, at most `fuel` of them. -/
def readSegments? : Nat → List Token → Option (List PathSegment × List Token)
  | fuel + 1, .word name :: rest =>
    match readArguments? rest with
    | some (arguments, .mark "::" :: next) =>
      (readSegments? fuel next).map fun (others, more) => (⟨name, arguments⟩ :: others, more)
    | some (arguments, more) => some ([⟨name, arguments⟩], more)
    | none => none
  | _, _ => none

namespace CodePath

/-- A path from the front of the tokens, and what follows it. -/
def read? : List Token → Option (CodePath × List Token)
  | .mark "::" :: ts =>
    (readSegments? ts.length ts).map fun (segments, more) => (⟨true, segments⟩, more)
  | ts => (readSegments? ts.length ts).map fun (segments, more) => (⟨false, segments⟩, more)

/-- The path that the tokens are. -/
def ofTokens? (ts : List Token) : Option CodePath :=
  match read? ts with
  | some (p, []) => some p
  | _ => none

end CodePath

end EntitySql.Code
