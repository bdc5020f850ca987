import EntitySql.Code.Path

/-!
# Types in declarations

The type of a field is written as a path, possibly applied to arguments, as a slice, or in another
way that says nothing about values. Of the arguments of a path only the first type counts; what
stands around it is kept so that a type can be shown as it was written.
-/

namespace EntitySql.Code

set_option autoImplicit false

/-- A type as it is written in a declaration. -/
inductive TypeExpr where
  /-- A path without a type among the arguments of its last name. -/
  | path (path : CodePath)
  /-- A path whose last name is applied to arguments: the first type among them, and what stands
  before and after it. -/
  | applied (path : CodePath) (before : List Token) (argument : TypeExpr) (after : List Token)
  | slice (element : TypeExpr)
  /-- A tuple, an array, a reference or any other type, as it is written. -/
  | other (written : List Token)
  deriving DecidableEq, Repr

namespace TypeExpr

/-- The type as tokens. -/
def tokens : TypeExpr → List Token
  | path p => p.tokens
  | applied p before argument after => p.tokens ++ before ++ argument.tokens ++ after
  | slice element => enclosed .square element.tokens
  | other written => written

/-! ## Reading types -/

/-- A type ends before the token. -/
def endsBefore (t : Token) : Bool :=
  match t with
  | .mark symbol => symbol = "," || symbol = ";" || symbol = ">"
  | .closing _ => true
  | _ => false

/-- An argument that is not a type, or what separates arguments. -/
def passedOver (t : Token) : Bool :=
  match t with
  | .lifetime _ | .literal _ => true
  | .mark symbol => symbol = ","
  | _ => false

/-- Words with which types other than paths start. -/
def startsOther (w : String) : Bool :=
  ["_", "dyn", "impl", "fn", "unsafe", "extern", "for"].contains w

/-- Divides arguments at the first type among them, with a reader of types. -/
def divideArguments? (read : List Token → Option (TypeExpr × List Token)) (arguments : List Token) :
    Option (List Token × TypeExpr × List Token) :=
  match arguments with
  | .mark "<" :: members => divide [.mark "<"] members
  | .mark "::" :: .mark "<" :: members => divide [.mark "::", .mark "<"] members
  | _ => none
where
  /-- Divides what follows the angle mark that opens the arguments. -/
  divide (opens members : List Token) : Option (List Token × TypeExpr × List Token) :=
    let before := opens ++ members.takeWhile passedOver
    match read (members.dropWhile passedOver) with
    | some (t, .mark "," :: after) => some (before, t, .mark "," :: after)
    | some (t, .mark ">" :: after) => some (before, t, .mark ">" :: after)
    | _ => none

/-- The type that a path is, with a reader of the types inside its arguments. -/
def ofPath (read : List Token → Option (TypeExpr × List Token)) (p : CodePath) : TypeExpr :=
  match p.segments.getLast? with
  | none => .path p
  | some last =>
    match divideArguments? read last.arguments with
    | none => .path p
    | some (before, argument, after) =>
      .applied { p with segments := p.segments.dropLast ++ [⟨last.name, []⟩] } before argument after

/-- A type that is no path and no slice, up to where types end. -/
def readOther? (ts : List Token) : Option (TypeExpr × List Token) :=
  match spanOutside endsBefore 0 ts with
  | ([], _) => none
  | (written, more) => some (.other written, more)

/-- A type from the front of the tokens, and what follows it; types are nested at most `fuel`
deep. -/
def read? : Nat → List Token → Option (TypeExpr × List Token)
  | 0, _ => none
  | fuel + 1, .opening .square :: rest =>
    match read? fuel rest with
    | some (element, .closing .square :: more) => some (.slice element, more)
    | _ => readOther? (.opening .square :: rest)
  | fuel + 1, ts =>
    match ts, CodePath.read? ts with
    | .word w :: _, some (p, more) =>
      if startsOther w then readOther? ts else some (ofPath (read? fuel) p, more)
    | _, some (p, more) => some (ofPath (read? fuel) p, more)
    | _, none => readOther? ts

/-- The type that the tokens are. -/
def ofTokens? (ts : List Token) : Option TypeExpr :=
  match read? (ts.length + 1) ts with
  | some (t, []) => some t
  | _ => none

end TypeExpr

end EntitySql.Code
