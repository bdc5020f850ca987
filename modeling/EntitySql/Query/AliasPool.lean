import EntitySql.Query.Basic
import EntitySql.Text.Quoted

/-!
# Aliases

The tables of a query and of the queries nested in it take their aliases from one pool. An alias
is reserved once; a minted alias is a letter and the least number that is free behind it.
-/

namespace EntitySql

set_option autoImplicit false

/-- The aliases taken so far, in increasing order. -/
structure AliasPool where
  taken : List String
deriving DecidableEq, Repr

namespace AliasPool

/-- The pool no alias was taken from. -/
def empty : AliasPool := ⟨[]⟩

/-- The alias is taken. -/
def contains (p : AliasPool) (name : String) : Bool := p.taken.contains name

/-- Puts an alias at its place. -/
def place (name : String) : List String → List String
  | [] => [name]
  | first :: rest =>
    if first < name then first :: place name rest else name :: first :: rest

/-- The pool with one more alias taken. -/
def add (p : AliasPool) (name : String) : AliasPool := ⟨place name p.taken⟩

/-- Takes an alias that must be free. -/
def reserve (p : AliasPool) (name : String) : Except Error AliasPool :=
  if p.contains name then .error (.aliasCollision name) else .ok (p.add name)

/-- A letter in lower case and a number. -/
def numbered (letter : Char) (n : Nat) : String :=
  String.ofList (letter.toLower :: (toString n).toList)

/-- The least number free behind a letter. Of one number more than there are aliases, one is
free. -/
def leastFree (p : AliasPool) (letter : Char) : Nat :=
  ((List.range (p.taken.length + 1)).find? fun n => !p.contains (numbered letter n)).getD 0

/-- Takes the first free alias of a letter. -/
def mint (p : AliasPool) (letter : Char) : String × AliasPool :=
  let name := numbered letter (p.leastFree letter)
  (name, p.add name)

/-- The pool as shown: the aliases between braces. -/
def shown (p : AliasPool) : String :=
  "\x7b" ++ String.intercalate ", " (p.taken.map Text.quoted) ++ "\x7d"

/-- What follows the last double colon of a text, or else the text found so far. -/
def lastSegment (found : List Char) : List Char → List Char
  | ':' :: ':' :: rest => lastSegment rest rest
  | _ :: rest => lastSegment found rest
  | [] => found

/-- The letter of the aliases of a table: the first ASCII letter of its name. -/
def initial (name : String) (fallback : Char) : Char :=
  ((lastSegment name.toList name.toList).find? Char.isAlpha).getD fallback

/-- A table under the given alias, or under one minted for a letter. -/
def bind (p : AliasPool) (aliasName : Option String) (letter : Char) (source : TableSource) :
    Except Error (Table × AliasPool) :=
  match aliasName with
  | some name => (p.reserve name).map fun p => (⟨name, source⟩, p)
  | none =>
    let (name, p) := p.mint letter
    .ok (⟨name, source⟩, p)

/-- A table of an entity. -/
def entityTable (p : AliasPool) (s : EntitySchema) (aliasName : Option String) :
    Except Error (Table × AliasPool) :=
  p.bind aliasName (initial s.typeName 'e') (.entity s)

/-- A table known by name. -/
def namedTable (p : AliasPool) (name : String) (aliasName : Option String) :
    Except Error (Table × AliasPool) :=
  p.bind aliasName (initial name 't') (.named name)

/-- A query as a table. -/
def subQueryTable (p : AliasPool) (q : Query) (aliasName : Option String) :
    Except Error (Table × AliasPool) :=
  p.bind aliasName 'q' (.subQuery q)

end AliasPool

end EntitySql
