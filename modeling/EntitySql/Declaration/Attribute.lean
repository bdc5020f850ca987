import EntitySql.Code.Path

/-!
# Attributes

Declarations and their fields carry attributes. An attribute that concerns the mapping is a list of
entries separated by commas; an entry is a path, and may have a value after an equals sign:
a text, a literal, a path or a tuple of values.

**Reading a list.** Entries are read from the front. Where no entry starts, or no comma follows
one, reading stops; what is left then counts for nothing.
-/

namespace EntitySql

set_option autoImplicit false

open Code

/-- The value of an entry. -/
inductive EntryValue where
  | text (content : String)
  /-- A number or a character, as it is written. -/
  | literal (written : String)
  | path (path : CodePath)
  | tuple (members : List EntryValue)
  /-- Anything else. -/
  | other
  deriving Repr

/-- One entry of an attribute. -/
structure AttributeEntry where
  path : CodePath
  /-- What stands after the equals sign, if there is one. -/
  value : Option EntryValue
  deriving Repr

/-- An attribute: its path and, when it is written as a list, what stands between the brackets. -/
structure Attribute where
  path : CodePath
  arguments : Option (List Token)
  deriving Repr

/-! ## Reading values -/

/-- The parts between the commas that are outside all groups. -/
def splitCommas (depth : Nat) : List Token → List (List Token)
  | [] => [[]]
  | t :: rest =>
    if depth = 0 && t == .mark "," then [] :: splitCommas 0 rest
    else
      match splitCommas (nestingAfter depth t) rest with
      | [] => [[t]]
      | part :: parts => (t :: part) :: parts

/-- The members of a tuple, given what stands between its brackets; a single part is a tuple only
when a comma follows it. -/
def tupleParts? (inside : List Token) : Option (List (List Token)) :=
  match splitCommas 0 inside with
  | [[]] => some []
  | [_] => none
  | parts => if parts.getLast? = some [] then some parts.dropLast else some parts

/-- The value that all of the tokens are, with a reader of values. -/
def EntryValue.ofWhole (read : List Token → EntryValue × List Token) (ts : List Token) :
    EntryValue :=
  match read ts with
  | (v, []) => v
  | _ => .other

/-- A value from the front of the tokens, and what follows it; tuples are nested less than `fuel`
deep. -/
def EntryValue.read : Nat → List Token → EntryValue × List Token
  | _, .text content :: rest => (.text content, rest)
  | _, .literal written :: rest => (.literal written, rest)
  | 0, _ => (.other, [])
  | fuel + 1, .opening .round :: rest =>
    match readGroup? (.closing .round) rest with
    | some (inside, more) =>
      match tupleParts? inside with
      | some parts => (.tuple (parts.map (EntryValue.ofWhole (EntryValue.read fuel))), more)
      | none => (.other, more)
    | none => (.other, [])
  | _ + 1, ts =>
    match CodePath.read? ts with
    | some (p, more) => (.path p, more)
    | none => (.other, [])

/-! ## Reading entries -/

/-- Names joined by `::` from the front of the tokens, and what follows them. -/
def readNames? : List Token → Option (List String × List Token)
  | .word name :: .mark "::" :: rest =>
    (readNames? rest).map fun (names, more) => (name :: names, more)
  | .word name :: rest => some ([name], rest)
  | _ => none

/-- A path without arguments from the front of the tokens, and what follows it. -/
def readPath? : List Token → Option (CodePath × List Token)
  | .mark "::" :: ts =>
    (readNames? ts).map fun (names, more) => ({ CodePath.ofNames names with rooted := true }, more)
  | ts => (readNames? ts).map fun (names, more) => (.ofNames names, more)

/-- The value is a path. -/
def EntryValue.isPath : EntryValue → Bool
  | .path _ => true
  | _ => false

/-- The tokens go on with the expression before them, so that the value is only a part of it: by an
operator, a call or an index, after a path also by a body or a macro call. -/
def EntryValue.goesOn (v : EntryValue) : List Token → Bool
  | .word w :: _ => w == "as"
  | .opening b :: _ => b != .curly || v.isPath
  | .mark "!" :: rest => v.isPath || rest.head? == some (.mark "=")
  | .mark m :: _ =>
    ["+", "-", "->", "*", "/", "%", "^", "&", "|", "<", ">", "=", ".", "?"].contains m
  | _ => false

/-- An entry from the front of the tokens, and what follows it. The value of a primary key is a
whole expression. -/
def AttributeEntry.read? (ts : List Token) : Option (AttributeEntry × List Token) :=
  match readPath? ts with
  | some (path, .mark "=" :: rest) =>
    let (value, more) := EntryValue.read (rest.length + 1) rest
    if path.name? = some "primary_key" ∧ value.goesOn more = true then
      some (⟨path, some .other⟩, [])
    else some (⟨path, some value⟩, more)
  | some (path, .mark "=>" :: _) => some (⟨path, some .other⟩, [])
  | some (path, more) => some (⟨path, none⟩, more)
  | none => none

/-- The entries of a list, at most `fuel` of them. -/
def readEntries : Nat → List Token → List AttributeEntry
  | 0, _ => []
  | fuel + 1, ts =>
    match AttributeEntry.read? ts with
    | none => []
    | some (entry, .mark "," :: more) => entry :: readEntries fuel more
    | some (entry, _) => [entry]

namespace Attribute

/-- The attribute that the tokens are. -/
def ofTokens? (ts : List Token) : Option Attribute :=
  match readPath? ts with
  | some (path, .opening _ :: inside) => some ⟨path, some inside.dropLast⟩
  | some (path, _) => some ⟨path, none⟩
  | none => none

/-- The attribute concerns the mapping of the entity; others are passed over. -/
def isMapping (a : Attribute) : Bool := a.path.name? == some "tabula"

/-- The entries of an attribute that is written as a list. -/
def entries? (a : Attribute) : Option (List AttributeEntry) :=
  a.arguments.map fun ts => readEntries ts.length ts

end Attribute

end EntitySql
