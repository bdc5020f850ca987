import EntitySql.Declaration.Table

/-!
# Code for column descriptors

Each column of a declared entity is described by an expression for every member of its descriptor.
The kind of the values is written by its prototype: only the kind counts, the digits of a decimal
and the elements of a list included, and never the content.
-/

namespace EntitySql

set_option autoImplicit false

open Code

/-- Arguments between round brackets, with commas between them. -/
def argumentTokens (arguments : List (List Token)) : List Token :=
  enclosed .round ([Token.mark ","].intercalate arguments)

/-- A name of the library, from the root of all names. -/
def libraryTokens (names : List String) : List Token := rootedTokens ("tabula" :: names)

/-- A number of eight bits. -/
def smallNumberToken (n : Nat) : Token := .literal (toString n ++ "u8")

/-- An optional expression. -/
def optionTokens : Option (List Token) → List Token
  | none => [.word "None"]
  | some inner => .word "Some" :: enclosed .round inner

/-- The expression for the prototype of a value. -/
def Value.prototypeTokens : Value → List Token
  | .null => libraryTokens ["Value", "Null"]
  | .decimal _ precision scale =>
    libraryTokens ["Value", "Decimal"] ++
      argumentTokens [[.word "None"], [smallNumberToken precision], [smallNumberToken scale]]
  | .list _ element =>
    libraryTokens ["Value", "List"] ++
      argumentTokens [[.word "None"],
        pathTokens ["Box", "new"] ++ argumentTokens [element.prototypeTokens]]
  | v => libraryTokens ["Value", v.kindName] ++ argumentTokens [[.word "None"]]

namespace FieldMapping

/-- The members of the descriptor of a column and their expressions, given the place of the column
among those of its entity. -/
def descriptor (m : FieldMapping) (position : Nat) : List (String × List Token) :=
  [("field", [.text m.field]),
    ("name", [.text m.name]),
    ("storage", libraryTokens ["StorageType", m.storage.name]),
    ("value", m.prototype.prototypeTokens),
    ("nullable", [.word (if m.nullable then "true" else "false")]),
    ("primary_key", libraryTokens ["PrimaryKeyType", m.key.name]),
    ("position", [.literal (toString position ++ "usize")]),
    ("encoding", libraryTokens ["Encoding", m.charset.name]),
    ("scale", optionTokens (m.scale.map fun n => [smallNumberToken n])),
    ("converter", optionTokens (m.converter.map fun path =>
      path.tokens ++ .word "as" :: libraryTokens ["Converter"]))]

end FieldMapping

/-- The descriptors of all columns of an entity. -/
def EntityMapping.descriptors (m : EntityMapping) : List (List (String × List Token)) :=
  m.columns.mapIdx fun position f => f.descriptor position

end EntitySql
