import EntitySql.Code.Token.Lexer
import EntitySql.Declaration.Table

/-!
# Code for reading rows

The code that reads a row into a declared entity. It opens an empty place for every column, gives
each labeled value of the row to the first column of that name whose place is empty, and then
builds the entity: columns first, then contained entities, then what is not kept. A column without
a value is empty if it may be null, and an error otherwise.
-/

namespace EntitySql

set_option autoImplicit false

open Code

/-- The function of a type that makes members from values or values from members. -/
def conversionTokens (type : TypeExpr) (function : String) : List Token :=
  .mark "<" :: type.tokens ++ tokensOf "as ::tabula::AsValue>::" ++ [.word function]

namespace FieldMapping

/-- The empty place for the value of a column. -/
def placeTokens (m : FieldMapping) : List Token :=
  tokensOf "let mut" ++ [.word m.field] ++ tokensOf ": Option<" ++ m.type.tokens ++
    tokensOf "> = None;"

/-- Gives a value to the column when the label is its name and its place is empty. -/
def takeTokens (m : FieldMapping) : List Token :=
  [.word "if", .word m.field] ++ tokensOf ".is_none() && __n__.eq_ignore_ascii_case" ++
    enclosed .round [.text m.name] ++
    enclosed .curly ([.word m.field] ++ tokensOf "= Some" ++
      enclosed .round (conversionTokens m.type "try_from_value" ++ tokensOf "(__v__.clone())?") ++
      tokensOf "; continue;")

/-- The member of the entity that is kept in a column. -/
def columnMemberTokens (m : FieldMapping) : List Token :=
  let value :=
    if m.nullable then
      [.word "match", .word m.field] ++ enclosed .curly (tokensOf "Some(v) => v, None =>" ++
        conversionTokens m.type "try_from_value" ++
        enclosed .round (conversionTokens m.type "as_empty_value" ++ tokensOf "(),") ++
        tokensOf "?,")
    else
      [.word m.field] ++ tokensOf ".ok_or_else" ++
        enclosed .round (tokensOf "|| __make_error__" ++ enclosed .round [.text m.name]) ++
        [.mark "?"]
  [.word m.field, .mark ":"] ++ value ++ [.mark ","]

/-- The member of the entity that is a contained entity. -/
def inheritedMemberTokens (m : FieldMapping) : List Token :=
  [.word m.field, .mark ":", .mark "<"] ++ m.type.tokens ++
    tokensOf "as ::tabula::Entity>::from_row(row.clone())?,"

/-- The member of the entity that is not kept. -/
def skippedMemberTokens (m : FieldMapping) : List Token :=
  [.word m.field] ++ tokensOf ": Default::default(),"

end FieldMapping

namespace EntityMapping

/-- The error for a column without a value. -/
def missingTokens (m : EntityMapping) : List Token :=
  tokensOf "#[allow(unused)] let __make_error__ = |name: &str|" ++
    enclosed .curly (tokensOf "::tabula::Error::model" ++ enclosed .round (tokensOf "format!" ++
      enclosed .round
        ([.text "Column `\x7b\x7d` of `\x7b\x7d` does not exist in the row provided", .mark ","] ++
          tokensOf "name," ++ [.text m.typeName, .mark ","]))) ++
    [.mark ";"]

/-- The entity built from the places. -/
def buildTokens (m : EntityMapping) : List Token :=
  [.word "Ok"] ++ enclosed .round ([.word m.typeName] ++ enclosed .curly
    (m.columns.flatMap FieldMapping.columnMemberTokens ++
      (m.withRole .inherit).flatMap FieldMapping.inheritedMemberTokens ++
      (m.withRole .skip).flatMap FieldMapping.skippedMemberTokens))

/-- The function that reads a row. -/
def rowReader (m : EntityMapping) : List Token :=
  tokensOf "fn from_row(row: ::tabula::RowLabeled) -> ::tabula::Result<Self>" ++
    enclosed .curly
      (m.columns.flatMap FieldMapping.placeTokens ++
        tokensOf "for (__n__, __v__) in row.labels.iter().zip(row.values.iter())" ++
        enclosed .curly (m.columns.flatMap FieldMapping.takeTokens) ++
        m.missingTokens ++ m.buildTokens)

end EntityMapping

end EntitySql
