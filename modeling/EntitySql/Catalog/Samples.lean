import EntitySql.Catalog.Book
import EntitySql.Catalog.Converters
import EntitySql.Entity.Declared

/-!
# Sample entities

Entities that show what can be declared: keys of one and of several columns, decimals with
precision and scale, optional fields, large objects in several character sets, converters,
fields that are not kept, entities inside entities, and one column of every kind.
-/

namespace EntitySql.Catalog

set_option autoImplicit false

/-! ## Types of fields -/

def int32 : FieldType := .primitive (.int .int32)

def int64 : FieldType := .primitive (.int .int64)

def text : FieldType := .primitive .text

def optionalText : FieldType := .option text

def decimal : FieldType := .primitive .decimal

/-- A decimal of a precision and a scale. -/
def amount (field : String) (precision scale : Nat) : ColumnField :=
  { ColumnField.plain field decimal with precision := some precision, scale := some scale }

/-- The only column of a key. -/
def keyField (field : String) (type : FieldType) : ColumnField :=
  { ColumnField.plain field type with key := .whole }

/-- One of several columns of a key. -/
def keyPart (field : String) (type : FieldType) : ColumnField :=
  { ColumnField.plain field type with key := .part }

/-! ## Entities -/

/-- People with an age, and perhaps a city. -/
def user : Declared where
  typeName := "User"
  table := ⟨"USERS", ""⟩
  members :=
    .column (keyField "id" int64) <|
    .column (.plain "name" text) <|
    .column (.plain "age" int32) <|
    .column (.plain "city" optionalText) .nil

/-- Orders of users. -/
def order : Declared where
  typeName := "Order"
  table := ⟨"ORDERS", ""⟩
  members :=
    .column (keyField "id" int64) <|
    .column (.plain "user_id" int64) <|
    .column (amount "total" 10 2) .nil

/-- Bank accounts: with a converter, a date in milliseconds, a large text and an unkept field. -/
def account : Declared where
  typeName := "Account"
  table := ⟨"ACCOUNTS", "bank"⟩
  members :=
    .column (keyField "id" int64) <|
    .column { ColumnField.plain "owner_name" text with name := "OWNER" } <|
    .column (amount "balance" 12 2) <|
    .column (.plain "nickname" optionalText) <|
    .column { ColumnField.plain "opened" (.primitive .date) with storage := .longDate } <|
    .column
      { ColumnField.plain "notes" optionalText with
        storage := .largeCharacter
        charset := .utf16Le } <|
    .column { ColumnField.plain "code" text with converter := some Converters.upper } <|
    .skip "cache" (List String) [] .nil

/-- Who made something, and its version. -/
def audit : Declared where
  typeName := "Audit"
  table := ⟨"AUDITED", ""⟩
  members :=
    .column (.plain "created_by" text) <|
    .column (.plain "version" int32) .nil

/-- Documents, which contain an audit. -/
def document : Declared where
  typeName := "Document"
  table := ⟨"DOCUMENT", ""⟩
  members :=
    .column (keyField "id" int32) <|
    .inherit "audit" audit <|
    .column (.plain "title" text) .nil

/-- Documents with a signature. -/
def signedDocument : Declared where
  typeName := "SignedDocument"
  table := ⟨"SIGNED_DOCUMENTS", ""⟩
  members :=
    .inherit "document" document <|
    .column (.plain "signature" (.primitive .bytes)) .nil

/-- Branches, with a key of two columns. -/
def branch : Declared where
  typeName := "Branch"
  table := ⟨"BRANCH", ""⟩
  members :=
    .column (keyPart "code" text) <|
    .column (keyPart "region" (.primitive (.int .int16))) <|
    .column (.plain "label" optionalText) .nil

/-- One column of every kind. -/
def allKinds : Declared where
  typeName := "AllKinds"
  table := ⟨"ALL_KINDS", "my schema"⟩
  members :=
    .column (.plain "_flag" (.primitive .boolean)) <|
    .column (.plain "tiny" (.primitive (.int .int8))) <|
    .column (.plain "small" (.option (.primitive (.int .int16)))) <|
    .column (.plain "byte" (.primitive (.int .uint8))) <|
    .column (.plain "word" (.primitive (.int .uint16))) <|
    .column (.plain "dword" (.primitive (.int .uint32))) <|
    .column (keyPart "qword" (.primitive (.int .uint64))) <|
    .column (.plain "single" (.primitive (.float .float32))) <|
    .column
      { ColumnField.plain "double" (.option (.primitive (.float .float64))) with
        scale := some 3 } <|
    .column (.plain "letter" (.primitive .char)) <|
    .column (.plain "free" (.option decimal)) <|
    .column (.plain "data" (.option (.primitive .bytes))) <|
    .column (.plain "day" (.option (.primitive .date))) <|
    .column (.plain "hour" (.option (.primitive .time))) <|
    .column
      { ColumnField.plain "moment" (.option (.primitive .moment)) with storage := .dateTime } <|
    .column
      { ColumnField.plain "instant" (.option (.primitive .zoned)) with storage := .timestamp } <|
    .column { keyPart "key" (.primitive .uuid) with name := "order" } <|
    .column (.plain "tags" (.list (.primitive (.int .int16)))) <|
    .column
      { ColumnField.plain "memo" (.box text) with
        storage := .largeObjectBinary
        charset := .latin1 } .nil

/-- An entity without fields. -/
def emptyEntity : Declared where
  typeName := "Empty"
  table := ⟨"EMPTY", ""⟩
  members := .nil

/-- The declared entities. -/
def declared : List Declared :=
  [user, order, account, audit, document, signedDocument, branch, allKinds, emptyEntity]

/-- The entity of a type name. -/
def find? (typeName : String) : Option Entity :=
  (declared.map Declared.toEntity ++ [book]).find? fun e => e.typeName == typeName

end EntitySql.Catalog
