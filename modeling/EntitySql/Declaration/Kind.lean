import EntitySql.Code.TypeExpr
import EntitySql.Value.Basic

/-!
# Kinds of declared fields

The type of a field says which kind of value its column holds and whether it may be null.

**Primitive types.** Numbers, booleans and characters are single words. Texts, decimals, dates and
the like are told by the end of their path, so `String` and `std::string::String` are the same.

**Wrappers.** An option may be null, a box is what it holds, and a list or a slice is a list of its
elements, which is never null itself. A slice of bytes is binary data.
-/

namespace EntitySql

set_option autoImplicit false

open Code

/-- Why the type of a field says nothing about its values. -/
inductive TypeRefusal where
  /-- A path that names no type of fields. -/
  | unsupported (type : TypeExpr)
  /-- An option, a box or a list of nothing. -/
  | missingArgument (type : TypeExpr)
  /-- Neither a path nor a slice. -/
  | unexpected (type : TypeExpr)
  deriving DecidableEq, Repr

namespace TypeRefusal

/-- The text of the refusal, which shows the type. -/
def message : TypeRefusal → String
  | unsupported t => "Unsupported field type `" ++ compact t.tokens ++ "`"
  | missingArgument t => "`" ++ compact t.tokens ++ "` must have a generic type argument"
  | unexpected t => "Unexpected type `" ++ compact t.tokens ++ "`"

end TypeRefusal

/-- The kind of the values of a field, by its empty value, and whether it may be null. -/
structure FieldKind where
  prototype : Value
  nullable : Bool

/-- The empty values of the primitive types that are one word. -/
def wordValues : List (String × Value) :=
  [("bool", .boolean none), ("i8", .int .int8 none), ("i16", .int .int16 none),
    ("i32", .int .int32 none), ("i64", .int .int64 none), ("u8", .int .uint8 none),
    ("u16", .int .uint16 none), ("u32", .int .uint32 none), ("u64", .int .uint64 none),
    ("f32", .float .float32 none), ("f64", .float .float64 none), ("char", .char none)]

/-- The empty values of the primitive types that are told by the end of a path, with their whole
path. -/
def pathValues : List (List String × Value) :=
  [(["std", "string", "String"], .varchar none), (["rust_decimal", "Decimal"], .decimal none 0 0),
    (["time", "Date"], .date none), (["time", "Time"], .time none),
    (["time", "PrimitiveDateTime"], .timestamp none),
    (["time", "OffsetDateTime"], .zoned none), (["uuid", "Uuid"], .uuid none)]

/-- The types that wrap another type. -/
inductive Wrapper where
  | option
  | box
  | list
  deriving DecidableEq, Repr

namespace Wrapper

/-- All wrappers with their whole path. -/
def paths : List (List String × Wrapper) :=
  [(["std", "option", "Option"], option), (["std", "boxed", "Box"], box),
    (["std", "vec", "Vec"], list)]

/-- The kind of a wrapped type. -/
def kind : Wrapper → FieldKind → FieldKind
  | option, inner => ⟨inner.prototype, true⟩
  | box, inner => inner
  | list, inner => ⟨.list none inner.prototype, false⟩

end Wrapper

namespace Code.CodePath

/-- What the first pair holds with whose names the path agrees. -/
def lookup? {α : Type} (p : CodePath) (table : List (List String × α)) : Option α :=
  (table.find? fun entry => p.agreesWith entry.1).map (·.2)

/-- The empty value of the type that is one word. -/
def wordValue? (p : CodePath) : Option Value := p.name?.bind fun name => wordValues.lookup name

/-- The empty value of the type told by the end of the path. -/
def pathValue? (p : CodePath) : Option Value := p.lookup? pathValues

/-- The wrapper told by the end of the path. -/
def wrapper? (p : CodePath) : Option Wrapper := p.lookup? Wrapper.paths

end Code.CodePath

namespace Code.TypeExpr

/-- The kind of a slice: bytes that may not be null are binary data. -/
def sliceKind (element : FieldKind) : FieldKind :=
  match element with
  | ⟨.int .uint8 _, false⟩ => ⟨.blob none, false⟩
  | ⟨prototype, _⟩ => ⟨.list none prototype, false⟩

/-- The kind of the fields of a type. -/
def kind : TypeExpr → Except TypeRefusal FieldKind
  | path p =>
    match p.wordValue?, p.pathValue? with
    | some v, _ | none, some v => .ok ⟨v, false⟩
    | none, none =>
      .error (if p.wrapper?.isSome then .missingArgument (path p) else .unsupported (path p))
  | applied p before argument after =>
    match p.pathValue?, p.wrapper? with
    | some v, _ => .ok ⟨v, false⟩
    | none, some w => argument.kind.map w.kind
    | none, none => .error (.unsupported (applied p before argument after))
  | slice element => element.kind.map sliceKind
  | other written => .error (.unexpected (other written))

end Code.TypeExpr

end EntitySql
