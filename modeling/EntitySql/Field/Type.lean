import EntitySql.Field.Primitive

/-!
# Types of entity fields

Field types are built from the primitive types by options, boxes and lists. Each wrapper lifts the
empty value, the value of a member and the conversions:

* an option is absent where the value is null;
* a box is transparent;
* a list is a list value whose element prototype is the empty value of its members; a null list
  converts to the empty list.

Lists are never read from text.
-/

namespace EntitySql

set_option autoImplicit false

/-- The types of fields. -/
inductive FieldType where
  | primitive (p : Primitive)
  | option (t : FieldType)
  | box (t : FieldType)
  | list (t : FieldType)
deriving DecidableEq, Repr

namespace FieldType

/-- The members of a field type. -/
abbrev Carrier : FieldType → Type
  | primitive p => p.Carrier
  | option t => Option t.Carrier
  | box t => t.Carrier
  | list t => List t.Carrier

/-- The full name of the type. -/
def name : FieldType → String
  | primitive p => p.name
  | option t => "core::option::Option<" ++ t.name ++ ">"
  | box t => "alloc::boxed::Box<" ++ t.name ++ ">"
  | list t => "alloc::vec::Vec<" ++ t.name ++ ">"

/-- The null of the type, which is also the prototype of its columns. -/
def empty : FieldType → Value
  | primitive p => p.empty
  | option t => t.empty
  | box t => t.empty
  | list t => .list none t.empty

/-- The type has an absent member: options have one, and boxes around them. -/
def nullable : FieldType → Bool
  | primitive _ => false
  | option _ => true
  | box t => t.nullable
  | list _ => false

/-- The value of a member. -/
def toValue : (t : FieldType) → t.Carrier → Value
  | primitive p, x => p.toValue x
  | option t, some x => t.toValue x
  | option t, none => t.empty
  | box t, x => t.toValue x
  | list t, xs => .list (some (xs.map t.toValue)) t.empty

/-- Converts a value of any kind. -/
def ofValue : (t : FieldType) → Value → Except Error t.Carrier
  | primitive p, v => p.ofValue v
  | option t, v => if v.isNull then .ok none else (t.ofValue v).map some
  | box t, v => t.ofValue v
  | list t, .list (some vs) _ => vs.mapM t.ofValue
  | list _, .list none _ => .ok []
  | list t, v => .error (.ofValue v (list t).name)

/-- Reads a whole text. The word for null is an absent option. -/
def parse : (t : FieldType) → String → Except Error t.Carrier
  | primitive p, s => p.parse s
  | option t, s => if Text.eqIgnoringCase s "null" then .ok none else (t.parse s).map some
  | box t, s => t.parse s
  | list t, s => .error (.ofText s (list t).name)

/-- Reads a member at the start of a text; the text left over is returned. Only primitive types
can be read so. -/
def extract : (t : FieldType) → String → Except Error (t.Carrier × String)
  | primitive p, s => p.extract s
  | t, s => .error (.ofText s t.name)

end FieldType

end EntitySql
