import EntitySql.Error

/-!
# Streams of large objects

A large object is a stream of bytes with a declared length. Draining it takes all bytes; a stream
that fails, or ends before the declared length, yields nothing.
-/

namespace EntitySql

set_option autoImplicit false

/-- A stream: the bytes it holds, the length declared for them, and how its reads fail, if they
do. -/
structure LargeObject where
  bytes : List UInt8
  declared : Nat
  failure : Option String
deriving DecidableEq, Repr

namespace LargeObject

/-- A sound stream of the given bytes. -/
def ofBytes (bytes : List UInt8) : LargeObject := ⟨bytes, bytes.length, none⟩

/-- Nothing is declared. -/
def isEmpty (o : LargeObject) : Bool := o.declared == 0

/-- Lengths from here on exceed every memory. -/
def lengthBound : Nat := twoTo 63

/-- All bytes of the stream, or why they cannot be had. -/
def drain (o : LargeObject) : Except (Abort ⊕ StreamFault) (List UInt8) :=
  if lengthBound ≤ o.declared then .error (.inl .lengthOutOfRange)
  else
    match o.failure with
    | some cause => .error (.inr (.unreadable cause))
    | none =>
      if o.bytes.length < o.declared then .error (.inr (.short o.bytes.length o.declared))
      else .ok o.bytes

end LargeObject

/-- A value as handed to a driver or received from it. -/
inductive DriverValue where
  /-- The null of a kind. -/
  | null (kind : Value)
  | scalar (v : Value)
  | characters (stream : LargeObject)
  | binary (stream : LargeObject)

namespace DriverValue

/-- Nulls become nulls of their kind, other values are scalars. -/
def ofValue (v : Value) : DriverValue := if v.isNull then null v.prototype else scalar v

/-- The driver value as shown in messages; of a stream only its length. -/
def shown : DriverValue → String
  | null v => "Null(" ++ v.shown ++ ")"
  | scalar v => "Scalar(" ++ v.shown ++ ")"
  | characters o => "CharacterStream(LargeObject \x7b length: " ++ toString o.declared ++ ", .. \x7d)"
  | binary o => "BinaryStream(LargeObject \x7b length: " ++ toString o.declared ++ ", .. \x7d)"

end DriverValue

end EntitySql
