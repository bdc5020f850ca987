import EntitySql.Calendar.Moment
import EntitySql.Number.Binary
import EntitySql.Number.Decimal
import EntitySql.Number.IntKind
import EntitySql.Value.Uuid

/-!
# Dynamically typed values

A value carries its kind and, unless it is null, a content. Every kind but plain null has its own
null, so a null still says what it would have been.

**Prototypes.** A value without content describes the kind of a column: a decimal prototype holds
precision and scale, a list prototype the prototype of its elements. `sameType` compares kinds,
`equals` compares contents too: numbers by value, instants across zones, and no floating-point
number that is no number equals anything.
-/

namespace EntitySql

set_option autoImplicit false

/-- A value of one of the kinds a column can hold, or the null of that kind. -/
inductive Value where
  | null
  | boolean (content : Option Bool)
  | int (kind : IntKind) (content : Option (FixedInt kind))
  | float (kind : FloatKind) (content : Option (Binary kind))
  | decimal (content : Option Decimal) (precision scale : Nat)
  | char (content : Option Char)
  | varchar (content : Option String)
  | blob (content : Option (List UInt8))
  | date (content : Option Date)
  | time (content : Option TimeOfDay)
  | timestamp (content : Option Moment)
  | zoned (content : Option ZonedMoment)
  | uuid (content : Option Uuid)
  | list (items : Option (List Value)) (element : Value)
  /-- Text of a driver that did not report a kind. -/
  | unknown (content : Option String)
deriving Inhabited

namespace Value

/-- The value has no content. -/
def isNull : Value → Bool
  | null => true
  | boolean v => v.isNone
  | int _ v => v.isNone
  | float _ v => v.isNone
  | decimal v _ _ => v.isNone
  | char v => v.isNone
  | varchar v => v.isNone
  | blob v => v.isNone
  | date v => v.isNone
  | time v => v.isNone
  | timestamp v => v.isNone
  | zoned v => v.isNone
  | uuid v => v.isNone
  | list v _ => v.isNone
  | unknown v => v.isNone

/-- The null of the same kind. -/
def prototype : Value → Value
  | null => null
  | boolean _ => boolean none
  | int k _ => int k none
  | float k _ => float k none
  | decimal _ p s => decimal none p s
  | char _ => char none
  | varchar _ => varchar none
  | blob _ => blob none
  | date _ => date none
  | time _ => time none
  | timestamp _ => timestamp none
  | zoned _ => zoned none
  | uuid _ => uuid none
  | list _ e => list none e
  | unknown _ => unknown none

/-- Dates, times and moments. -/
def isTemporal : Value → Bool
  | date _ | time _ | timestamp _ | zoned _ => true
  | _ => false

/-- Characters and texts. -/
def isTextual : Value → Bool
  | char _ | varchar _ | unknown _ => true
  | _ => false

/-- The content of a text. -/
def text? : Value → Option String
  | varchar v | unknown v => v
  | _ => none

/-- The kinds agree: precision and scale of decimals, and the elements of lists, included. -/
def sameType : Value → Value → Bool
  | null, null => true
  | boolean _, boolean _ => true
  | int k _, int l _ => k == l
  | float k _, float l _ => k == l
  | decimal _ p s, decimal _ q t => p == q && s == t
  | char _, char _ => true
  | varchar _, varchar _ => true
  | blob _, blob _ => true
  | date _, date _ => true
  | time _, time _ => true
  | timestamp _, timestamp _ => true
  | zoned _, zoned _ => true
  | uuid _, uuid _ => true
  | list _ e, list _ f => sameType e f
  | unknown _, unknown _ => true
  | _, _ => false

/-- Two optional contents are both absent or agree. -/
def agree {α β : Type} (same : α → β → Bool) : Option α → Option β → Bool
  | none, none => true
  | some a, some b => same a b
  | _, _ => false

mutual
/-- The values have one kind and equal contents. -/
def equals : Value → Value → Bool
  | null, null => true
  | boolean a, boolean b => a == b
  | int k a, int l b => k == l && agree (fun x y => x.val == y.val) a b
  | float k a, float l b =>
    if h : k = l then agree Binary.equals (h ▸ a) b else false
  | decimal a p s, decimal b q t => agree Decimal.sameValue a b && p == q && s == t
  | char a, char b => a == b
  | varchar a, varchar b => a == b
  | blob a, blob b => a == b
  | date a, date b => a == b
  | time a, time b => a == b
  | timestamp a, timestamp b => a == b
  | zoned a, zoned b => agree (fun x y => x.instant == y.instant) a b
  | uuid a, uuid b => a == b
  | list none e, list none f => sameType e f
  | list (some xs) e, list (some ys) f => allEqual xs ys && sameType e f
  | unknown a, unknown b => a == b
  | _, _ => false
  termination_by structural v => v

/-- The lists have one length and equal members. -/
def allEqual : List Value → List Value → Bool
  | [], [] => true
  | x :: xs, y :: ys => equals x y && allEqual xs ys
  | _, _ => false
  termination_by structural vs => vs
end

/-! ## Laws -/

@[simp] theorem isNull_prototype (v : Value) : v.prototype.isNull = true := by
  cases v <;> rfl

@[simp] theorem prototype_prototype (v : Value) : v.prototype.prototype = v.prototype := by
  cases v <;> rfl

/-- Every value has its own kind. -/
theorem sameType_refl (v : Value) : v.sameType v = true := by
  cases v with
  | list items e => simpa [sameType] using sameType_refl e
  | _ => simp [sameType]

@[simp] theorem isTemporal_prototype (v : Value) : v.prototype.isTemporal = v.isTemporal := by
  cases v <;> rfl

@[simp] theorem isTextual_prototype (v : Value) : v.prototype.isTextual = v.isTextual := by
  cases v <;> rfl

end Value

end EntitySql
