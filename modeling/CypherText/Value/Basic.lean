import CypherText.Number.Decimal
import CypherText.Number.Double
import CypherText.Time.Timestamp
import CypherText.Uuid

/-!
# Values

The values that become literals. Besides the plain kinds there are instances of derived types,
which keep the value of their base but show a text of their own, members of enumerations, and
objects of types that are not known, of which only the shown text matters.
-/

namespace CypherText

/-- A type as messages name it: its own name, and its path. -/
structure TypeRef where
  name : String
  path : String
  deriving DecidableEq, Repr

namespace TypeRef

/-- A type of the built-in module. -/
def builtin (name : String) : TypeRef :=
  ⟨name, "builtins." ++ name⟩

/-- The type of most classes. -/
def ofClasses : TypeRef :=
  .builtin "type"

/-- A type of the models module, with its name and the name inside the module. A zero cannot
stand in the name of a type. -/
def model (name qualified : String) : Except Failure TypeRef :=
  if name.toList.contains '\x00' then .error .malformed
  else .ok ⟨name, "app.models." ++ qualified⟩

end TypeRef

/-- How the bytes that a view shows lie in memory. -/
inductive Layout where
  /-- One behind the other. -/
  | contiguous
  /-- Apart from each other, or in another order. -/
  | scattered
  /-- Nowhere, since the view was given back. -/
  | released
  deriving DecidableEq, Repr

/-- The three kinds of byte strings. -/
inductive BytesKind where
  | immutable
  | mutable
  | view (layout : Layout)
  deriving DecidableEq, Repr

namespace BytesKind

/-- Why the bytes cannot be handed on in one piece, if they cannot. -/
def failure? : BytesKind → Option Failure
  | view .scattered => some .scattered
  | view .released => some .released
  | _ => none

end BytesKind

/-- What the class of a timestamp does when the timestamp is moved to another zone: it is given the
parts of the new one. -/
inductive Remaking where
  /-- It makes the timestamp. -/
  | made
  /-- It fails, in a way that the library does not report. -/
  | refused (failure : Failure) (isOther : failure.isFault = false)
  deriving Repr

/-- What the members of an enumeration are besides members. -/
inductive Mixin where
  /-- Nothing else. -/
  | bare
  /-- Values of the mixed-in kind, shown by the member's name. -/
  | named
  /-- Values of the mixed-in kind, shown as that value. -/
  | transparent
  deriving DecidableEq, Repr

/-- A value. -/
inductive Value where
  | null
  | bool (value : Bool)
  | int (value : Int)
  | double (value : Double)
  | decimal (value : Decimal)
  | text (value : String)
  | timestamp (value : Timestamp)
  | date (value : Date)
  | clock (value : Clock)
  | duration (value : Duration)
  | bytes (kind : BytesKind) (data : List UInt8)
  | uuid (value : Uuid)
  | list (items : List Value)
  | tuple (items : List Value)
  | map (entries : List (Value × Value))
  /-- An object of an unknown type, with its shown text. -/
  | foreign (type : TypeRef) (shown : String)
  /-- An instance of a type derived from that of `base`: equal to `base`, but shown as `shown`. What
  the type does with the parts of a timestamp only matters for timestamps. -/
  | derived (type : TypeRef) (base : Value) (shown : String) (remaking : Remaking)
  /-- A member of an enumeration. -/
  | member (mixin : Mixin) (type : TypeRef) (name : String) (value : Value)
  deriving Repr

namespace Value

/-- The value that tests on a value look at: that of the base for an instance of a derived type,
and the mixed-in value for a member that has one. -/
def content : Value → Value
  | derived _ base _ _ => base.content
  | member .named _ _ value => value.content
  | member .transparent _ _ value => value.content
  | value => value

/-- The characters of a value that counts as text. -/
def text? (v : Value) : Option String :=
  match v.content with
  | text s => some s
  | _ => none

/-- The bytes of a byte string as they are handed on in one piece. -/
def wholeBytes (kind : BytesKind) (data : List UInt8) : Except Failure (List UInt8) :=
  match kind.failure? with
  | some failure => .error failure
  | none => .ok data

/-- What the class of a value does with the parts of a timestamp. An enumeration makes no new
members. -/
def remaking : Value → Remaking
  | derived _ _ _ remaking => remaking
  | member _ _ _ _ => .refused .meaningless rfl
  | _ => .made

/-- The type of a byte string. -/
def bytesType : BytesKind → TypeRef
  | .immutable => .builtin "bytes"
  | .mutable => .builtin "bytearray"
  | .view _ => .builtin "memoryview"

/-- The type of a value. -/
def typeRef : Value → TypeRef
  | null => .builtin "NoneType"
  | bool _ => .builtin "bool"
  | int _ => .builtin "int"
  | double _ => .builtin "float"
  | decimal _ => ⟨"Decimal", "decimal.Decimal"⟩
  | text _ => .builtin "str"
  | timestamp _ => ⟨"datetime", "datetime.datetime"⟩
  | date _ => ⟨"date", "datetime.date"⟩
  | clock _ => ⟨"time", "datetime.time"⟩
  | duration _ => ⟨"timedelta", "datetime.timedelta"⟩
  | bytes kind _ => bytesType kind
  | uuid _ => ⟨"UUID", "uuid.UUID"⟩
  | list _ => .builtin "list"
  | tuple _ => .builtin "tuple"
  | map _ => .builtin "dict"
  | foreign type _ => type
  | derived type _ _ _ => type
  | member _ type _ _ => type

end Value

end CypherText
