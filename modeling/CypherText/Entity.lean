import CypherText.Property
import CypherText.Value.Equality

/-!
# Entities

An entity is an object that a node or a relationship can be made from. What can be read off it,
and whether anything can, depends on how its class is made. `Extracted` is what is read: a type
name and the properties.
-/

namespace CypherText

/-- A class: its name and path, and the label that it carries for its instances, if any. -/
structure EntityClass where
  type : TypeRef
  label : Option Value
  deriving Repr

/-- The type name and the properties of an entity. -/
structure Extracted where
  typeName : Name
  properties : Properties
  deriving Repr

/-- The built-in kinds that an instance may belong to besides its own class. -/
inductive Ancestry where
  /-- None that matters. -/
  | other
  | integer
  | list
  | tuple
  | mapping
  | text
  | bytes
  deriving DecidableEq, Repr

namespace Ancestry

/-- Whether the attributes of such an instance are read off it: a mapping, a text and a byte
string are values rather than entities. -/
def isReadable : Ancestry → Bool
  | mapping => false
  | text => false
  | bytes => false
  | _ => true

end Ancestry

/-- Named attributes in a fixed order, some of which may not have been given a value. -/
abbrev Attributes := Entries (Option Value)

namespace Attributes

/-- The attributes with their values, all of which have to be there. -/
def values (attributes : Attributes) : Except Failure Properties :=
  attributes.mapM fun (name, value?) =>
    match value? with
    | some v => .ok (name, v)
    | none => .error .unsupported

end Attributes

/-- An entity. -/
inductive Entity where
  /-- An entity whose type name and properties are explicit. -/
  | extracted (entity : Extracted)
  /-- A validated model, with its declared fields, its private attributes, and undeclared
  values. -/
  | model (cls : EntityClass) (declared : Attributes) (privates undeclared : Properties)
  /-- A record, with its fields, and attributes that were set later, which may be fields again.
  -/
  | record (cls : EntityClass) (fields : Attributes) (later : Properties)
  /-- A tuple whose class names the elements. In place of a name there may be something that is no
  text. -/
  | namedTuple (cls : EntityClass) (names : List (Option String)) (values : List Value)
  /-- Any other instance, with its attributes in the order in which they were set; an instance
  whose class reserves fixed slots has none. -/
  | object (cls : EntityClass) (ancestry : Ancestry) (attributes : Option Properties)
  /-- A class itself, which is an instance of another class. -/
  | classItself (cls : EntityClass) (metaclass : TypeRef)
  /-- A plain value. -/
  | value (value : Value)
  deriving Repr

namespace Extracted

/-- The property names that an explicit payload cannot have. -/
def reserved : List String :=
  ["cls", "type_name"]

/-- The first reserved name among some properties. -/
def clash? (properties : Properties) : Option String :=
  (properties.map Prod.fst).find? reserved.contains

/-- An explicit payload of a type name and named properties. A repeated name keeps its first
place and its last value. -/
def explicit (typeName : String) (properties : Properties) : Except Failure Extracted :=
  match clash? properties with
  | some name => .error (.reservedProperty name)
  | none => .ok ⟨.plain typeName, properties.merged⟩

/-- The property block of an extracted entity. -/
def block (platform : Platform) (e : Extracted) : Except Failure String :=
  e.properties.block platform

/-- The property names with the literals of their values. -/
def literals (platform : Platform) (e : Extracted) : Except Failure (List (String × String)) :=
  e.properties.mapM fun property => do
    let literal ← property.2.literal platform
    return (property.1, literal)

/-- An explicit payload as a value: the type name, and the pairs of names and values. -/
def asValue (e : Extracted) : Value :=
  .tuple [.text e.typeName.text,
    .tuple (e.properties.map fun property => .tuple [.text property.1, property.2])]

end Extracted

namespace Entity

/-- Whether a character can stand in the name of a class of tuples or of an element. -/
def isWordChar (c : Char) : Bool :=
  c.isAlphanum || c = '_' || 127 < c.toNat

/-- Whether a text is a word: word characters of which the first is no digit. -/
def isWord (text : String) : Bool :=
  text.toList.head?.any (!·.isDigit) && text.toList.all isWordChar

/-- A tuple with named elements. The names of the class and of the elements have to be words,
those of the elements must differ, and must not start with a low line. -/
def ofElements (cls : EntityClass) (elements : Properties) : Except Failure Entity :=
  let names := elements.map Prod.fst
  let areValid := names.all fun name => isWord name && name.toList.head? != some '_'
  if isWord cls.type.name ∧ areValid ∧ names.Nodup then
    .ok (namedTuple cls (names.map some) (elements.map Prod.snd))
  else
    .error .malformed

/-- The value that an entity is equal to, if any: an explicit payload and a tuple with named
elements equal a tuple, and an instance of a class that is derived from a built-in kind equals
zero or the empty value of that kind. -/
def asValue? : Entity → Option Value
  | extracted e => some e.asValue
  | namedTuple _ _ values => some (.tuple values)
  | object _ .integer _ => some (.int 0)
  | object _ .list _ => some (.list [])
  | object _ .tuple _ => some (.tuple [])
  | object _ .mapping _ => some (.map [])
  | object _ .text _ => some (.text "")
  | object _ .bytes _ => some (.bytes .immutable [])
  | value v => some v
  | _ => none

/-- Whether two entities are equal. Those that equal no value are only equal to themselves, so
no two that were made apart are equal. -/
def equals (a b : Entity) : Except Failure Bool :=
  match a.asValue?, b.asValue? with
  | some v, some w => v.equals w
  | _, _ => .ok false

end Entity

/-- An entity as a call gives it. -/
inductive EntitySource where
  /-- An entity that was made before. -/
  | ready (entity : Entity)
  /-- An explicit payload that the call makes. -/
  | explicit (typeName : String) (properties : Properties)
  /-- An entity that cannot be made. -/
  | refused (failure : Failure)
  deriving Repr

namespace EntitySource

/-- The entity that a call gets. -/
def make : EntitySource → Except Failure Entity
  | ready entity => .ok entity
  | explicit typeName properties => .extracted <$> Extracted.explicit typeName properties
  | refused failure => .error failure

end EntitySource

end CypherText
