import CypherText.Entity
import CypherText.Logged
import CypherText.Value.AsName

/-!
# Extraction of properties

An extractor reads the type name and the properties off an entity. The standard one takes the
public declared fields of models, records and named tuples and the public attributes of other
instances, and refuses all else. Other extractors are any functions of the same kind.
-/

namespace CypherText

/-- A way to read entities. -/
abbrev Extractor := Entity → Logged Extracted

namespace EntityClass

/-- The name that instances of a class have in a query: the label if that is a text, and the
name of the class otherwise. -/
def typeName (cls : EntityClass) : Name :=
  (cls.label.bind Value.name?).getD (.plain cls.type.name)

end EntityClass

namespace Properties

/-- Whether a name is public: it does not start with an underscore. -/
def isPublic (name : String) : Bool :=
  name.toList.head? != some '_'

/-- The properties with public names. -/
def onlyPublic (properties : Properties) : Properties :=
  properties.filter fun property => isPublic property.1

end Properties

namespace Extractor

/-- What is read off an instance of a class with the given fields. -/
def ofFields (cls : EntityClass) (fields : Properties) : Extracted :=
  ⟨cls.typeName, fields.onlyPublic⟩

/-- What is read off an instance of a class with the given fields, all of which have to have values.
-/
def ofAttributes (cls : EntityClass) (attributes : Attributes) : Except Failure Extracted :=
  ofFields cls <$> attributes.values

/-- The fields of a record as they are now: those that were set later have their later values.
-/
def currentFields (fields : Attributes) (later : Properties) : Attributes :=
  fields.map fun field => (field.1, (later.merged.get? field.1).or field.2)

/-- The elements of a tuple with their names. They are walked through together, until a name is no
text or only names or only elements are left. -/
def pairs : List (Option String) → List Value → Except Failure Properties
  | [], [] => .ok []
  | some name :: names, v :: values => do
    let rest ← pairs names values
    return (name, v) :: rest
  | none :: _, _ :: _ => .error .unsupported
  | _, _ => .error .unequalFieldCount

/-- What is read off a tuple with named elements. -/
def ofTuple (cls : EntityClass) (names : List (Option String)) (values : List Value) :
    Except Failure Extracted :=
  ofFields cls <$> pairs names values

/-- The number of elements of a value that can be walked through. -/
def size (v : Value) : Except Failure Nat :=
  match v.content with
  | .text s => .ok s.length
  | .bytes (.view .released) _ => .error .released
  | .bytes _ data => .ok data.length
  | .list items => .ok items.length
  | .tuple items => .ok items.length
  | .map entries => .ok entries.length
  | _ => .error .meaningless

/-- What is read off an empty tuple whose own attribute names the elements, where `names` is the
value of that attribute. -/
def ofEmptyTuple (cls : EntityClass) (names : Value) : Except Failure Extracted := do
  if (← size names) = 0 then return ofFields cls [] else throw .unequalFieldCount

/-- The name of the attribute that names the elements of a tuple. -/
def fieldNames : String := "_fields"

/-- What is read off any other instance. Mappings, texts and byte strings are refused, and so
are instances without attributes of their own. -/
def ofObject (cls : EntityClass) (ancestry : Ancestry) (attributes : Option Properties) :
    Logged Extracted :=
  match ancestry, attributes with
  | .tuple, some attributes =>
    match attributes.get? fieldNames with
    | some names => .ofExcept (ofEmptyTuple cls names)
    | none => .ofExcept (.ok (ofFields cls attributes))
  | _, some attributes =>
    if ancestry.isReadable then .ofExcept (.ok (ofFields cls attributes))
    else .raise (.unextractable cls.type.path)
  | _, none => .raise (.unextractable cls.type.path)

/-- Whether the instances of derived types and the members of enumerations with this content
have attributes of their own that can be read. -/
def isOpen (content : Value) : Bool :=
  match content with
  | .text _ => false
  | .bytes .immutable _ => false
  | .map _ => false
  | _ => true

/-- What is read off a plain value: a type name without properties if it is an object of an
unknown type, an instance of a derived type or a member of an enumeration. -/
def ofValue (v : Value) : Logged Extracted :=
  match v with
  | .foreign type _ => .ofExcept (.ok ⟨.plain type.name, []⟩)
  | .derived type _ _ _ =>
    if isOpen v.content then .ofExcept (.ok ⟨.plain type.name, []⟩)
    else .raise (.unextractable type.path)
  | .member _ type _ _ =>
    if isOpen v.content then .ofExcept (.ok ⟨.plain type.name, []⟩)
    else .raise (.unextractable type.path)
  | _ => .raise (.unextractable v.typeRef.path)

/-- The standard extractor. -/
def standard : Extractor
  | .extracted entity => .ofExcept (.ok entity)
  | .model cls declared _ _ => .ofExcept (ofAttributes cls declared)
  | .record cls fields later => .ofExcept (ofAttributes cls (currentFields fields later))
  | .namedTuple cls names values => .ofExcept (ofTuple cls names values)
  | .object cls ancestry attributes => ofObject cls ancestry attributes
  | .classItself _ metaclass => .raise (.unextractable metaclass.path)
  | .value v => ofValue v

/-- The extractor that reads the same off everything. -/
def constant (entity : Extracted) : Extractor :=
  fun _ => .ofExcept (.ok entity)

/-- The standard extractor with another type name. -/
def relabel (typeName : String) : Extractor :=
  fun entity => do
    let extracted ← standard entity
    return ⟨.plain typeName, extracted.properties⟩

/-- The standard extractor with the properties in reverse order. -/
def reversed : Extractor :=
  fun entity => do
    let extracted ← standard entity
    return ⟨extracted.typeName, extracted.properties.reverse⟩

end Extractor

end CypherText
