import CypherText.Entries
import CypherText.Number.Double

/-!
# Plain data

The data of log records, of error details and of settings: nothing, truth values, numbers,
texts, lists and records. An error object may stand in a log record as well.
-/

namespace CypherText

/-- A piece of plain data. -/
inductive Datum where
  | null
  | flag (value : Bool)
  | integer (value : Int)
  | double (value : Double)
  | text (value : String)
  | list (items : List Datum)
  | record (fields : List (String × Datum))
  /-- An error object of the named type. -/
  | error (type : String)
  deriving Repr, Inhabited

/-- Named data in a fixed order. -/
abbrev Fields := Entries Datum

namespace Datum

/-- The name of the type of a piece of data. -/
def typeName : Datum → String
  | null => "NoneType"
  | flag _ => "bool"
  | integer _ => "int"
  | double _ => "float"
  | text _ => "str"
  | list _ => "list"
  | record _ => "dict"
  | error type => type

/-- An optional text; the absent one is null. -/
def ofText? : Option String → Datum
  | some value => text value
  | none => null

end Datum

end CypherText
