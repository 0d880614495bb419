import CypherText.Number.Double.Arithmetic
import CypherText.Settings

/-!
# A library for settings

A library that fills settings classes. The letter case of names does not matter, and of several
entries with one name the last one counts. Fields are validated in the order of their declaration,
each with what was accepted before, and the flaws of all are collected.
-/

namespace CypherText

namespace Truth

/-- The words for true. -/
def affirmative : List String :=
  ["1", "true", "t", "yes", "y", "on"]

/-- The words for false. -/
def negative : List String :=
  ["0", "false", "f", "no", "n", "off"]

/-- The truth value of a word in any letter case. -/
def ofWord (word : String) : Except Flaw Bool :=
  if affirmative.contains word.toLower then .ok true
  else if negative.contains word.toLower then .ok false
  else .error .noTruthValue

/-- The truth value of a whole number: one or zero. Numbers of more than 64 bits are not
considered at all. -/
def ofWhole (n : Int) : Except Flaw Bool :=
  if n = 1 then .ok true
  else if n = 0 then .ok false
  else if -(Nat.pow 2 63) ≤ n ∧ n < Nat.pow 2 63 then .error .noTruthValue
  else .error .notTruthKind

/-- The truth value of a double that is a whole number. The least number of 64 bits is not
considered here. -/
def ofDouble (d : Double) : Except Flaw Bool :=
  match d.truncate? with
  | some n => if d.isWhole ∧ n ≠ -(Nat.pow 2 63) then ofWhole n else .error .notTruthKind
  | none => .error .notTruthKind

/-- The truth value that a piece of data stands for. -/
def ofDatum : Datum → Except Flaw Bool
  | .flag value => .ok value
  | .integer n => ofWhole n
  | .double d => ofDouble d
  | .text word => ofWord word
  | _ => .error .notTruthKind

end Truth

/-! ## Validation -/

namespace SettingsClass

variable (cls : SettingsClass) (convert : Conversion)

/-- What becomes of a field: what is given for it is converted to its type, and this value, or else
the default, goes to the validator. -/
def check (field : cls.Field) (before : Fields) (found : Option Datum) :
    Except Flaw (cls.Value field) := do
  let value ← match found with
    | some datum => convert (cls.type field) datum
    | none => .ok (cls.default field)
  cls.validate field before value

/-- The values of the fields that are accepted, one after the other. -/
def accepted (data : Fields) (fields : List cls.Field) : Fields :=
  fields.foldl (fun before field =>
    match cls.check convert field before (data.get? (cls.name field)) with
    | .ok value => before ++ [(cls.name field, (cls.type field).datum value)]
    | .error _ => before) []

/-- What becomes of a field behind those that are declared before it. -/
def outcome (data : Fields) (field : cls.Field) : Except Flaw (cls.Value field) :=
  cls.check convert field (cls.accepted convert data (cls.fields.takeWhile (· != field)))
    (data.get? (cls.name field))

/-- The flaws of all fields, one behind the other. -/
def flaws (data : Fields) : Flaws :=
  cls.fields.flatMap fun field => Flaws.ofField (cls.name field) (cls.outcome convert data field)

/-- An instance of a class, if no field has a flaw. -/
def instanceOf (data : Fields) : Except Flaws cls.Instance :=
  let flaws := cls.flaws convert data
  if flaws.isEmpty then
    .ok fun field => (cls.outcome convert data field).toOption.getD (cls.default field)
  else
    .error flaws.sorted

end SettingsClass

/-! ## The library -/

namespace SettingsLibrary

/-- The last value of a name, in whatever letter case. -/
def lookup? (entries : Entries α) (name : String) : Option α :=
  (entries.reverse.find? fun entry => entry.1.toLower == name.toLower).map Prod.snd

/-- Data for those fields of a class that have some. -/
def dataOf (cls : SettingsClass) (datum? : cls.Field → Option Datum) : Fields :=
  cls.fields.filterMap fun field => (datum? field).map (cls.name field, ·)

/-- Data as a value of a type: only texts are texts, but not only truth values stand for some. -/
def usualConversion : Conversion
  | .text => readText
  | .truth => Truth.ofDatum

/-- The library with the usual conventions. -/
def usual : SettingsLibrary where
  ofArguments cls arguments := dataOf cls fun field => lookup? arguments (cls.name field)
  ofEnvironment cls environment :=
    dataOf cls fun field => (lookup? environment (cls.variableName field)).map .text
  ofFile cls file := dataOf cls fun field => (lookup? file (cls.variableName field)).join.map .text
  merge states := states.flatten
  convert := usualConversion
  validate cls data := cls.instanceOf usualConversion data

end SettingsLibrary

end CypherText
