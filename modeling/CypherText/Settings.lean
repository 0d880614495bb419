import CypherText.Flaw
import CypherText.Severity
import CypherText.Uppercase

/-!
# Settings

The settings are the fields of a settings class, which declares for each field its type, its default
and a validator. A library fills such a class from arguments, from variables of the environment and
from the bindings of a settings file. The library is no part of this development, so it is a
parameter here: `SettingsLibrary` has its parts, and says nothing about what they do.
-/

namespace CypherText

/-! ## Settings classes -/

/-- The type that a settings class declares for a field. -/
inductive FieldType where
  | text
  | truth
  deriving DecidableEq, Repr

namespace FieldType

/-- What a field of the type holds. -/
abbrev Value : FieldType → Type
  | text => String
  | truth => Bool

/-- The value of a field as a piece of data. -/
def datum : (type : FieldType) → type.Value → Datum
  | text, value => .text value
  | truth, value => .flag value

end FieldType

/-- A settings class. -/
structure SettingsClass where
  Field : Type
  name : Field → String
  type : Field → FieldType
  default : (field : Field) → (type field).Value
  /-- What the validator of a field makes of a value. It is told the fields that were accepted
  before. -/
  validate : (field : Field) → Fields → (type field).Value → Except Flaw (type field).Value
  /-- What stands before the name of a field in the name of its variable. -/
  variablePrefix : String
  /-- The name of the settings file, if there is one. -/
  file? : Option String
  /-- Whether data that belongs to no field is passed over. -/
  ignoresOthers : Bool
  /-- The fields in the order in which they are declared. -/
  fields : List Field
  mem_fields : ∀ field, field ∈ fields
  nodup_names : (fields.map name).Nodup
  [decEq : DecidableEq Field]

namespace SettingsClass

instance (cls : SettingsClass) : DecidableEq cls.Field :=
  cls.decEq

/-- What a field of a class holds. -/
abbrev Value (cls : SettingsClass) (field : cls.Field) : Type :=
  (cls.type field).Value

/-- An instance of a class has a value for each field. -/
abbrev Instance (cls : SettingsClass) : Type :=
  (field : cls.Field) → cls.Value field

/-- The name of the variable for a field. -/
def variableName (cls : SettingsClass) (field : cls.Field) : String :=
  cls.variablePrefix ++ cls.name field

end SettingsClass

/-! ## Sources -/

/-- Where settings come from. -/
structure SettingsSources where
  arguments : Fields
  environment : Entries String
  /-- The names that a settings file binds, some of them to nothing. -/
  file : Entries (Option String)

/-- A variable of the environment. Its name is not empty, no equals sign and no zero can stand
in it, and no zero in its value. -/
def SettingsSources.variableOf (name value : String) : Except Failure (String × String) :=
  if name = "" then .error .namelessVariable
  else if name.toList.contains '=' then .error .malformed
  else if (name ++ value).toList.contains '\x00' then .error .malformed
  else .ok (name, value)

/-- A way to turn data into values of declared types. -/
abbrev Conversion := (type : FieldType) → Datum → Except Flaw type.Value

/-- A library that fills settings classes. -/
structure SettingsLibrary where
  /-- What arguments give for the fields of a class, by the names of the fields. -/
  ofArguments : SettingsClass → Fields → Fields
  /-- What the variables of the environment give. -/
  ofEnvironment : SettingsClass → Entries String → Fields
  /-- What the bindings of a settings file give. -/
  ofFile : SettingsClass → Entries (Option String) → Fields
  /-- The data of several sources in one. -/
  merge : List Fields → Fields
  convert : Conversion
  /-- An instance from data, or the flaws of the fields. -/
  validate : (cls : SettingsClass) → Fields → Except Flaws cls.Instance

namespace SettingsLibrary

/-- The data for the fields of a class. The arguments come first, and the settings file last. -/
def gather (library : SettingsLibrary) (cls : SettingsClass) (sources : SettingsSources) : Fields :=
  library.merge [library.ofArguments cls sources.arguments,
    library.ofEnvironment cls sources.environment, library.ofFile cls sources.file]

/-- Makes an instance of a class. -/
def construct (library : SettingsLibrary) (cls : SettingsClass) (sources : SettingsSources) :
    Except Flaws cls.Instance :=
  library.validate cls (library.gather cls sources)

end SettingsLibrary

/-! ## The settings of this library -/

/-- The settings, one by one. -/
inductive Setting where
  /-- The text between clauses. -/
  | lineSeparator
  /-- What stands for a predicate that cannot be written. -/
  | wherePlaceholder
  /-- The name of the threshold of the log. -/
  | logLevel
  /-- Whether the log has colours. -/
  | logColors
  deriving DecidableEq, Repr

namespace Setting

/-- The name of a setting in the sources. -/
def name : Setting → String
  | lineSeparator => "line_separator"
  | wherePlaceholder => "where_placeholder"
  | logLevel => "log_level"
  | logColors => "log_colors"

/-- The type that a setting is declared with. -/
def type : Setting → FieldType
  | logColors => .truth
  | _ => .text

/-- What a setting has as its value. -/
abbrev Value (setting : Setting) : Type :=
  setting.type.Value

/-- The value of a setting that is given nowhere. -/
def default : (setting : Setting) → setting.Value
  | lineSeparator => "\n"
  | wherePlaceholder => "/* predicate translation not supported */"
  | logLevel => "INFO"
  | logColors => true

/-- Refuses the empty text. -/
def nonempty (text : String) : Except Flaw String :=
  if text = "" then .error .emptyText else .ok text

/-- The validator of a setting, which knows nothing of the others. The text between clauses must not
be empty, and the names of thresholds are kept in upper case. -/
def validate : (setting : Setting) → setting.Value → Except Flaw setting.Value
  | lineSeparator, text => nonempty text
  | wherePlaceholder, text => .ok text
  | logLevel, text => .ok (Uppercase.ofText text)
  | logColors, value => .ok value

end Setting

/-- The settings. -/
structure Settings where
  lineSeparator : String
  wherePlaceholder : String
  logLevel : String
  logColors : Bool
  deriving DecidableEq, Repr

namespace Settings

/-- The class of the settings. -/
abbrev declaration : SettingsClass where
  Field := Setting
  name := Setting.name
  type := Setting.type
  default := Setting.default
  validate setting _ := setting.validate
  variablePrefix := "CYPHER_BUILDER_"
  file? := some ".env"
  ignoresOthers := true
  fields := [.lineSeparator, .wherePlaceholder, .logLevel, .logColors]
  mem_fields setting := by cases setting <;> decide
  nodup_names := by decide

/-- The settings that an instance of their class has. -/
def ofInstance (made : declaration.Instance) : Settings :=
  ⟨made .lineSeparator, made .wherePlaceholder, made .logLevel, made .logColors⟩

/-- The settings that hold where nothing is given. -/
def standard : Settings :=
  ofInstance declaration.default

/-- The settings from the given sources, or the flaws of those that are given wrongly. -/
def make (library : SettingsLibrary) (sources : SettingsSources) : Except Flaws Settings :=
  (library.construct declaration sources).map ofInstance

end Settings

/-- A log that is set up: its threshold and the number of its outputs. -/
structure LoggingSetup where
  threshold : Nat
  outputs : Nat
  deriving DecidableEq, Repr

namespace LoggingSetup

/-- The log that the settings ask for, with one output. -/
def ofSettings (settings : Settings) : LoggingSetup :=
  ⟨Threshold.ofNameOrInfo settings.logLevel, 1⟩

/-- Whether the log shows records of a severity. -/
def isEnabled (setup : LoggingSetup) (severity : Severity) : Bool :=
  setup.threshold ≤ severity.number

end LoggingSetup

end CypherText
