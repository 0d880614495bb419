import CypherText.Datum

/-!
# Flaws of given data

Settings and error details are read from plain data. Each field is checked on its own, and all
flaws are reported together, by the name of the field.
-/

namespace CypherText

/-- What is wrong with a field. -/
inductive Flaw where
  /-- A required field is not there. -/
  | missing
  /-- The value is no text. -/
  | notText
  /-- The text must not be empty. -/
  | emptyText
  /-- The number or text stands for no truth value. -/
  | noTruthValue
  /-- The value is neither a truth value nor a number or text. -/
  | notTruthKind
  /-- The text stands for no time. -/
  | noTime
  /-- The number counts to no time that there is. -/
  | timeOutOfRange
  /-- The value is neither a number nor a text that could stand for a time. -/
  | notTimeKind
  deriving DecidableEq, Repr

/-- The flaws of some data, by field. -/
abbrev Flaws := Entries Flaw

namespace Flaws

/-- The flaws in the order of the field names. -/
def sorted (flaws : Flaws) : Flaws :=
  flaws.mergeSort fun a b => !(b.1 < a.1)

/-- The flaw of one checked field, if it has one. -/
def ofField (name : String) (checked : Except Flaw α) : Flaws :=
  match checked with
  | .ok _ => []
  | .error flaw => [(name, flaw)]

end Flaws

/-- A text. -/
def readText : Datum → Except Flaw String
  | .text value => .ok value
  | _ => .error .notText

/-- A required text. -/
def readRequiredText : Option Datum → Except Flaw String
  | some datum => readText datum
  | none => .error .missing

/-- An optional text, which may also be given as null. -/
def readOptionalText : Option Datum → Except Flaw (Option String)
  | some .null => .ok none
  | some datum => some <$> readText datum
  | none => .ok none

end CypherText
