import CypherText.Failure
import CypherText.Flaw
import CypherText.Severity
import CypherText.Time.Timestamp

/-!
# Reports

A report describes a misuse of the library: its category with a code and a severity, a message,
and details that say where it happened and what was concerned. `Fault.report` gives the report
of every fault. Details can also be read from plain data; how a time is read is not said here,
but given as a `TimeReader`.
-/

namespace CypherText

/-- The codes of reports. -/
inductive ReportCode where
  | unknown
  | invalidInput
  | extractionFailed
  | invalidDeclaration
  deriving DecidableEq, Repr

namespace ReportCode

/-- All codes. -/
def all : List ReportCode :=
  [.unknown, .invalidInput, .extractionFailed, .invalidDeclaration]

/-- The code as it is written. -/
def value : ReportCode → String
  | unknown => "1000"
  | invalidInput => "1002"
  | extractionFailed => "7001"
  | invalidDeclaration => "7002"

/-- The code that is written as `value`. -/
def ofValue? (value : String) : Option ReportCode :=
  all.find? (·.value == value)

end ReportCode

/-- What a report is about, besides the place where it arose. -/
inductive Subject where
  | unspecified
  /-- The path of an entity's type. -/
  | entity (typePath : String)
  /-- The type of what came in place of a declaration. -/
  | declaration (received : String)
  /-- The clause, and the argument that it cannot use. -/
  | clause (clause : String) (argument : Option String)
  deriving DecidableEq, Repr

/-- The details of a report. -/
structure Details where
  source : String
  operation : String
  subject : Subject
  timestamp : Option Timestamp
  deriving DecidableEq, Repr

namespace Subject

/-- The subject as fields. -/
def fields : Subject → Fields
  | unspecified => []
  | entity typePath => [("entity_type", .text typePath)]
  | declaration received => [("received_type", .text received)]
  | clause name argument => [("clause", .text name), ("argument", .ofText? argument)]

end Subject

namespace Details

/-- The details as fields, without the time. -/
def fields (d : Details) : Fields :=
  ("source", .text d.source) :: ("operation", .text d.operation) :: d.subject.fields

end Details

/-! ## Reading details -/

/-- A way to read a time from plain data. -/
abbrev TimeReader := Datum → Except Flaw Timestamp

/-- The four shapes of details. -/
inductive DetailsShape where
  | plain
  | entity
  | declaration
  | clause
  deriving DecidableEq, Repr

namespace Subject

/-- Reads the subject that details of the given shape have, or lists the flaws of its fields. -/
def read (shape : DetailsShape) (fields : Fields) : Except Flaws Subject :=
  let required (name : String) := readRequiredText (fields.get? name)
  match shape with
  | .plain => .ok unspecified
  | .entity =>
    let typePath := required "entity_type"
    typePath.map entity |>.mapError fun flaw => [("entity_type", flaw)]
  | .declaration =>
    (required "received_type").map declaration |>.mapError fun flaw => [("received_type", flaw)]
  | .clause =>
    match required "clause", readOptionalText (fields.get? "argument") with
    | .ok name, .ok argument => .ok (clause name argument)
    | name, argument => .error (.ofField "clause" name ++ .ofField "argument" argument)

end Subject

namespace Details

/-- Reads the time, which may be missing. -/
def readTime (reader : TimeReader) : Option Datum → Except Flaw (Option Timestamp)
  | none => .ok none
  | some datum => some <$> reader datum

/-- Reads details of the given shape; all flawed fields are reported together. Fields of other
names are ignored. -/
def read (reader : TimeReader) (shape : DetailsShape) (fields : Fields) : Except Flaws Details :=
  let source := readRequiredText (fields.get? "source")
  let operation := readRequiredText (fields.get? "operation")
  let time := readTime reader (fields.get? "timestamp")
  match source, operation, Subject.read shape fields, time with
  | .ok place, .ok action, .ok subject, .ok timestamp => .ok ⟨place, action, subject, timestamp⟩
  | _, _, subject, _ =>
    let more := match subject with
      | .ok _ => []
      | .error flaws => flaws
    .error (Flaws.sorted (.ofField "source" source ++ .ofField "operation" operation ++
      .ofField "timestamp" time ++ more))

/-- The text that stands for a missing source or operation. -/
def unknown : String := "unknown"

/-- Plain details that say nothing. -/
def blank : Details :=
  ⟨unknown, unknown, .unspecified, none⟩

/-- Turns an open collection of fields into plain details, and gives what is left of the
collection: its source and operation are taken out. -/
def take (reader : TimeReader) (entries : Fields) : Except Flaws Details × Fields :=
  let left := (entries.erase "source").erase "operation"
  let source := (entries.get? "source").getD (.text unknown)
  let operation := (entries.get? "operation").getD (.text unknown)
  (read reader .plain (("source", source) :: ("operation", operation) :: left), left)

end Details

/-! ## Reports and their categories -/

/-- The categories of reports. Those of the first category come with any code and severity. -/
inductive Category where
  | application (code : ReportCode) (severity : Severity)
  | extraction
  | shape
  | argument
  deriving DecidableEq, Repr

namespace Category

/-- The open category with the code and the severity of the given names. A severity that is not
given is `error`. -/
def ofNames (code : String) (severity : Option String) : Except Failure Category :=
  let severity := severity.getD Severity.error.name
  match ReportCode.ofValue? code, Severity.ofName? severity with
  | some code, some severity => .ok (application code severity)
  | none, _ => .error (.unknownChoice code)
  | _, none => .error (.unknownChoice severity)

/-- The code of the reports of a category. -/
def code : Category → ReportCode
  | application code _ => code
  | extraction => .extractionFailed
  | shape => .invalidDeclaration
  | argument => .invalidInput

/-- The severity of the reports of a category. -/
def severity : Category → Severity
  | application _ severity => severity
  | extraction => .error
  | shape => .error
  | argument => .warning

/-- The details of a report for which none are given. -/
def defaultDetails : Category → Details
  | application _ _ => .blank
  | extraction => ⟨"extractor", "extract_properties", .entity Details.unknown, none⟩
  | shape => ⟨"builder", "relate", .declaration Details.unknown, none⟩
  | argument => .blank

/-- Whether an empty collection of details counts as none at all. -/
def ignoresEmpty : Category → Bool
  | extraction => true
  | shape => true
  | _ => false

end Category

/-- A report. -/
structure Report where
  category : Category
  message : String
  details : Details
  deriving DecidableEq, Repr

/-- The details that a report is made with. -/
inductive GivenDetails where
  | absent
  | ready (details : Details)
  /-- An open collection of fields, which the report converts. -/
  | entries (entries : Fields)
  deriving Repr

namespace Report

/-- Makes a report, and gives what is left of an open collection of details. -/
def make (reader : TimeReader) (category : Category) (message : String) (given : GivenDetails) :
    Except Flaws Report × Fields :=
  match given with
  | .absent => (.ok ⟨category, message, category.defaultDetails⟩, [])
  | .ready details => (.ok ⟨category, message, details⟩, [])
  | .entries entries =>
    if entries.isEmpty && category.ignoresEmpty then
      (.ok ⟨category, message, category.defaultDetails⟩, [])
    else
      let (details, left) := Details.take reader entries
      (details.map fun details => ⟨category, message, details⟩, left)

/-- The fields under which a report is logged. -/
def logFields (r : Report) : Fields :=
  ("error_code", .text r.category.code.value) :: r.details.fields

end Report

/-! ## Reports of faults -/

/-- The parts of the library that report faults and write log records. -/
inductive Component where
  | builder
  | expression
  | extractor
  deriving DecidableEq, Repr

namespace Component

/-- The name of a component in logs and details. -/
def name : Component → String
  | builder => "cypher_builder.query_builder.builder"
  | expression => "cypher_builder.query_builder.expr"
  | extractor => "cypher_builder.query_builder.extractor"

end Component

namespace Fault

/-- The component that reports a fault. -/
def component : Fault → Component
  | unextractable _ => .extractor
  | incompleteDeclaration _ _ => .builder
  | notADeclaration _ _ => .builder
  | emptyResult => .builder
  | notAnExpression _ => .expression

/-- The category of a fault. -/
def category : Fault → Category
  | unextractable _ => .extraction
  | incompleteDeclaration _ _ => .shape
  | notADeclaration _ _ => .shape
  | emptyResult => .argument
  | notAnExpression _ => .argument

/-- The wording of a fault. -/
def message : Fault → String
  | unextractable typePath =>
    "Cannot extract properties from " ++ typePath ++
      "; pass a model, dataclass, named tuple or ExtractedEntity"
  | incompleteDeclaration _ _ =>
    "Relationship declaration is incomplete; finish it with \x27>> name\x27 or \x27name <<\x27"
  | notADeclaration _ received => "Expected a RelationshipDeclaration, got " ++ received
  | emptyResult => "RETURN needs at least one item"
  | notAnExpression received => "Expected a CypherExpr or builder, got " ++ received

/-- The operation in which a fault arises. -/
def operation : Fault → String
  | unextractable _ => "extract_properties"
  | incompleteDeclaration form _ => form.operation
  | notADeclaration form _ => form.operation
  | emptyResult => "return_clause"
  | notAnExpression _ => "as_expr"

/-- What a fault is about. -/
def subject : Fault → Subject
  | unextractable typePath => .entity typePath
  | incompleteDeclaration _ received => .declaration received
  | notADeclaration _ received => .declaration received
  | emptyResult => .clause ClauseKind.result.name none
  | notAnExpression received => .clause "composition" (some received)

/-- The report of a fault. -/
def report (f : Fault) : Report :=
  ⟨f.category, f.message, ⟨f.component.name, f.operation, f.subject, none⟩⟩

end Fault

end CypherText
