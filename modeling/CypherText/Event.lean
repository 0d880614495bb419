import CypherText.Report

/-!
# Log records

What the library logs: every clause that is appended, every predicate that is replaced by a
placeholder, every rendered query, and every reported fault. A record has a logger, a severity,
a message and named data.
-/

namespace CypherText

/-- Something that the library logs. -/
inductive Event where
  /-- A clause was appended to a builder. -/
  | appending (kind : ClauseKind)
  /-- A predicate, of the given description, was replaced by the placeholder. -/
  | placeholder (predicate : String)
  /-- A query was rendered from clauses of the given kinds. -/
  | rendered (kinds : List ClauseKind) (query : String)
  /-- A report was logged by the named logger. -/
  | problem (logger : String) (report : Report)
  deriving DecidableEq, Repr

namespace Event

/-- The record of a fault. -/
def ofFault (f : Fault) : Event :=
  .problem f.component.name f.report

/-- The name of the logger that writes the record. -/
def logger : Event → String
  | appending _ => Component.builder.name
  | placeholder _ => Component.builder.name
  | rendered _ _ => Component.expression.name
  | problem logger _ => logger

/-- The severity of the record. -/
def severity : Event → Severity
  | appending _ => .debug
  | placeholder _ => .warning
  | rendered _ _ => .debug
  | problem _ report => report.category.severity

/-- The message of the record. -/
def message : Event → String
  | appending _ => "Appending clause"
  | placeholder _ => "Predicate translation is not supported; emitting placeholder"
  | rendered _ _ => "Rendered Cypher query"
  | problem _ report => report.message

/-- The data of the record. -/
def fields : Event → Fields
  | appending kind => [("clause", .text kind.name)]
  | placeholder predicate => [("predicate", .text predicate)]
  | rendered kinds query =>
    [("clauses", .list (kinds.map fun kind => .text kind.name)), ("query", .text query)]
  | problem _ report => report.logFields

/-- Whether a logger with the given threshold writes the record. -/
def isVisible (threshold : Nat) (e : Event) : Bool :=
  threshold ≤ e.severity.number

end Event

namespace Fields

/-- The text with every line feed replaced by a bar between spaces. -/
def flattenChars (chars : List Char) : List Char :=
  chars.flatMap fun c => if c = '\n' then [' ', '|', ' '] else [c]

/-- A text on one line. -/
def flattenText (text : String) : String :=
  String.ofList (flattenChars text.toList)

/-- The data of a record with the query on one line. -/
def flattenQuery (fields : Fields) : Fields :=
  match fields.get? "query" with
  | some (.text query) => fields.put "query" (.text (flattenText query))
  | _ => fields

/-- The data of a record with the type of its error. -/
def nameError (fields : Fields) : Fields :=
  match fields.get? "error" with
  | some error => fields.put "error_type" (.text error.typeName)
  | none => fields

/-- The data of a record as the console shows it: with the type of an error, and with the query
on one line. -/
def addQueryContext (fields : Fields) : Fields :=
  fields.nameError.flattenQuery

end Fields

end CypherText
