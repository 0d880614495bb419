/-!
# Clauses

A query is a sequence of clauses. A clause has a kind and its full text; the text of every kind
but raw statements starts with the keyword of the kind.
-/

namespace CypherText

/-- The kinds of clauses, in the order in which they are numbered. -/
inductive ClauseKind where
  | raw
  | matching
  | optionalMatch
  | filter
  | result
  | create
  | createUnique
  deriving DecidableEq, Repr

namespace ClauseKind

/-- All kinds, in the order of their numbers. -/
def all : List ClauseKind :=
  [.raw, .matching, .optionalMatch, .filter, .result, .create, .createUnique]

/-- The name under which a kind appears in logs and error details. -/
def name : ClauseKind → String
  | raw => "RAW"
  | matching => "MATCH"
  | optionalMatch => "OPTIONAL_MATCH"
  | filter => "WHERE"
  | result => "RETURN"
  | create => "CREATE"
  | createUnique => "CREATE_UNIQUE"

/-- The keyword that opens a clause of this kind; raw statements have none. -/
def keyword : ClauseKind → String
  | raw => ""
  | matching => "MATCH"
  | optionalMatch => "OPTIONAL MATCH"
  | filter => "WHERE"
  | result => "RETURN"
  | create => "CREATE"
  | createUnique => "CREATE UNIQUE"

/-- The number of a kind, counted from one. -/
def number : ClauseKind → Nat
  | raw => 1
  | matching => 2
  | optionalMatch => 3
  | filter => 4
  | result => 5
  | create => 6
  | createUnique => 7

/-- The kind with the given name. -/
def ofName? (name : String) : Option ClauseKind :=
  all.find? (·.name == name)

theorem mem_all (kind : ClauseKind) : kind ∈ all := by
  cases kind <;> decide

end ClauseKind

/-- A clause as it is written: its kind and its whole text. -/
structure Clause where
  kind : ClauseKind
  text : String
  deriving DecidableEq, Repr

/-- The two ways to create a relationship between nodes named earlier. -/
inductive RelateForm where
  | every
  | unique
  deriving DecidableEq, Repr

namespace RelateForm

/-- The kind of the clause that a form writes. -/
def kind : RelateForm → ClauseKind
  | every => .create
  | unique => .createUnique

/-- The name of the operation, as error details give it. -/
def operation : RelateForm → String
  | every => "relate"
  | unique => "relate_unique"

end RelateForm

end CypherText
