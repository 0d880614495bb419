import CypherText.Builder

/-!
# Calls

The operations that append one clause to a builder or change its extractor, as data. The
arguments of a call are evaluated before the operation starts.
-/

namespace CypherText

/-- A call of an operation of builders. -/
inductive Call where
  | raw (statement : String)
  | matching (pattern : String)
  | optionalMatch (pattern : String)
  | whereText (condition : String)
  | wherePredicate (predicate : Predicate)
  | returning (items : List String)
  | createUniqueText (statement : String)
  | createEmpty (name label : Name)
  | createTyped (name label : Name) (entity : EntitySource)
  | create (name : Name) (entity : EntitySource)
  | relate (form : RelateForm) (declaration : Term)
  | withExtractor (extractor : Extractor)
  /-- A call whose arguments cannot be made. -/
  | refused (failure : Failure)

namespace Call

variable {π β : Type}

/-- Performs a call on a builder. -/
def apply (env : Env) (call : Call) (b : Builder π β) : Logged (Builder π β) :=
  match call with
  | raw statement => b.raw statement
  | matching pattern => b.matching pattern
  | optionalMatch pattern => b.optionalMatch pattern
  | whereText condition => b.whereText condition
  | wherePredicate predicate => b.wherePredicate env predicate
  | returning items => b.returning items
  | createUniqueText statement => b.createUniqueText statement
  | createEmpty name label => b.createEmpty env name label
  | createTyped name label source => do
    let entity ← Logged.ofExcept source.make
    b.createTyped env name label entity
  | create name source => do
    let entity ← Logged.ofExcept source.make
    b.create env name entity
  | relate form term => do
    let declaration ← Logged.ofExcept term.eval
    b.relate env form declaration
  | withExtractor extractor => return b.withExtractor extractor
  | refused failure => .ofExcept (.error failure)

/-- Why a call on something that is no builder fails: the object does not offer the operation,
unless a declaration, which is evaluated before the object is looked at, fails first. -/
def failureElsewhere : Call → Failure
  | relate _ term =>
    match term.eval with
    | .ok _ => .unsupported
    | .error failure => failure
  | _ => .unsupported

end Call

end CypherText
