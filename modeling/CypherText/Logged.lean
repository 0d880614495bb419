import CypherText.Event

/-!
# Operations that log

An operation logs some records and then has a result or fails. Operations run one after the
other; after a failure nothing more is logged.
-/

namespace CypherText

/-- The outcome of an operation: its log records and its result. -/
structure Logged (α : Type u) where
  events : List Event
  result : Except Failure α

namespace Logged

variable {α : Type u} {β : Type v}

/-- An operation that only has a result. -/
def ofExcept (result : Except Failure α) : Logged α :=
  ⟨[], result⟩

/-- An operation that fails and logs nothing. -/
def fail (failure : Failure) : Logged α :=
  ⟨[], .error failure⟩

/-- An operation that logs a fault and fails by it. -/
def raise (fault : Fault) : Logged α :=
  ⟨[.ofFault fault], .error (.fault fault)⟩

/-- An operation that logs one record. -/
def log (event : Event) : Logged Unit :=
  ⟨[event], .ok ()⟩

/-- Runs an operation, and the next one on its result. -/
def andThen (first : Logged α) (next : α → Logged β) : Logged β :=
  match first.result with
  | .ok a => ⟨first.events ++ (next a).events, (next a).result⟩
  | .error failure => ⟨first.events, .error failure⟩

instance : Monad Logged where
  pure a := ⟨[], .ok a⟩
  bind := andThen

@[simp]
theorem events_pure (a : α) : (pure a : Logged α).events = [] :=
  rfl

@[simp]
theorem result_pure (a : α) : (pure a : Logged α).result = .ok a :=
  rfl

/-- After a success the next operation goes on with the result. -/
theorem bind_of_ok {α β : Type u} {first : Logged α} {a : α} (ok : first.result = .ok a)
    (next : α → Logged β) :
    first >>= next = ⟨first.events ++ (next a).events, (next a).result⟩ := by
  change andThen first next = _
  simp [andThen, ok]

/-- After a failure the next operation does not take place. -/
theorem bind_of_error {α β : Type u} {first : Logged α} {failure : Failure}
    (failed : first.result = .error failure) (next : α → Logged β) :
    first >>= next = ⟨first.events, .error failure⟩ := by
  change andThen first next = _
  simp [andThen, failed]

end Logged

end CypherText
