import CypherText.Proofs.Keyword
import CypherText.Proofs.Query
import CypherText.Proofs.Reporting

/-!
# What calls announce

A call that succeeds has logged what it does: the kind of its clause, and before it a warning if a
predicate was replaced. In front of this stands what the extractor has logged, and nothing else that
is done to a builder is announced. So calls on a chain have named the clauses that they append, if
no extractor among them names any, and a routine, which makes calls on builders and composes them,
has logged the announcements of its calls in their order when it gives something, no matter which of
the builders are in use in the end.
-/

namespace CypherText

namespace Event

/-- The clause that a record names, if it is one of clauses that are appended. -/
def clauseName? (e : Event) : Option Datum :=
  if e.message = "Appending clause" then e.fields.get? "clause" else none

theorem clauseName?_appending (kind : ClauseKind) :
    (appending kind).clauseName? = some (.text kind.name) := by
  simp [clauseName?, message, fields, Entries.get?]

theorem clauseName?_placeholder (predicate : String) :
    (placeholder predicate).clauseName? = none := by
  simp [clauseName?, message]

end Event

namespace Logged

universe u

variable {α β : Type u}

/-- Whether an operation has logged nothing if it succeeds. -/
def IsQuiet (operation : Logged α) : Prop :=
  ∀ a, operation.result = .ok a → operation.events = []

theorem isQuiet_ofExcept (result : Except Failure α) : (ofExcept result).IsQuiet :=
  fun _ _ => rfl

theorem OnlyReports.isQuiet {operation : Logged α} (onlyReports : operation.OnlyReports) :
    operation.IsQuiet := by
  intro a succeeded
  rwa [OnlyReports, succeeded] at onlyReports

/-- Where an operation and the next one succeed, what the next one has logged stands behind what the
first one has logged. -/
theorem exists_events_bind {first : Logged α} {next : α → Logged β} {b : β}
    (succeeded : (first >>= next).result = .ok b) :
    ∃ a, first.result = .ok a ∧ (next a).result = .ok b ∧
      (first >>= next).events = first.events ++ (next a).events := by
  rcases result_bind_eq_ok_iff.mp succeeded with ⟨a, ok, goesOn⟩
  exact ⟨a, ok, goesOn, by rw [bind_of_ok ok]⟩

/-- Where a quiet operation and the next one succeed, only the next one has logged something. -/
theorem IsQuiet.exists_events_bind {first : Logged α} {next : α → Logged β} {b : β}
    (isQuiet : first.IsQuiet) (succeeded : (first >>= next).result = .ok b) :
    ∃ a, first.result = .ok a ∧ (next a).result = .ok b ∧
      (first >>= next).events = (next a).events := by
  rcases Logged.exists_events_bind succeeded with ⟨a, ok, goesOn, events⟩
  rw [isQuiet a ok, List.nil_append] at events
  exact ⟨a, ok, goesOn, events⟩

end Logged

namespace Extractor

variable {extractor : Extractor}

/-- What an extractor has logged in an operation that succeeds: nothing if it was not needed. -/
inductive HasLogged (extractor : Extractor) : List Event → Prop
  | nothing : HasLogged extractor []
  | read {entity : Entity} {extracted : Extracted}
      (succeeded : (extractor entity).result = .ok extracted) :
      HasLogged extractor (extractor entity).events

theorem HasLogged.eq_nil {events : List Event} (logged : extractor.HasLogged events)
    (onlyReports : extractor.OnlyReports) : events = [] := by
  cases logged with
  | nothing => rfl
  | @read entity extracted succeeded => exact (onlyReports entity).isQuiet extracted succeeded

/-- Whether an extractor logs no record of a clause where it succeeds. -/
def NamesNoClause (extractor : Extractor) : Prop :=
  ∀ events, extractor.HasLogged events → events.filterMap Event.clauseName? = []

theorem OnlyReports.namesNoClause (onlyReports : extractor.OnlyReports) :
    extractor.NamesNoClause := by
  intro events logged
  rw [logged.eq_nil onlyReports, List.filterMap_nil]

end Extractor

namespace Builder

variable {π β : Type} {env : Env} {b made : Builder π β}

theorem events_createNode {name label : Name} {properties : Properties}
    (created : (b.createNode env name label properties).result = .ok made) :
    (b.createNode env name label properties).events = [.appending .create] := by
  rcases (Logged.isQuiet_ofExcept _).exists_events_bind created with ⟨block, _, _, events⟩
  exact events

/-- Where a node is made from what the extractor reads, the record of its clause stands behind what
the extractor has logged. -/
theorem exists_events_read {name : Name} {label : Extracted → Name} {entity : Entity}
    (created : (b.extractor entity >>= fun extracted =>
      b.createNode env name (label extracted) extracted.properties).result = .ok made) :
    ∃ read, b.extractor.HasLogged read ∧
      (b.extractor entity >>= fun extracted =>
        b.createNode env name (label extracted) extracted.properties).events =
          read ++ [.appending .create] := by
  rcases Logged.exists_events_bind created with ⟨extracted, read, goesOn, events⟩
  rw [events, events_createNode goesOn]
  exact ⟨_, .read read, rfl⟩

theorem exists_events_relate {form : RelateForm} {declaration : Operand}
    (related : (b.relate env form declaration).result = .ok made) :
    ∃ read, b.extractor.HasLogged read ∧
      (b.relate env form declaration).events = read ++ [.appending form.kind] := by
  cases declaration with
  | declaration d =>
      rcases Logged.exists_events_bind related with ⟨pattern, isText, _, events⟩
      rcases Logged.exists_events_bind isText with ⟨extracted, read, isBlock, textEvents⟩
      rcases (Logged.isQuiet_ofExcept _).exists_events_bind isBlock with ⟨_, _, _, noEvents⟩
      have onlyRead : (d.text env.platform b.extractor).events = (b.extractor d.payload).events :=
        textEvents.trans ((congrArg (_ ++ ·) noEvents).trans (List.append_nil _))
      exact ⟨_, .read read, events.trans (congrArg (· ++ _) onlyRead)⟩
  | value _ | rel _ | rightPartial _ _ | leftPartial _ _ | classItself _ => contradiction

end Builder

namespace Call

variable {π β : Type} {env : Env} {call : Call} {b made : Builder π β}

/-- The warning about a predicate that is replaced. -/
def warning? (env : Env) : Call → Option Event
  | wherePredicate predicate => (predicate.describe env.platform.room).toOption.map .placeholder
  | _ => none

/-- What a call announces: that a predicate is replaced, and then the clause that it appends. -/
def announcements (env : Env) (call : Call) : List Event :=
  (call.warning? env).toList ++ call.kind?.toList.map .appending

/-- The clauses that are announced are those that are written. -/
theorem filterMap_clauseName?_announcements (env : Env) (call : Call) :
    (call.announcements env).filterMap Event.clauseName? =
      call.kind?.toList.map fun kind => .text kind.name := by
  have appended : (call.kind?.toList.map Event.appending).filterMap Event.clauseName? =
      call.kind?.toList.map fun kind => .text kind.name := by
    cases call.kind? with
    | none => rfl
    | some kind => simp [Event.clauseName?_appending]
  have warned : (call.warning? env).toList.filterMap Event.clauseName? = [] := by
    cases warning : call.warning? env with
    | none => rfl
    | some event =>
        cases call with
        | wherePredicate predicate =>
            rcases Option.map_eq_some_iff.mp warning with ⟨description, _, rfl⟩
            simp [Event.clauseName?_placeholder]
        | _ => contradiction
  rw [announcements, List.filterMap_append, warned, appended, List.nil_append]

theorem isRoutine_of_mem_announcements {event : Event} (among : event ∈ call.announcements env) :
    event.IsRoutine := by
  rcases List.mem_append.mp among with warned | appended
  · cases call with
    | wherePredicate predicate =>
        rcases Option.map_eq_some_iff.mp (Option.mem_toList.mp warned) with ⟨_, _, rfl⟩
        trivial
    | _ => contradiction
  · rcases List.mem_map.mp appended with ⟨kind, _, rfl⟩
    trivial

/-- A call that succeeds has logged its announcements, behind what the extractor has logged. -/
theorem exists_events_apply (applied : (call.apply env b).result = .ok made) :
    ∃ read, b.extractor.HasLogged read ∧
      (call.apply env b).events = read ++ call.announcements env := by
  cases call with
  | raw _ | matching _ | optionalMatch _ | whereText _ | createUniqueText _ =>
      exact ⟨[], .nothing, rfl⟩
  | wherePredicate predicate =>
      rcases (Logged.isQuiet_ofExcept _).exists_events_bind applied with
        ⟨description, described, _, events⟩
      have found : (predicate.describe env.platform.room).toOption = some description :=
        toOption_eq_some_iff.mpr described
      rw [announcements, warning?, found]
      exact ⟨[], .nothing, events⟩
  | returning items =>
      cases items with
      | nil => contradiction
      | cons item items => exact ⟨[], .nothing, rfl⟩
  | createEmpty name label => exact ⟨[], .nothing, Builder.events_createNode applied⟩
  | createTyped name label source =>
      rcases (Logged.isQuiet_ofExcept _).exists_events_bind applied with ⟨_, _, created, events⟩
      rcases Builder.exists_events_read created with ⟨read, logged, createdEvents⟩
      exact ⟨read, logged, events.trans createdEvents⟩
  | create name source =>
      rcases (Logged.isQuiet_ofExcept _).exists_events_bind applied with ⟨_, _, created, events⟩
      rcases Builder.exists_events_read created with ⟨read, logged, createdEvents⟩
      exact ⟨read, logged, events.trans createdEvents⟩
  | relate form term =>
      rcases (Logged.isQuiet_ofExcept _).exists_events_bind applied with ⟨_, _, related, events⟩
      rcases Builder.exists_events_relate related with ⟨read, logged, relatedEvents⟩
      exact ⟨read, logged, events.trans relatedEvents⟩
  | withExtractor _ => exact ⟨[], .nothing, rfl⟩
  | refused failure => contradiction

/-- A call that succeeds has logged its announcements and nothing else, if the extractor only
reports failures. -/
theorem events_apply (onlyReports : b.extractor.OnlyReports)
    (applied : (call.apply env b).result = .ok made) :
    (call.apply env b).events = call.announcements env := by
  rcases exists_events_apply applied with ⟨read, logged, events⟩
  rw [events, logged.eq_nil onlyReports, List.nil_append]

/-- A call that succeeds has named the clause that it appends, if the extractor names none. -/
theorem filterMap_clauseName?_apply (namesNone : b.extractor.NamesNoClause)
    (applied : (call.apply env b).result = .ok made) :
    (call.apply env b).events.filterMap Event.clauseName? =
      call.kind?.toList.map fun kind => .text kind.name := by
  rcases exists_events_apply applied with ⟨read, logged, events⟩
  rw [events, List.filterMap_append, namesNone read logged, List.nil_append,
    filterMap_clauseName?_announcements]

/-- What is true of the extractor in force is true of the one that a call leaves, unless the call
gives another. -/
theorem extractor_of_apply {P : Extractor → Prop} (holds : P b.extractor)
    (given : ∀ extractor, call = .withExtractor extractor → P extractor)
    (applied : (call.apply env b).result = .ok made) : P made.extractor := by
  rcases apply_cases applied with ⟨kind, text, rfl⟩ | ⟨extractor, gives, rfl⟩
  · exact holds
  · exact given extractor gives

/-- Calls on a chain that all succeed have named the clauses that they append, if no extractor in
force names any. -/
theorem exists_clauses_of_applyAll {calls : List Call} (namesNone : b.extractor.NamesNoClause)
    (given : ∀ extractor, withExtractor extractor ∈ calls → extractor.NamesNoClause)
    (applied : (applyAll env calls b).result = .ok made) :
    ∃ clauses : List Clause, made.expr.steps = b.expr.steps ++ clauses.map .clause ∧
      (applyAll env calls b).events.filterMap Event.clauseName? =
        clauses.map fun clause => .text clause.kind.name := by
  induction calls generalizing b with
  | nil =>
      cases applied
      exact ⟨[], by simp, rfl⟩
  | cons call calls ih =>
      rw [applyAll, List.foldlM_cons] at applied ⊢
      rcases Logged.exists_events_bind applied with ⟨next, first, others, events⟩
      have nextNamesNone : next.extractor.NamesNoClause := by
        refine extractor_of_apply namesNone (fun extractor gives => ?_) first
        exact given extractor (gives ▸ List.mem_cons_self)
      have givenLater : ∀ extractor, withExtractor extractor ∈ calls → extractor.NamesNoClause :=
        fun extractor among => given extractor (List.mem_cons_of_mem _ among)
      rcases ih nextNamesNone givenLater others with ⟨clauses, steps, named⟩
      have namedFirst := filterMap_clauseName?_apply namesNone first
      rcases result_apply_eq_ok_iff.mp first with ⟨written, writes, rfl⟩
      refine ⟨written ++ clauses, ?_, ?_⟩
      · rw [steps]
        simp [extended]
      · rw [events, List.filterMap_append, namedFirst, ← kinds_of_clauses? writes, List.map_map,
          List.map_append]
        exact congrArg (_ ++ ·) named

end Call

end CypherText
