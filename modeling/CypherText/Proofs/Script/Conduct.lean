import CypherText.Proofs.Script.Effect
import CypherText.Proofs.Trace

/-!
# The conduct of scripts

The bodies of loops are scripts of their own, which run while a query is built. A body may build
queries itself, and it may run an expression and keep its failure; both leave records of their own.
`Permission` says which of this the code of a script may do. A store obeys a permission if all
loops in its registers have bodies that do, and all its builders have extractors that only report.
-/

namespace CypherText.Script

variable {ι : Type}

/-- What the code of a script may do besides appending clauses. -/
structure Permission where
  /-- It may build queries. -/
  builds : Bool
  /-- It may run an expression and keep its failure. -/
  keepsFailures : Bool

namespace Permission

/-- The permission to do everything. -/
def all : Permission :=
  ⟨true, true⟩

/-- Whether one permission allows no more than another. -/
def IsWithin (p q : Permission) : Prop :=
  (p.builds = true → q.builds = true) ∧ (p.keepsFailures = true → q.keepsFailures = true)

theorem isWithin_self (p : Permission) : p.IsWithin p :=
  ⟨id, id⟩

theorem isWithin_all (p : Permission) : p.IsWithin all :=
  ⟨fun _ => rfl, fun _ => rfl⟩

/-- The records that code with the permission may leave before the report of its own failure. -/
def Allows (p : Permission) : Event → Prop
  | .rendered _ _ => p.builds = true
  | .problem _ _ => p.keepsFailures = true
  | _ => True

theorem allows_of_isRoutine (p : Permission) (e : Event) (isRoutine : e.IsRoutine) :
    p.Allows e := by
  cases e with
  | appending _ | placeholder _ => trivial
  | rendered _ _ | problem _ _ => contradiction

/-- The report of a failure may stand before the end where failures may be kept. -/
theorem allows_of_mem_records {p : Permission} (keeps : p.keepsFailures = true)
    {failure : Failure} {e : Event} (among : e ∈ failure.records) : p.Allows e := by
  cases failure with
  | fault f =>
      cases List.mem_singleton.mp among
      exact keeps
  | _ => contradiction

theorem IsWithin.allows {p q : Permission} (isWithin : p.IsWithin q) {e : Event}
    (allowed : p.Allows e) : q.Allows e := by
  cases e with
  | appending _ | placeholder _ => trivial
  | rendered kinds query => exact isWithin.1 allowed
  | problem logger report => exact isWithin.2 allowed

end Permission

/-! ## Scripts -/

/-- What a statement does. -/
def Statement.action : Statement ι → Action ι
  | .on _ _ action => action

namespace Action

/-- Whether nothing that an action is given is refused by a fault, and an extractor that it is given
only reports. -/
def IsSilent : Action ι → Prop
  | fresh extractor => extractor.OnlyReports
  | call made => made.IsSilent
  | wrap extractor => extractor.OnlyReports
  | extract entity => entity.IsSilent
  | refuse failure => failure.IsSilent
  | _ => True

/-- Whether an action is permitted. -/
def IsPermitted (p : Permission) : Action ι → Prop
  | build _ => p.builds = true
  | buildPart _ _ => p.builds = true
  | run _ _ => p.keepsFailures = true
  | _ => True

/-- What an action refers to and evaluates at once. -/
def operands : Action ι → List (Ref ι)
  | whileLoop _ body => [body]
  | whileExpr _ body => [body]
  | andThen other => [other]
  | plus other => [other]
  | sequence parts => parts
  | buildPart part _ => [part]
  | same other => [other]
  | _ => []

/-- The body of the loop that an action makes. -/
def body? : Action ι → Option (ι → Ref ι)
  | forEach _ body => some body
  | forEachExpr _ body => some body
  | _ => none

end Action

mutual

/-- `ref.Obeys p q`: what is evaluated at once is permitted by `q`, and what the bodies of loops do
is permitted by `p`. -/
inductive Ref.Obeys (p : Permission) : Permission → Ref ι → Prop
  | register {q : Permission} {name : String} : Ref.Obeys p q (.register name)
  | value {q : Permission} {v : Value} : Ref.Obeys p q (.value v)
  | holder {q : Permission} {inner : Ref ι} (obeys : Ref.Obeys p q inner) :
      Ref.Obeys p q (.holder inner)
  | script {q : Permission} {statements : List (Statement ι)} {result : Ref ι}
      (all : ∀ statement ∈ statements, Action.Obeys p q statement.action)
      (gives : Ref.Obeys p q result) : Ref.Obeys p q (.script statements result)
  | refused {q : Permission} {failure : Failure} (isSilent : failure.IsSilent) :
      Ref.Obeys p q (.refused failure)

/-- `action.Obeys p q`: what the action does is permitted by `q`, and what the bodies of its loops
do by `p`. -/
inductive Action.Obeys (p : Permission) : Permission → Action ι → Prop
  | intro {q : Permission} {action : Action ι} (isSilent : action.IsSilent)
      (isPermitted : action.IsPermitted q) (operands : ∀ ref ∈ action.operands, Ref.Obeys p q ref)
      (bodies : ∀ body, action.body? = some body → ∀ item, Ref.Obeys p p (body item)) :
      Action.Obeys p q action

end

/-! ## Objects and registers -/

/-- Whether the code of a loop body obeys. -/
def Body.Obeys (p : Permission) (body : Body ι) : Prop :=
  body.ref.Obeys p p

/-- Whether the loops of an object have bodies that obey, and its extractor only reports. -/
def Thing.Obeys (p : Permission) (thing : Thing ι) : Prop :=
  thing.part.IsGood (Body.Obeys p)

/-- Whether all objects in some registers obey. -/
def Registers.Obey (p : Permission) (registers : Registers ι) : Prop :=
  ∀ entry ∈ registers, entry.2.Obeys p

namespace Registers

variable {p : Permission} {registers : Registers ι}

theorem Obey.of_get? (obey : Registers.Obey p registers) {name : String} {thing : Thing ι}
    (found : Entries.get? registers name = some thing) : thing.Obeys p := by
  induction registers with
  | nil => contradiction
  | cons entry rest ih =>
      obtain ⟨first, others⟩ := List.forall_mem_cons.mp obey
      rw [Entries.get?, List.lookup_cons] at found
      split at found
      · cases found
        exact first
      · exact ih others found

theorem Obey.put (obey : Registers.Obey p registers) {thing : Thing ι} (obeys : thing.Obeys p)
    (name : String) : Registers.Obey p (Entries.put registers name thing) := by
  induction registers with
  | nil => exact List.forall_mem_singleton.mpr obeys
  | cons entry rest ih =>
      obtain ⟨first, others⟩ := List.forall_mem_cons.mp obey
      obtain ⟨other, old⟩ := entry
      rw [Entries.put]
      split
      · exact List.forall_mem_cons.mpr ⟨obeys, others⟩
      · exact List.forall_mem_cons.mpr ⟨first, ih others⟩

end Registers

theorem Thing.firstBuilder_obeys (p : Permission) : (firstBuilder : Thing ι).Obeys p :=
  ⟨Expr.each_empty, Extractor.onlyReports_standard⟩

namespace Store

variable {p : Permission} {s : Store ι}

/-- Whether all objects in all frames obey. -/
def Obeys (p : Permission) (s : Store ι) : Prop :=
  ∀ registers ∈ s.frames, Registers.Obey p registers

theorem initial_obeys (p : Permission) : (initial : Store ι).Obeys p := by
  intro registers among
  cases List.mem_singleton.mp (Array.mem_toList_iff.mpr among)
  exact List.forall_mem_singleton.mpr (Thing.firstBuilder_obeys p)

theorem Obeys.registers (obeys : s.Obeys p) (frame : Nat) :
    Registers.Obey p (s.frames.getD frame []) := by
  rw [Array.getD]
  split
  · exact obeys _ (Array.getElem_mem _)
  · exact List.forall_mem_nil _

theorem Obeys.modify (obeys : s.Obeys p) (frame : Nat) {f : Registers ι → Registers ι}
    (keeps : ∀ registers, Registers.Obey p registers → Registers.Obey p (f registers)) :
    Store.Obeys p { s with frames := s.frames.modify frame f } := by
  intro registers among
  obtain ⟨index, inside, rfl⟩ := Array.mem_iff_getElem.mp among
  rw [Array.getElem_modify]
  split
  · exact keeps _ (obeys _ (Array.getElem_mem _))
  · exact obeys _ (Array.getElem_mem _)

theorem Obeys.push (obeys : s.Obeys p) {registers : Registers ι}
    (obey : Registers.Obey p registers) :
    Store.Obeys p { s with frames := s.frames.push registers } := by
  intro others among
  rcases Array.mem_push.mp among with among | rfl
  · exact obeys others among
  · exact obey

theorem ask_obeys (condition : Condition) (obeys : s.Obeys p) :
    Store.Obeys p (Store.ask condition s).2 := by
  unfold Store.ask
  split
  · dsimp only
    split <;> exact obeys
  · split <;> exact obeys

end Store

end CypherText.Script
