import CypherText.Script.Run

/-!
# Running effects

After a success the next effect goes on from the world that is left; after a failure nothing more
takes place. `Makes` is for the effects that always have a result and change nothing but the
number of the next object.
-/

namespace CypherText.Script

namespace Effect

variable {ι α β : Type}

theorem run_bind_of_ok {x : Effect ι α} {w after : World (Store ι)} {a : α}
    (ok : x.run.run w = (.ok a, after)) (next : α → Effect ι β) :
    (x >>= next).run.run w = (next a).run.run after := by
  simp only [ExceptT.run_bind, StateT.run_bind]
  rw [ok]
  rfl

theorem run_bind_of_error {x : Effect ι α} {w after : World (Store ι)} {halt : Halt}
    (failed : x.run.run w = (.error halt, after)) (next : α → Effect ι β) :
    (x >>= next).run.run w = (.error halt, after) := by
  simp only [ExceptT.run_bind, StateT.run_bind]
  rw [failed]
  rfl

/-- An operation writes its records, whether it succeeds or not. -/
theorem run_perform (operation : Logged α) (w : World (Store ι)) :
    (perform operation : Effect ι α).run.run w =
      (operation.result.mapError .failed, w.record operation.events) := by
  obtain ⟨events, result⟩ := operation
  cases result with
  | error failure => rfl
  | ok a => rfl

/-! ## Effects that only make objects -/

/-- The world with another number for the next object. -/
def withNextId (w : World (Store ι)) (next : Nat) : World (Store ι) :=
  { w with state := { w.state with nextId := next } }

/-- The effect always has a result, which is `good`, and it writes no record and changes nothing but
the number of the next object. -/
def Makes (good : α → Prop) (x : Effect ι α) : Prop :=
  ∀ w, ∃ a next, x.run.run w = (.ok a, withNextId w next) ∧ good a

theorem makes_pure {good : α → Prop} {a : α} (isGood : good a) :
    Makes good (pure a : Effect ι α) := by
  intro w
  exact ⟨a, w.state.nextId, rfl, isGood⟩

theorem Makes.imp {good fine : α → Prop} {x : Effect ι α} (makes : Makes good x)
    (implies : ∀ a, good a → fine a) : Makes fine x := by
  intro w
  obtain ⟨a, next, ran, isGood⟩ := makes w
  exact ⟨a, next, ran, implies a isGood⟩

theorem makes_bind {good : α → Prop} {fine : β → Prop} {x : Effect ι α} {next : α → Effect ι β}
    (first : Makes good x) (second : ∀ a, good a → Makes fine (next a)) :
    Makes fine (x >>= next) := by
  intro w
  obtain ⟨a, number, ran, isGood⟩ := first w
  obtain ⟨b, last, ranNext, isFine⟩ := second a isGood (withNextId w number)
  exact ⟨b, last, by rw [run_bind_of_ok ran, ranNext]; rfl, isFine⟩

theorem makes_freshId : Makes (fun _ => True) (freshId : Effect ι Nat) := by
  intro w
  exact ⟨w.state.nextId, w.state.nextId + 1, rfl, trivial⟩

theorem makes_joinId (firstId : Nat) (first : Expr Condition (Body ι)) (secondId : Nat)
    (second : Expr Condition (Body ι)) :
    Makes (fun _ => True) (joinId firstId first secondId second) := by
  unfold joinId
  split
  · exact makes_pure trivial
  · split
    · exact makes_pure trivial
    · exact makes_freshId

/-- An operation that has a result and writes no record. -/
theorem makes_perform {good : α → Prop} {operation : Logged α} {a : α}
    (silent : operation = .ofExcept (.ok a)) (isGood : good a) :
    Makes good (perform operation : Effect ι α) := by
  subst silent
  intro w
  refine ⟨a, w.state.nextId, ?_, isGood⟩
  rw [run_perform, Logged.ofExcept, World.record, List.append_nil]
  rfl

/-- The effect never has a result, and it writes no record and changes nothing but the number of the
next object. -/
def Refuses (x : Effect ι α) : Prop :=
  ∀ w, ∃ failure next, x.run.run w = (.error (.failed failure), withNextId w next)

theorem refuses_fail (failure : Failure) : Refuses (fail failure : Effect ι α) := by
  intro w
  exact ⟨failure, w.state.nextId, rfl⟩

theorem refuses_bind_of_refuses {x : Effect ι α} (refuses : Refuses x) (next : α → Effect ι β) :
    Refuses (x >>= next) := by
  intro w
  obtain ⟨failure, number, ran⟩ := refuses w
  exact ⟨failure, number, run_bind_of_error ran next⟩

theorem refuses_bind_of_makes {good : α → Prop} {x : Effect ι α} {next : α → Effect ι β}
    (first : Makes good x) (second : ∀ a, good a → Refuses (next a)) : Refuses (x >>= next) := by
  intro w
  obtain ⟨a, number, ran, isGood⟩ := first w
  obtain ⟨failure, last, ranNext⟩ := second a isGood (withNextId w number)
  exact ⟨failure, last, by rw [run_bind_of_ok ran, ranNext]; rfl⟩

end Effect

end CypherText.Script
