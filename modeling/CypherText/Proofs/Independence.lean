import CypherText.Proofs.Code
import CypherText.Proofs.Sequence

/-!
# Builds do not disturb each other

In a `Session` builders are derived from those that there are, and builders are built, in any order
and any number of times. What a build gives depends on the states of the conditions that the builder
uses, and on nothing else that was done before. A build leaves all other states alone, so the builds
of some builders can be left out of a session without a trace for the builders that use none of
their conditions, and the builds of two builders that share no condition can change places.
-/

namespace CypherText

variable {π β σ κ : Type}

/-- The builders that there are, and the world. -/
structure Session (π β σ : Type) where
  builders : List (Builder π β)
  world : World σ

/-- What is done in a session. -/
inductive Act (π β : Type) where
  /-- Derives a builder from those that there are. -/
  | derive (operation : List (Builder π β) → Logged (Builder π β))
  /-- Builds the builder in some place. -/
  | build (place fuel : Nat) (separator : String)

namespace Session

/-- What an act gives, and the session after it. A builder that was derived stands behind all
others.
-/
def perform (host : Host π β σ) (s : Session π β σ) :
    Act π β → Option (Except Halt String) × Session π β σ
  | .derive operation =>
    let derived := operation s.builders
    (none, ⟨s.builders ++ derived.result.toOption.toList, s.world.record derived.events⟩)
  | .build place fuel separator =>
    match s.builders[place]? with
    | none => (none, s)
    | some b =>
      let (result, w) := host.render fuel separator b.expr s.world
      (some result, { s with world := w })

/-- What an act gives. -/
def result (host : Host π β σ) (s : Session π β σ) (act : Act π β) :
    Option (Except Halt String) :=
  (s.perform host act).1

/-- The session after some acts. -/
def after (host : Host π β σ) (s : Session π β σ) (acts : List (Act π β)) : Session π β σ :=
  acts.foldl (fun s act => (s.perform host act).2) s

/-- What each of some acts gives, one after the other. -/
def results (host : Host π β σ) (s : Session π β σ) :
    List (Act π β) → List (Act π β × Option (Except Halt String))
  | [] => []
  | act :: acts => (act, s.result host act) :: results host (s.perform host act).2 acts

section Perform

variable {host : Host π β σ} {s : Session π β σ} {b : Builder π β}

/-- A build gives what rendering gives. -/
theorem result_build {place : Nat} (there : s.builders[place]? = some b) (fuel : Nat)
    (separator : String) :
    s.result host (.build place fuel separator) =
      some (host.render fuel separator b.expr s.world).1 := by
  simp [result, perform, there]

/-- A build keeps the builders, and leaves the world that rendering leaves. -/
theorem perform_build {place : Nat} (there : s.builders[place]? = some b) (fuel : Nat)
    (separator : String) :
    (s.perform host (.build place fuel separator)).2 =
      { s with world := (host.render fuel separator b.expr s.world).2 } := by
  simp [perform, there]

/-- Builders never change: an act leaves those that there are in their places. -/
theorem builders_prefix_perform (act : Act π β) :
    s.builders <+: (s.perform host act).2.builders := by
  cases act with
  | derive operation => exact List.prefix_append _ _
  | build place fuel separator =>
      cases there : s.builders[place]? with
      | none => simp [perform, there]
      | some b => simp [perform_build there]

theorem builders_prefix_after (acts : List (Act π β)) :
    s.builders <+: (s.after host acts).builders := by
  induction acts generalizing s with
  | nil => exact List.prefix_refl _
  | cons act acts ih => exact (builders_prefix_perform act).trans ih

/-- A builder stays in its place, whatever is done. -/
theorem getElem?_builders_after (host : Host π β σ) {place : Nat}
    (there : s.builders[place]? = some b) (acts : List (Act π β)) :
    (s.after host acts).builders[place]? = some b := by
  obtain ⟨inBounds, rfl⟩ := List.getElem?_eq_some_iff.mp there
  exact List.prefix_iff_getElem?.mp (builders_prefix_after acts) place inBounds

end Perform

end Session

namespace Host

/-- Rendering gives the text that a run wrote, if the run has finished. -/
theorem fst_render (host : Host π β σ) (fuel : Nat) (separator : String) (e : Expr π β)
    (w : World σ) :
    (host.render fuel separator e w).1 =
      (host.run fuel e.steps (.empty separator) w).outcome.map fun _ =>
        (host.run fuel e.steps (.empty separator) w).buffer.text := by
  cases outcome : (host.run fuel e.steps (.empty separator) w).outcome with
  | error halt => simp [render, outcome, Except.map]
  | ok => simp [render, outcome, Except.map]

/-- Rendering leaves the state that a run leaves. -/
theorem state_render (host : Host π β σ) (fuel : Nat) (separator : String) (e : Expr π β)
    (w : World σ) :
    (host.render fuel separator e w).2.state =
      (host.run fuel e.steps (.empty separator) w).world.state := by
  cases outcome : (host.run fuel e.steps (.empty separator) w).outcome with
  | error halt => simp [render, outcome]
  | ok => simp [render, outcome]

end Host

namespace Code

variable [DecidableEq π] {code : Code π β κ}

/-- Whether a builder has a loop with the condition, at any depth. -/
def Uses (code : Code π β κ) (b : Builder π β) (condition : π) : Prop :=
  code.Has b.expr.steps condition

/-- What rendering gives depends on the states of the conditions that the builder uses. -/
theorem render_agree (code : Code π β κ) {b : Builder π β} (used : π → Prop)
    (within : ∀ condition, code.Uses b condition → used condition) (fuel : Nat) (separator : String)
    {w v : World (π → κ)}
    (agree : ∀ condition, used condition → w.state condition = v.state condition) :
    (code.host.render fuel separator b.expr w).1 = (code.host.render fuel separator b.expr v).1 ∧
      ∀ condition, used condition →
        (code.host.render fuel separator b.expr w).2.state condition =
          (code.host.render fuel separator b.expr v).2.state condition := by
  have same := code.run_matches_of_agree fuel within (.empty separator) agree
  constructor
  · rw [Host.fst_render, Host.fst_render, same.outcome, same.buffer]
  · intro condition isUsed
    rw [Host.state_render, Host.state_render]
    exact same.states condition isUsed

end Code

namespace Session

variable [DecidableEq π] {code : Code π β κ}

/-! ## What one build does to the states -/

section Build

variable {s : Session π β (π → κ)} {place : Nat} {b : Builder π β}

/-- A build leaves the states that a run of the builder leaves. -/
theorem state_build (there : s.builders[place]? = some b) (fuel : Nat) (separator : String) :
    (s.perform code.host (.build place fuel separator)).2.world.state =
      (code.host.run fuel b.expr.steps (.empty separator) s.world).world.state := by
  rw [perform_build there]
  exact code.host.state_render fuel separator b.expr s.world

/-- A build leaves the state of a condition alone that its builder does not use. -/
theorem state_build_of_not_uses (there : s.builders[place]? = some b) {condition : π}
    (unused : ¬ code.Uses b condition) (fuel : Nat) (separator : String) :
    (s.perform code.host (.build place fuel separator)).2.world.state condition =
      s.world.state condition := by
  rw [state_build there]
  exact code.state_run_of_not_has fuel _ s.world unused

end Build

/-! ## Leaving out the builds of some builders -/

/-- Whether two sessions have the same builders, and the same states of some conditions. -/
structure AlikeOn (used : π → Prop) (s t : Session π β (π → κ)) : Prop where
  builders : s.builders = t.builders
  states : ∀ condition, used condition → s.world.state condition = t.world.state condition

/-- What two sessions give that are alike, and the sessions after it, if a build uses none but the
conditions in which they are alike. -/
theorem AlikeOn.perform {used : π → Prop} {s t : Session π β (π → κ)} (alike : AlikeOn used s t)
    (code : Code π β κ) (act : Act π β)
    (within : ∀ place fuel separator b, act = .build place fuel separator →
      s.builders[place]? = some b → ∀ condition, code.Uses b condition → used condition) :
    s.result code.host act = t.result code.host act ∧
      AlikeOn used (s.perform code.host act).2 (t.perform code.host act).2 := by
  cases act with
  | derive operation =>
      refine ⟨rfl, ?_, alike.states⟩
      simp [Session.perform, alike.builders]
  | build place fuel separator =>
      cases there : s.builders[place]? with
      | none =>
          have absent := alike.builders ▸ there
          simpa [Session.result, Session.perform, there, absent] using alike
      | some b =>
          have present := alike.builders ▸ there
          obtain ⟨sameText, sameStates⟩ := code.render_agree used
            (within place fuel separator b rfl there) fuel separator alike.states
          rw [result_build there, result_build present, perform_build there, perform_build present]
          exact ⟨congrArg some sameText, alike.builders, sameStates⟩

/-- A build that uses none of the conditions in which two sessions are alike can be left out. -/
theorem AlikeOn.skip {used : π → Prop} {s t : Session π β (π → κ)} (alike : AlikeOn used s t)
    (code : Code π β κ) {place : Nat} (apart : ∀ b, s.builders[place]? = some b → ∀ condition,
      code.Uses b condition → ¬ used condition) (fuel : Nat) (separator : String) :
    AlikeOn used (s.perform code.host (.build place fuel separator)).2 t := by
  cases there : s.builders[place]? with
  | none => simpa [Session.perform, there] using alike
  | some b =>
      constructor
      · rw [perform_build there]
        exact alike.builders
      · intro condition isUsed
        have unused : ¬ code.Uses b condition := fun uses => apart b there condition uses isUsed
        exact (state_build_of_not_uses there unused fuel separator).trans
          (alike.states condition isUsed)

/-- Whether an act is kept when only some builders are built. -/
def keeps (own : Nat → Bool) : Act π β → Bool
  | .derive _ => true
  | .build place _ _ => own place

/-- The builds of other builders can be left out of a session, if these use none of the conditions
of the builders that are still built. -/
theorem results_filter {own : Nat → Bool} {used : π → Prop} {s t : Session π β (π → κ)}
    (alike : AlikeOn used s t) {acts : List (Act π β)}
    (within : ∀ place b, own place = true → (s.after code.host acts).builders[place]? = some b →
      ∀ condition, code.Uses b condition → used condition)
    (apart : ∀ place b, own place = false → (s.after code.host acts).builders[place]? = some b →
      ∀ condition, code.Uses b condition → ¬ used condition) :
    (s.results code.host acts).filter (fun entry => keeps own entry.1) =
        t.results code.host (acts.filter (keeps own)) ∧
      AlikeOn used (s.after code.host acts) (t.after code.host (acts.filter (keeps own))) := by
  induction acts generalizing s t with
  | nil => exact ⟨rfl, alike⟩
  | cons act acts ih =>
      have stays {place : Nat} {b : Builder π β} (there : s.builders[place]? = some b) :=
        getElem?_builders_after code.host there (act :: acts)
      by_cases kept : keeps own act = true
      · obtain ⟨sameResult, still⟩ := alike.perform code act <| by
          rintro place fuel separator b rfl there
          exact within place b kept (stays there)
        obtain ⟨sameResults, alikeAfter⟩ := ih still within apart
        simp only [results, List.filter_cons, kept, if_true]
        exact ⟨by rw [sameResult, sameResults], alikeAfter⟩
      · cases act with
        | derive => exact absurd rfl kept
        | build place fuel separator =>
            have notOwn : own place = false := Bool.eq_false_iff.mpr kept
            have still := alike.skip code (fun b there => apart place b notOwn (stays there)) fuel
              separator
            simp only [results, List.filter_cons, kept]
            exact ih still within apart

/-! ## Builders without conditions -/

/-- A builder that uses no condition gives the same whatever is done before, and keeps all states.
-/
theorem build_after_of_not_uses {s : Session π β (π → κ)} {place : Nat} {b : Builder π β}
    (there : s.builders[place]? = some b) (noLoop : ∀ condition, ¬ code.Uses b condition)
    (acts : List (Act π β)) (fuel : Nat) (separator : String) :
    (s.after code.host acts).result code.host (.build place fuel separator) =
        s.result code.host (.build place fuel separator) ∧
      ((s.after code.host acts).perform code.host (.build place fuel separator)).2.world.state =
        (s.after code.host acts).world.state := by
  have stays := getElem?_builders_after code.host there acts
  constructor
  · rw [result_build stays, result_build there]
    have nowhere : ∀ condition, False →
        (s.after code.host acts).world.state condition = s.world.state condition := by
      simp
    exact congrArg some (code.render_agree (fun _ => False) noLoop fuel separator nowhere).1
  · funext condition
    exact state_build_of_not_uses stays (noLoop condition) fuel separator

/-- With enough fuel a builder that uses no condition always gives one and the same result. -/
theorem exists_result_of_isFinite {s : Session π β (π → κ)} {place : Nat} {b : Builder π β}
    (there : s.builders[place]? = some b) (noLoop : ∀ condition, ¬ code.Uses b condition)
    (finite : ∀ step ∈ b.expr.steps, code.IsFinite step) (separator : String) :
    ∃ cost result, result ≠ .error .exhausted ∧ ∀ acts more,
      (s.after code.host acts).result code.host (.build place (cost + more) separator) =
        some result := by
  obtain ⟨cost, ends⟩ := Code.exists_cost_of_isFinite finite noLoop
  have ended := ends (.empty separator) s.world
  refine ⟨cost, (code.host.render cost separator b.expr s.world).1, ?_, ?_⟩
  · intro exhausted
    rw [Host.fst_render] at exhausted
    cases outcome : (code.host.run cost b.expr.steps (.empty separator) s.world).outcome with
    | error halt =>
        have isExhausted : halt = .exhausted := by simpa [outcome, Except.map] using exhausted
        exact ended (outcome.trans (congrArg Except.error isExhausted))
    | ok => simp [outcome, Except.map] at exhausted
  · intro acts more
    rw [(build_after_of_not_uses there noLoop acts (cost + more) separator).1,
      result_build there, Host.fst_render, Host.fst_render, Host.run_add ended]

/-! ## Two builds in either order -/

section Swap

variable {s : Session π β (π → κ)} {i j : Nat} {b other : Builder π β}

/-- Behind the build of a builder with other conditions a builder gives what it gives without it,
and leaves the same states of its conditions. -/
theorem build_of_apart (there : s.builders[i]? = some b) (otherThere : s.builders[j]? = some other)
    (apart : ∀ condition, code.Uses b condition → ¬ code.Uses other condition)
    (fuel otherFuel : Nat) (separator otherSeparator : String) :
    (s.perform code.host (.build j otherFuel otherSeparator)).2.result code.host
        (.build i fuel separator) = s.result code.host (.build i fuel separator) ∧
      ∀ condition, code.Uses b condition →
        (s.after code.host [.build j otherFuel otherSeparator,
            .build i fuel separator]).world.state condition =
          (s.perform code.host (.build i fuel separator)).2.world.state condition := by
  have skipped : AlikeOn (code.Uses b)
      (s.perform code.host (.build j otherFuel otherSeparator)).2 s := by
    refine AlikeOn.skip ⟨rfl, fun _ _ => rfl⟩ code ?_ otherFuel otherSeparator
    intro found isFound condition usesOther uses
    obtain rfl := Option.some.inj (otherThere.symm.trans isFound)
    exact apart condition uses usesOther
  have performed := skipped.perform code (.build i fuel separator) <| by
    rintro _ _ _ found ⟨⟩ isFound condition uses
    rw [skipped.builders, there] at isFound
    cases isFound
    exact uses
  exact ⟨performed.1, performed.2.states⟩

/-- Two builds that share no condition give the same and leave the same states in either order. -/
theorem build_swap (there : s.builders[i]? = some b) (otherThere : s.builders[j]? = some other)
    (apart : ∀ condition, code.Uses b condition → ¬ code.Uses other condition)
    (fuel otherFuel : Nat) (separator otherSeparator : String) :
    (s.perform code.host (.build j otherFuel otherSeparator)).2.result code.host
        (.build i fuel separator) = s.result code.host (.build i fuel separator) ∧
      (s.perform code.host (.build i fuel separator)).2.result code.host
        (.build j otherFuel otherSeparator) =
          s.result code.host (.build j otherFuel otherSeparator) ∧
      (s.after code.host [.build i fuel separator,
          .build j otherFuel otherSeparator]).world.state =
        (s.after code.host [.build j otherFuel otherSeparator,
          .build i fuel separator]).world.state := by
  have first := build_of_apart there otherThere apart fuel otherFuel separator otherSeparator
  have second := build_of_apart otherThere there (fun condition usesOther uses =>
    apart condition uses usesOther) otherFuel fuel otherSeparator separator
  have stays := getElem?_builders_after code.host there
    [.build j otherFuel otherSeparator]
  have otherStays := getElem?_builders_after code.host otherThere
    [.build i fuel separator]
  refine ⟨first.1, second.1, ?_⟩
  funext condition
  by_cases uses : code.Uses b condition
  · exact (state_build_of_not_uses otherStays (apart condition uses) _ _).trans
      (first.2 condition uses).symm
  · by_cases usesOther : code.Uses other condition
    · exact (second.2 condition usesOther).trans (state_build_of_not_uses stays uses _ _).symm
    · calc
        (s.after code.host [.build i fuel separator,
            .build j otherFuel otherSeparator]).world.state condition =
            (s.perform code.host (.build i fuel separator)).2.world.state condition :=
          state_build_of_not_uses otherStays usesOther _ _
        _ = s.world.state condition := state_build_of_not_uses there uses _ _
        _ = (s.perform code.host (.build j otherFuel otherSeparator)).2.world.state condition :=
          (state_build_of_not_uses otherThere usesOther _ _).symm
        _ = (s.after code.host [.build j otherFuel otherSeparator,
            .build i fuel separator]).world.state condition :=
          (state_build_of_not_uses stays uses _ _).symm

end Swap

/-- Builds do not disturb each other. A builder that uses no condition gives the same whatever was
derived and built before, and comes to its end if its loops are nested up to some depth only. Two
builds that share no condition give the same and leave the same states in either order. What some
builders give, in any order and number of builds, and the states that their conditions have in the
end, are the same without the builds of all builders that share no condition with them. And a build
moves the state of a condition on as often as it asks the condition, which it only does if its
builder has a loop with it. -/
theorem builds_do_not_disturb (code : Code π β κ) :
    (∀ (s : Session π β (π → κ)) (place : Nat) (b : Builder π β),
      s.builders[place]? = some b → (∀ condition, ¬ code.Uses b condition) →
        (∀ (acts : List (Act π β)) (fuel : Nat) (separator : String),
          (s.after code.host acts).result code.host (.build place fuel separator) =
              s.result code.host (.build place fuel separator) ∧
            ((s.after code.host acts).perform code.host
                (.build place fuel separator)).2.world.state =
              (s.after code.host acts).world.state) ∧
        ((∀ step ∈ b.expr.steps, code.IsFinite step) → ∀ separator, ∃ cost result,
          result ≠ .error .exhausted ∧ ∀ acts more,
            (s.after code.host acts).result code.host (.build place (cost + more) separator) =
              some result)) ∧
    (∀ (s : Session π β (π → κ)) (i j : Nat) (b other : Builder π β),
      s.builders[i]? = some b → s.builders[j]? = some other →
      (∀ condition, code.Uses b condition → ¬ code.Uses other condition) →
      ∀ (fuel otherFuel : Nat) (separator otherSeparator : String),
        (s.perform code.host (.build j otherFuel otherSeparator)).2.result code.host
            (.build i fuel separator) = s.result code.host (.build i fuel separator) ∧
          (s.perform code.host (.build i fuel separator)).2.result code.host
            (.build j otherFuel otherSeparator) =
              s.result code.host (.build j otherFuel otherSeparator) ∧
          (s.after code.host [.build i fuel separator,
              .build j otherFuel otherSeparator]).world.state =
            (s.after code.host [.build j otherFuel otherSeparator,
              .build i fuel separator]).world.state) ∧
    (∀ (s : Session π β (π → κ)) (acts : List (Act π β)) (own : Nat → Bool),
      (∀ i j b other, own i = true → own j = false →
        (s.after code.host acts).builders[i]? = some b →
        (s.after code.host acts).builders[j]? = some other →
        ∀ condition, code.Uses b condition → ¬ code.Uses other condition) →
      (s.results code.host acts).filter (fun entry => keeps own entry.1) =
          s.results code.host (acts.filter (keeps own)) ∧
        ∀ i b, own i = true → (s.after code.host acts).builders[i]? = some b →
          ∀ condition, code.Uses b condition →
            (s.after code.host acts).world.state condition =
              (s.after code.host (acts.filter (keeps own))).world.state condition) ∧
    ∀ (s : Session π β (π → κ)) (place : Nat) (b : Builder π β), s.builders[place]? = some b →
      ∀ (fuel : Nat) (separator : String) (condition : π),
        let asked := code.timesAsked fuel b.expr.steps (.empty separator) s.world condition
        (s.perform code.host (.build place fuel separator)).2.world.state condition =
            (code.next condition)^[asked] (s.world.state condition) ∧
          (asked ≠ 0 → code.Uses b condition) := by
  refine ⟨?_, ?_, ?_, ?_⟩
  · intro s place b there noLoop
    constructor
    · exact build_after_of_not_uses there noLoop
    · exact exists_result_of_isFinite there noLoop
  · intro s i j b other there otherThere apart
    exact build_swap there otherThere apart
  · intro s acts own separate
    let used (condition : π) := ∃ i b, own i = true ∧
      (s.after code.host acts).builders[i]? = some b ∧ code.Uses b condition
    have alike : AlikeOn used s s := ⟨rfl, fun _ _ => rfl⟩
    obtain ⟨sameResults, alikeAfter⟩ := results_filter alike
      (fun i b isOwn there condition uses => ⟨i, b, isOwn, there, uses⟩)
      (fun j other notOwn otherThere condition usesOther ⟨i, b, isOwn, there, uses⟩ =>
        separate i j b other isOwn notOwn there otherThere condition uses usesOther)
    refine ⟨sameResults, ?_⟩
    intro i b isOwn there condition uses
    exact alikeAfter.states condition ⟨i, b, isOwn, there, uses⟩
  · intro s place b there fuel separator condition
    rw [state_build there]
    exact code.state_run fuel b.expr.steps (.empty separator) s.world condition

/-- Conditions that count down, and bodies that are the texts of clauses. -/
def counters : Code String String Nat where
  answer _ n := (.ok (0 < n), n - 1)
  give text := .ofExcept (.ok (.expr (.clause .raw text)))

theorem exprOf_counters (text : String) :
    counters.exprOf text = .ofExcept (.ok (.clause .raw text)) :=
  rfl

/-- The builder from which the branches are derived. -/
def trunk : Builder String String :=
  Builder.empty.extend (.clause .matching "MATCH (n)")

/-- Three branches of one builder: one with a loop over texts, two with loops that count down. -/
def branches : Session String String (String → Nat) where
  builders := [trunk.forEach ["A", "B"], trunk.extend (.whileLoop "x" (.clause .raw "X")),
    trunk.extend (.whileLoop "y" (.clause .raw "Y"))]
  world := ⟨[], fun condition => if condition = "x" then 2 else 1⟩

theorem builds_of_branches :
    (branches.after counters.host [.build 1 9 "\n", .build 2 9 "\n"]).result counters.host
        (.build 0 9 "\n") = some (.ok "MATCH (n)\nA\nB") ∧
      (branches.perform counters.host (.build 2 9 "\n")).2.result counters.host
        (.build 1 9 "\n") = some (.ok "MATCH (n)\nX\nX") := by
  have independence := builds_do_not_disturb counters
  have uses_trunk (more : Expr String String) (condition : String) :
      counters.Uses (trunk.extend more) condition ↔ counters.Has more.steps condition := by
    simp [Code.Uses, trunk, Builder.empty, Expr.clause]
  constructor
  · have alone : ∀ condition, ¬ counters.Uses (trunk.forEach ["A", "B"]) condition := by
      simp [Builder.forEach, uses_trunk, Expr.forEach, exprOf_counters, Logged.ofExcept,
        Expr.clause]
    exact ((independence.1 branches 0 _ rfl alone).1 _ 9 "\n").1.trans rfl
  · have apart : ∀ condition,
        counters.Uses (trunk.extend (.whileLoop "x" (.clause .raw "X"))) condition →
        ¬ counters.Uses (trunk.extend (.whileLoop "y" (.clause .raw "Y"))) condition := by
      simp [uses_trunk, Expr.whileLoop, Expr.clause]
    exact (independence.2.1 branches 1 2 _ _ rfl rfl apart 9 9 "\n" "\n").1.trans rfl

end Session

end CypherText
