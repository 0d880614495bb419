import CypherText.Proofs.Fault

/-!
# What operations log

An operation of a builder that fails has logged the report of its failure if the library reports
it, and nothing else: a clause is only announced when its text is made and nothing can fail any
more. That rests on the extractor, which has to be as silent; all extractors that a call can give
are.
-/

namespace CypherText

namespace Event

/-- Whether a record only tells that a clause is appended, or that a predicate is replaced. -/
def IsRoutine : Event → Prop
  | appending _ => True
  | placeholder _ => True
  | _ => False

/-- A logger that shows all severities shows every record. -/
theorem isVisible_debug (e : Event) : e.isVisible Severity.debug.number = true := by
  have least (severity : Severity) : Severity.debug.number ≤ severity.number := by
    cases severity <;> decide
  exact decide_eq_true (least e.severity)

end Event

namespace Logged

universe u

variable {α β : Type u}

/-- Whether an operation logs nothing but the report of its failure. -/
def OnlyReports (operation : Logged α) : Prop :=
  match operation.result with
  | .ok _ => operation.events = []
  | .error failure => operation.events = failure.records

/-- Whether an operation that fails logs the report of its failure and nothing else, and one that
succeeds only routine records. -/
def IsOrderly (operation : Logged α) : Prop :=
  match operation.result with
  | .ok _ => ∀ e ∈ operation.events, e.IsRoutine
  | .error failure => operation.events = failure.records

theorem IsOrderly.events_eq {operation : Logged α} {failure : Failure}
    (isOrderly : operation.IsOrderly) (failed : operation.result = .error failure) :
    operation.events = failure.records := by
  rwa [IsOrderly, failed] at isOrderly

theorem IsOrderly.isRoutine {operation : Logged α} {a : α} (isOrderly : operation.IsOrderly)
    (succeeded : operation.result = .ok a) : ∀ e ∈ operation.events, e.IsRoutine := by
  rwa [IsOrderly, succeeded] at isOrderly

theorem OnlyReports.isOrderly {operation : Logged α} (onlyReports : operation.OnlyReports) :
    operation.IsOrderly := by
  unfold OnlyReports at onlyReports
  unfold IsOrderly
  split at onlyReports
  · simp [onlyReports]
  · exact onlyReports

theorem onlyReports_pure (a : α) : (pure a : Logged α).OnlyReports :=
  rfl

theorem onlyReports_raise (f : Fault) : (raise f : Logged α).OnlyReports :=
  rfl

theorem onlyReports_ofExcept {α : Type} {result : Except Failure α} (faultless : Faultless result) :
    (ofExcept result).OnlyReports := by
  cases result with
  | ok a => rfl
  | error failure => exact faultless.isSilent.records_eq.symm

theorem OnlyReports.bind {first : Logged α} {next : α → Logged β} (starts : first.OnlyReports)
    (goesOn : ∀ a, (next a).OnlyReports) : (first >>= next).OnlyReports := by
  unfold OnlyReports at starts
  split at starts
  case h_1 a ok =>
    rw [bind_of_ok ok, starts]
    exact goesOn a
  case h_2 failure failed =>
    rw [bind_of_error failed]
    exact starts

/-- What comes before a routine record has to be silent. -/
theorem OnlyReports.bind_isOrderly {first : Logged α} {next : α → Logged β}
    (starts : first.OnlyReports) (goesOn : ∀ a, (next a).IsOrderly) :
    (first >>= next).IsOrderly := by
  unfold OnlyReports at starts
  split at starts
  case h_1 a ok =>
    rw [bind_of_ok ok, starts]
    exact goesOn a
  case h_2 failure failed =>
    rw [bind_of_error failed]
    exact starts

end Logged

/-! ## Extractors -/

theorem Attributes.faultless_values (attributes : Attributes) :
    Faultless attributes.values := by
  refine .mapM (fun (name, value?) => ?_) attributes
  cases value? with
  | none => exact .error nofun
  | some v => exact .ok (name, v)

/-- Whether an extractor logs nothing but the report of its failure. -/
def Extractor.OnlyReports (extractor : Extractor) : Prop :=
  ∀ entity, (extractor entity).OnlyReports

namespace Extractor

theorem faultless_size (v : Value) : Faultless (size v) := by
  unfold size
  split
  case h_2 => exact .error nofun
  case h_7 => exact .error nofun
  all_goals exact .ok _

theorem faultless_ofEmptyTuple (cls : EntityClass) (names : Value) :
    Faultless (ofEmptyTuple cls names) := by
  refine (faultless_size names).bind fun count => ?_
  split
  · exact .ok _
  · exact .error nofun

theorem faultless_pairs (names : List (Option String)) (values : List Value) :
    Faultless (pairs names values) := by
  induction names, values using pairs.induct with
  | case1 => exact .ok []
  | case2 name names v values ih => exact ih.bind fun _ => .ok _
  | case3 names v values => exact .error nofun
  | case4 names values notEmpty notNamed notUnnamed =>
      rw [pairs]
      · exact .error nofun
      all_goals assumption

theorem onlyReports_ofObject (cls : EntityClass) (ancestry : Ancestry)
    (attributes : Option Properties) : (ofObject cls ancestry attributes).OnlyReports := by
  unfold ofObject
  split
  · split
    · exact Logged.onlyReports_ofExcept (faultless_ofEmptyTuple cls _)
    · exact Logged.onlyReports_ofExcept (.ok _)
  · split
    · exact Logged.onlyReports_ofExcept (.ok _)
    · exact Logged.onlyReports_raise _
  · exact Logged.onlyReports_raise _

theorem onlyReports_ofValue (v : Value) : (ofValue v).OnlyReports := by
  unfold ofValue
  split
  · exact Logged.onlyReports_ofExcept (.ok _)
  · split
    · exact Logged.onlyReports_ofExcept (.ok _)
    · exact Logged.onlyReports_raise _
  · split
    · exact Logged.onlyReports_ofExcept (.ok _)
    · exact Logged.onlyReports_raise _
  · exact Logged.onlyReports_raise _

theorem onlyReports_standard : standard.OnlyReports := by
  intro entity
  cases entity with
  | extracted entity => exact Logged.onlyReports_ofExcept (.ok entity)
  | model cls declared _ _ => exact Logged.onlyReports_ofExcept (declared.faultless_values.map _)
  | record cls fields later =>
      exact Logged.onlyReports_ofExcept ((currentFields fields later).faultless_values.map _)
  | namedTuple cls names values =>
      exact Logged.onlyReports_ofExcept ((faultless_pairs names values).map _)
  | object cls ancestry attributes => exact onlyReports_ofObject cls ancestry attributes
  | classItself _ metaclass => exact Logged.onlyReports_raise _
  | value v => exact onlyReports_ofValue v

/-- An extractor that always reads the same has nothing to report. -/
theorem onlyReports_constant (entity : Extracted) : (constant entity).OnlyReports :=
  fun _ => Logged.onlyReports_ofExcept (.ok entity)

end Extractor

/-! ## Builders -/

theorem Declaration.onlyReports_text (platform : Platform) {extractor : Extractor}
    (onlyReports : extractor.OnlyReports) (d : Declaration) :
    (d.text platform extractor).OnlyReports := by
  refine (onlyReports d.payload).bind fun extracted => ?_
  exact (Logged.onlyReports_ofExcept (extracted.properties.faultless_block platform)).bind
    fun _ => Logged.onlyReports_pure _

namespace Part

variable {π β : Type}

theorem onlyReports_toExpr (part : Part π β) : part.toExpr.OnlyReports := by
  unfold toExpr
  split
  · exact Logged.onlyReports_ofExcept (.ok _)
  · exact Logged.onlyReports_raise _

end Part

namespace Builder

variable {π β : Type} {b : Builder π β}

theorem isOrderly_append (kind : ClauseKind) (text : String) (b : Builder π β) :
    (b.append kind text).IsOrderly := by
  intro e among
  cases List.mem_singleton.mp among
  trivial

theorem isOrderly_wherePredicate (env : Env) (predicate : Predicate) (b : Builder π β) :
    (b.wherePredicate env predicate).IsOrderly := by
  refine (Logged.onlyReports_ofExcept (predicate.faultless_describe _)).bind_isOrderly ?_
  -- The warning is not silent, but nothing behind it can fail.
  intro description e among
  rcases List.mem_cons.mp among with rfl | among
  · trivial
  · exact isOrderly_append _ _ b e among

theorem isOrderly_returning (items : List String) (b : Builder π β) :
    (b.returning items).IsOrderly := by
  cases items with
  | nil => exact (Logged.onlyReports_raise _).isOrderly
  | cons item items => exact isOrderly_append _ _ b

theorem isOrderly_createNode (env : Env) (name label : Name) (properties : Properties)
    (b : Builder π β) : (b.createNode env name label properties).IsOrderly :=
  (Logged.onlyReports_ofExcept (properties.faultless_block env.platform)).bind_isOrderly
    fun _ => isOrderly_append _ _ b

theorem isOrderly_createTyped (env : Env) (name label : Name) (entity : Entity)
    (onlyReports : b.extractor.OnlyReports) : (b.createTyped env name label entity).IsOrderly :=
  (onlyReports entity).bind_isOrderly fun _ => isOrderly_createNode env name label _ b

theorem isOrderly_create (env : Env) (name : Name) (entity : Entity)
    (onlyReports : b.extractor.OnlyReports) : (b.create env name entity).IsOrderly :=
  (onlyReports entity).bind_isOrderly fun _ => isOrderly_createNode env name _ _ b

theorem isOrderly_relate (env : Env) (form : RelateForm) (declaration : Operand)
    (onlyReports : b.extractor.OnlyReports) : (b.relate env form declaration).IsOrderly := by
  unfold relate
  split
  case h_1 d =>
    have silent := d.onlyReports_text env.platform onlyReports
    exact silent.bind_isOrderly fun _ => isOrderly_append _ _ b
  all_goals exact (Logged.onlyReports_raise _).isOrderly

theorem onlyReports_whileLoop (condition : π) (body : Part π β) (b : Builder π β) :
    (b.whileLoop condition body).OnlyReports :=
  body.onlyReports_toExpr.bind fun _ => Logged.onlyReports_pure _

end Builder

/-! ## Calls -/

/-- Whether no argument of a call is refused by a fault, and an extractor that the call gives only
reports. -/
def Call.IsSilent : Call → Prop
  | createTyped _ _ entity => entity.IsSilent
  | create _ entity => entity.IsSilent
  | relate _ declaration => declaration.IsSilent
  | withExtractor extractor => extractor.OnlyReports
  | refused failure => failure.IsSilent
  | _ => True

/-- A call on something that is no builder is not refused by a fault either. -/
theorem Call.IsSilent.failureElsewhere {call : Call} (isSilent : call.IsSilent) :
    call.failureElsewhere.IsSilent := by
  unfold Call.failureElsewhere
  split
  · rename_i term
    have faultless : Faultless term.eval := Term.IsSilent.faultless_eval isSilent
    split
    · exact nofun
    · rename_i failed
      rw [failed] at faultless
      exact faultless.isSilent
  · exact nofun

namespace Call

variable {π β : Type} {b : Builder π β}

/-- A call that fails has logged the report of its failure and nothing else. -/
theorem isOrderly_apply (env : Env) {call : Call} (isSilent : call.IsSilent)
    (onlyReports : b.extractor.OnlyReports) : (call.apply env b).IsOrderly := by
  cases call with
  | raw statement => exact b.isOrderly_append _ _
  | matching pattern => exact b.isOrderly_append _ _
  | optionalMatch pattern => exact b.isOrderly_append _ _
  | whereText condition => exact b.isOrderly_append _ _
  | createUniqueText statement => exact b.isOrderly_append _ _
  | wherePredicate predicate => exact b.isOrderly_wherePredicate env predicate
  | returning items => exact b.isOrderly_returning items
  | createEmpty name label => exact b.isOrderly_createNode env name label []
  | createTyped name label source =>
      refine (Logged.onlyReports_ofExcept isSilent.faultless_make).bind_isOrderly ?_
      intro entity
      exact Builder.isOrderly_createTyped env name label entity onlyReports
  | create name source =>
      refine (Logged.onlyReports_ofExcept isSilent.faultless_make).bind_isOrderly ?_
      intro entity
      exact Builder.isOrderly_create env name entity onlyReports
  | relate form term =>
      refine (Logged.onlyReports_ofExcept isSilent.faultless_eval).bind_isOrderly ?_
      intro declaration
      exact Builder.isOrderly_relate env form declaration onlyReports
  | withExtractor extractor =>
      exact (Logged.onlyReports_pure (b.withExtractor extractor)).isOrderly
  | refused failure => exact (Logged.onlyReports_ofExcept (.error isSilent)).isOrderly

/-- A call that succeeds gives the builder with one more clause, or with the extractor that the call
names. -/
theorem apply_cases {env : Env} {call : Call} {made : Builder π β}
    (applied : (call.apply env b).result = .ok made) :
    (∃ kind text, made = b.extend (.clause kind text)) ∨
      ∃ extractor, call = .withExtractor extractor ∧ made = b.withExtractor extractor := by
  cases call with
  | raw _ | matching _ | optionalMatch _ | whereText _ | createUniqueText _ =>
      exact .inl ⟨_, _, Builder.result_append_eq_ok_iff.mp applied⟩
  | wherePredicate predicate =>
      obtain ⟨_, _, applied⟩ := Logged.result_bind_eq_ok_iff.mp applied
      cases applied
      exact .inl ⟨_, _, rfl⟩
  | returning items =>
      cases items with
      | nil => contradiction
      | cons item items => exact .inl ⟨_, _, Builder.result_append_eq_ok_iff.mp applied⟩
  | createEmpty name label =>
      obtain ⟨_, _, appended⟩ := Builder.result_createNode_eq_ok_iff.mp applied
      exact .inl ⟨_, _, appended⟩
  | createTyped name label source =>
      obtain ⟨_, _, applied⟩ := Logged.result_bind_eq_ok_iff.mp applied
      obtain ⟨_, _, _, _, appended⟩ := Builder.result_createTyped_eq_ok_iff.mp applied
      exact .inl ⟨_, _, appended⟩
  | create name source =>
      obtain ⟨_, _, applied⟩ := Logged.result_bind_eq_ok_iff.mp applied
      obtain ⟨_, _, _, _, appended⟩ := Builder.result_create_eq_ok_iff.mp applied
      exact .inl ⟨_, _, appended⟩
  | relate form term =>
      obtain ⟨_, _, applied⟩ := Logged.result_bind_eq_ok_iff.mp applied
      obtain ⟨_, _, _, _, _, _, appended⟩ := Builder.result_relate_eq_ok_iff.mp applied
      exact .inl ⟨_, _, appended⟩
  | withExtractor extractor =>
      cases applied
      exact .inr ⟨extractor, rfl, rfl⟩
  | refused failure => contradiction

end Call

end CypherText
