import CypherText.Report
import CypherText.Time.Timestamp.Reader

/-!
# Details from an open collection

A report that is given an open collection of details takes the source and the operation out of it,
whether the details can be read or not. So the collection stays as it was exactly if it tells
neither of them. Reports that are made from the same collection, one after another, know the place
only once: all but the first have details without it, and agree with the first only if the place
makes no difference.
-/

namespace CypherText

namespace Details

variable {entries : Fields} {source operation : Except Flaw String}
  {time : Except Flaw (Option Timestamp)}

/-- What a collection tells under a name. Where it tells nothing, nothing is known. -/
def told (entries : Fields) (name : String) : Except Flaw String :=
  readText ((entries.get? name).getD (.text unknown))

theorem told_of_get?_eq_none {name : String} (silent : entries.get? name = none) :
    told entries name = .ok unknown := by
  rw [told, silent]
  rfl

/-- A collection without the place of the report. -/
def withoutPlace (entries : Fields) : Fields :=
  (entries.erase "source").erase "operation"

theorem get?_withoutPlace (entries : Fields) (name : String) :
    (withoutPlace entries).get? name =
      if name = "source" ∨ name = "operation" then none else entries.get? name := by
  rw [withoutPlace, Entries.get?_erase, Entries.get?_erase]
  by_cases isOperation : name = "operation"
  · simp [isOperation]
  · simp [isOperation]

@[simp]
theorem withoutPlace_withoutPlace (entries : Fields) :
    withoutPlace (withoutPlace entries) = withoutPlace entries := by
  have noSource : (withoutPlace entries).erase "source" = withoutPlace entries := by
    rw [Entries.erase_eq_self_iff, get?_withoutPlace]
    rfl
  rw [withoutPlace, noSource, Entries.erase_eq_self_iff, get?_withoutPlace]
  rfl

theorem withoutPlace_eq_self_iff :
    withoutPlace entries = entries ↔
      entries.get? "source" = none ∧ entries.get? "operation" = none := by
  constructor
  · intro same
    rw [← same, get?_withoutPlace, get?_withoutPlace]
    exact ⟨rfl, rfl⟩
  · rintro ⟨noSource, noOperation⟩
    rw [withoutPlace, Entries.erase_eq_self_iff.mpr noSource,
      Entries.erase_eq_self_iff.mpr noOperation]

/-- The details with a place and a time that have been read, or the flaws of these. -/
def ofRead (source operation : Except Flaw String) (time : Except Flaw (Option Timestamp)) :
    Except Flaws Details :=
  match source, operation, time with
  | .ok source, .ok operation, .ok time => .ok ⟨source, operation, .unspecified, time⟩
  | source, operation, time =>
    .error (Flaws.sorted (.ofField "source" source ++ .ofField "operation" operation ++
      .ofField "timestamp" time))

theorem read_plain (reader : TimeReader) (fields : Fields) :
    read reader .plain fields = ofRead (readRequiredText (fields.get? "source"))
      (readRequiredText (fields.get? "operation")) (readTime reader (fields.get? "timestamp")) := by
  simp only [read, Subject.read]
  cases readRequiredText (fields.get? "source") with
  | error flaw => simp [ofRead]
  | ok place =>
      cases readRequiredText (fields.get? "operation") with
      | error flaw => simp [ofRead]
      | ok action => cases readTime reader (fields.get? "timestamp") <;> simp [ofRead]

/-- A collection is converted by reading what it tells about the place, and its time. -/
theorem fst_take (reader : TimeReader) (entries : Fields) :
    (take reader entries).1 = ofRead (told entries "source") (told entries "operation")
      (readTime reader (entries.get? "timestamp")) := by
  have sameTime : (withoutPlace entries).get? "timestamp" = entries.get? "timestamp" := by
    rw [get?_withoutPlace]
    rfl
  rw [take, ← withoutPlace, read_plain]
  simp only [Entries.get?_cons, sameTime]
  rfl

/-- The place makes no difference to details that can be read exactly if it is not known. -/
theorem ofRead_eq_ofRead_unknown_of_ok (at? : Option Timestamp) :
    ofRead source operation (.ok at?) = ofRead (.ok unknown) (.ok unknown) (.ok at?) ↔
      source = .ok unknown ∧ operation = .ok unknown := by
  constructor
  · intro same
    cases source with
    | error flaw => simp [ofRead] at same
    | ok place =>
        cases operation with
        | error flaw => simp [ofRead] at same
        | ok action => simpa [ofRead] using same
  · rintro ⟨rfl, rfl⟩
    rfl

/-- The place makes no difference to the flaws of details that cannot be read exactly if it has no
flaws itself. -/
theorem ofRead_eq_ofRead_unknown_of_error (flaw : Flaw) :
    ofRead source operation (.error flaw) = ofRead (.ok unknown) (.ok unknown) (.error flaw) ↔
      (∃ place, source = .ok place) ∧ ∃ action, operation = .ok action := by
  have flaws (source operation : Except Flaw String) : ofRead source operation (.error flaw) =
      .error (Flaws.sorted (.ofField "source" source ++ .ofField "operation" operation ++
        [("timestamp", flaw)])) := by
    cases source <;> cases operation <;> rfl
  constructor
  · intro same
    rw [flaws, flaws, Except.error.injEq] at same
    have count := congrArg List.length same
    simp only [Flaws.sorted, List.length_mergeSort] at count
    cases source with
    | error other => simp [Flaws.ofField] at count
    | ok place =>
        cases operation with
        | error other => simp [Flaws.ofField] at count
        | ok action => exact ⟨⟨place, rfl⟩, action, rfl⟩
  · rintro ⟨⟨place, rfl⟩, action, rfl⟩
    rfl

end Details

namespace Report

variable {reader : TimeReader} {entries : Fields} {calls : List (Category × String)}

/-- What is left of a collection does not depend on whether there is a report. -/
theorem snd_make (reader : TimeReader) (category : Category) (message : String) (entries : Fields) :
    (make reader category message (.entries entries)).2 = Details.withoutPlace entries := by
  rw [make]
  split
  · next ignored =>
      have isEmpty : entries = [] := by simpa using (Bool.and_eq_true_iff.mp ignored).1
      rw [isEmpty]
      rfl
  · rfl

/-- A collection that tells something is converted, whatever the category. -/
theorem details_make (category : Category) (message : String) (notEmpty : entries ≠ []) :
    (make reader category message (.entries entries)).1.map Report.details =
      (Details.take reader entries).1 := by
  have isKept : (entries.isEmpty && category.ignoresEmpty) = false := by simp [notEmpty]
  simp only [make, isKept]
  cases (Details.take reader entries).1 with
  | ok details => rfl
  | error flaws => rfl

/-- Makes one report after another from the same collection, each of them from what the one before
has left. -/
def makeEach (reader : TimeReader) :
    Fields → List (Category × String) → List (Except Flaws Report)
  | _, [] => []
  | entries, (category, message) :: calls =>
    let (made, left) := make reader category message (.entries entries)
    made :: makeEach reader left calls

/-- Whether all reports have the same details, or cannot be made for the same flaws. -/
def Agree (made : List (Except Flaws Report)) : Prop :=
  ∃ outcome : Except Flaws Details, ∀ result ∈ made, result.map Report.details = outcome

theorem makeEach_cons (reader : TimeReader) (entries : Fields) (category : Category)
    (message : String) (calls : List (Category × String)) :
    makeEach reader entries ((category, message) :: calls) =
      (make reader category message (.entries entries)).1 ::
        makeEach reader (Details.withoutPlace entries) calls := by
  rw [makeEach, ← snd_make reader category message]

/-- From a collection without a place all reports get the same details. -/
theorem details_of_mem_makeEach (noPlace : Details.withoutPlace entries = entries)
    (notEmpty : entries ≠ []) {result : Except Flaws Report}
    (among : result ∈ makeEach reader entries calls) :
    result.map Report.details = (Details.take reader entries).1 := by
  induction calls with
  | nil => simp [makeEach] at among
  | cons call calls ih =>
      rcases call with ⟨category, message⟩
      rw [makeEach_cons, noPlace, List.mem_cons] at among
      rcases among with rfl | later
      · exact details_make category message notEmpty
      · exact ih later

/-- All reports but the first are made from a collection without a place. -/
theorem agree_tail_makeEach (notEmpty : Details.withoutPlace entries ≠ []) :
    Agree (makeEach reader entries calls).tail := by
  refine ⟨(Details.take reader (Details.withoutPlace entries)).1, ?_⟩
  intro result among
  cases calls with
  | nil => cases among
  | cons call calls =>
      rcases call with ⟨category, message⟩
      rw [makeEach_cons, List.tail_cons] at among
      exact details_of_mem_makeEach (Details.withoutPlace_withoutPlace entries) notEmpty among

/-- All reports agree exactly if the collection is converted to what it would be without a place. -/
theorem forall_agree_makeEach_iff (notEmpty : Details.withoutPlace entries ≠ []) :
    (∀ calls, Agree (makeEach reader entries calls)) ↔
      (Details.take reader entries).1 = (Details.take reader (Details.withoutPlace entries)).1 := by
  have someEntry : entries ≠ [] := by
    rintro rfl
    exact notEmpty rfl
  constructor
  · intro agree
    -- Two reports are enough to tell.
    rcases agree [(.extraction, ""), (.extraction, "")] with ⟨outcome, same⟩
    rw [makeEach_cons, makeEach_cons] at same
    have first := same _ List.mem_cons_self
    have second := same _ (List.mem_cons_of_mem _ List.mem_cons_self)
    rw [details_make _ _ someEntry] at first
    rw [details_make _ _ notEmpty] at second
    exact first.trans second.symm
  · intro equal calls
    refine ⟨(Details.take reader (Details.withoutPlace entries)).1, ?_⟩
    intro result among
    cases calls with
    | nil => cases among
    | cons call calls =>
        rcases call with ⟨category, message⟩
        rw [makeEach_cons, List.mem_cons] at among
        rcases among with rfl | later
        · rw [details_make _ _ someEntry, equal]
        · exact details_of_mem_makeEach (Details.withoutPlace_withoutPlace entries) notEmpty later

/-- A report that is given an open collection takes the source and the operation out of it, and
leaves everything else, in its order, whether there are flaws or not and however times are read. So
the collection stays as it was exactly if it has neither. Of the reports that are made from one
collection with a time, one after another, all but the first agree, in their details or in the
flaws. With the first one they agree exactly if it does not know the place either or, where the time
is flawed, if the place is not. -/
theorem make_leaves_entries_iff (reader : TimeReader) (entries : Fields) :
    (∀ category message, (make reader category message (.entries entries)).2 =
      (entries.erase "source").erase "operation") ∧
    (∀ category message, (make reader category message (.entries entries)).2 = entries ↔
      entries.get? "source" = none ∧ entries.get? "operation" = none) ∧
    ∀ time, entries.get? "timestamp" = some time →
      (∀ calls, Agree (makeEach reader entries calls).tail) ∧
      (∀ at?, Details.readTime reader (some time) = .ok at? →
        ((∀ calls, Agree (makeEach reader entries calls)) ↔
          Details.told entries "source" = .ok Details.unknown ∧
            Details.told entries "operation" = .ok Details.unknown)) ∧
      ∀ flaw, Details.readTime reader (some time) = .error flaw →
        ((∀ calls, Agree (makeEach reader entries calls)) ↔
          (∃ place, Details.told entries "source" = .ok place) ∧
            ∃ action, Details.told entries "operation" = .ok action) := by
  refine ⟨fun category message => snd_make reader category message entries, ?_, ?_⟩
  · intro category message
    rw [snd_make]
    exact Details.withoutPlace_eq_self_iff
  · intro time timed
    have timedWithout : (Details.withoutPlace entries).get? "timestamp" = some time := by
      rw [Details.get?_withoutPlace, timed]
      rfl
    have notEmpty : Details.withoutPlace entries ≠ [] := by
      intro isEmpty
      rw [isEmpty] at timedWithout
      cases timedWithout
    have noPlace (name : String) (isPlace : name = "source" ∨ name = "operation") :
        Details.told (Details.withoutPlace entries) name = .ok Details.unknown :=
      Details.told_of_get?_eq_none (by rw [Details.get?_withoutPlace, if_pos isPlace])
    have agree := @forall_agree_makeEach_iff reader _ notEmpty
    rw [Details.fst_take, Details.fst_take, timed, timedWithout, noPlace "source" (.inl rfl),
      noPlace "operation" (.inr rfl)] at agree
    refine ⟨fun calls => agree_tail_makeEach notEmpty, ?_, ?_⟩
    · intro at? isTime
      rw [agree, isTime, Details.ofRead_eq_ofRead_unknown_of_ok]
    · intro flaw isFlawed
      rw [agree, isFlawed, Details.ofRead_eq_ofRead_unknown_of_error]

/-- A collection with a time and without a place stays as it was. One with a source and a flawed
time does not, but all reports have the same flaw, although only the first of them has been told
the source. -/
theorem make_leaves_entries_of_two_times :
    let reader : TimeReader := Timestamp.ofDatum
    let timed : Fields := [("timestamp", .integer 0), ("line", .integer 7)]
    let flawed : Fields := [("timestamp", .null), ("line", .integer 7), ("source", .text "tests")]
    ((∀ category message, (make reader category message (.entries timed)).2 = timed) ∧
      ∀ calls, Agree (makeEach reader timed calls)) ∧
    ((∀ category message, (make reader category message (.entries flawed)).2 =
        [("timestamp", .null), ("line", .integer 7)]) ∧
      ∀ calls, Agree (makeEach reader flawed calls)) := by
  intro reader timed flawed
  rcases make_leaves_entries_iff reader timed with ⟨_, stays, ofTimed⟩
  rcases make_leaves_entries_iff reader flawed with ⟨leaves, _, ofFlawed⟩
  have isTime : ∃ at?, Details.readTime reader (some (.integer 0)) = .ok at? := ⟨_, rfl⟩
  rcases isTime with ⟨at?, isTime⟩
  constructor
  · constructor
    · intro category message
      exact (stays category message).mpr ⟨rfl, rfl⟩
    · exact ((ofTimed _ rfl).2.1 at? isTime).mpr ⟨rfl, rfl⟩
  · constructor
    · intro category message
      exact leaves category message
    · exact ((ofFlawed _ rfl).2.2 .notTimeKind rfl).mpr ⟨⟨"tests", rfl⟩, Details.unknown, rfl⟩

/-- A collection with different names and a time need not stay as it was, and two reports that are
made from it need not agree. -/
theorem exists_entries_not_left :
    ∃ (entries : Fields) (time : Datum), (entries.map Prod.fst).Nodup ∧
      entries.get? "timestamp" = some time ∧
      (∃ category message,
        (make Timestamp.ofDatum category message (.entries entries)).2 ≠ entries) ∧
      ∃ calls, ¬ Agree (makeEach Timestamp.ofDatum entries calls) := by
  refine ⟨[("source", .text "tests"), ("operation", .text "convert"), ("timestamp", .integer 0)],
    .integer 0, by decide, rfl, ⟨.argument, "bad", ?_⟩,
    [(.argument, "bad"), (.argument, "bad")], ?_⟩
  · intro same
    have shorter := congrArg List.length same
    contradiction
  · rintro ⟨outcome, same⟩
    have first := same _ List.mem_cons_self
    have second := same _ (List.mem_cons_of_mem _ List.mem_cons_self)
    have sources := congrArg (fun (o : Except Flaws Details) => o.toOption.map Details.source)
      (first.trans second.symm)
    exact absurd sources (by decide)

end Report

end CypherText
