/-!
# Named entries

Lists of names with something attached to each, in a fixed order. A name may occur more than
once in such a list; putting an entry changes the first one of its name, and adds one at the end
only where there is none.
-/

namespace CypherText

/-- Names with something attached, in a fixed order. -/
abbrev Entries (α : Type u) := List (String × α)

namespace Entries

variable {α : Type u} {β : Type v}

/-- What is attached to a name at its first place. -/
def get? (entries : Entries α) (name : String) : Option α :=
  entries.lookup name

/-- The entries with `value` attached to `name`: in its place if the name is there, and at the
end if not. -/
def put (entries : Entries α) (name : String) (value : α) : Entries α :=
  match entries with
  | [] => [(name, value)]
  | (other, old) :: rest =>
    if other = name then (name, value) :: rest else (other, old) :: put rest name value

/-- The entries without those of a name. -/
def erase (entries : Entries α) (name : String) : Entries α :=
  entries.filter fun entry => entry.1 != name

/-- The entries that result from putting the given ones one after another: a repeated name keeps
its first place and its last value. -/
def merged (entries : Entries α) : Entries α :=
  entries.foldl (fun done entry => done.put entry.1 entry.2) []

@[simp]
theorem get?_put_self (entries : Entries α) (name : String) (value : α) :
    (entries.put name value).get? name = some value := by
  induction entries with
  | nil => simp [put, get?]
  | cons entry rest inductionHypothesis =>
    obtain ⟨other, old⟩ := entry
    by_cases same : other = name
    · simp [put, get?, same]
    · have different : (name == other) = false := by simpa using fun equal => same equal.symm
      simpa [put, get?, same, List.lookup_cons, different] using inductionHypothesis

/-- Putting an entry changes what is attached to its name, and to no other one. -/
theorem get?_put (entries : Entries α) (name other : String) (value : α) :
    (entries.put name value).get? other =
      if other = name then some value else entries.get? other := by
  by_cases same : other = name
  · rw [if_pos same, same, get?_put_self]
  · rw [if_neg same]
    have different : (other == name) = false := beq_false_of_ne same
    induction entries with
    | nil => simp [put, get?, List.lookup_cons, different]
    | cons entry rest inductionHypothesis =>
      obtain ⟨first, old⟩ := entry
      by_cases found : first = name
      · simp [put, get?, found, List.lookup_cons, different]
      · cases isFirst : other == first with
        | true => simp [put, get?, found, List.lookup_cons, isFirst]
        | false => simpa [put, get?, found, List.lookup_cons, isFirst] using inductionHypothesis

/-- Changing what is attached to all names changes what is attached to each. -/
theorem get?_map (entries : Entries α) (change : α → β) (name : String) :
    get? (entries.map fun entry => (entry.1, change entry.2)) name =
      (entries.get? name).map change := by
  induction entries with
  | nil => rfl
  | cons entry rest inductionHypothesis =>
    obtain ⟨other, value⟩ := entry
    simp only [get?, List.map_cons, List.lookup_cons] at inductionHypothesis ⊢
    cases name == other with
    | true => rfl
    | false => exact inductionHypothesis

theorem get?_cons (first : String) (value : α) (rest : Entries α) (name : String) :
    get? ((first, value) :: rest) name = if name = first then some value else get? rest name := by
  by_cases same : name = first
  · simp [get?, same]
  · have different : (name == first) = false := beq_false_of_ne same
    simp [get?, List.lookup_cons, different, same]

/-- Where the names are different, exactly the entries can be looked up. -/
theorem get?_eq_some_iff {entries : Entries α} (distinct : (entries.map Prod.fst).Nodup)
    {name : String} {value : α} :
    entries.get? name = some value ↔ (name, value) ∈ entries := by
  induction entries with
  | nil => simp [get?]
  | cons entry rest inductionHypothesis =>
    obtain ⟨first, old⟩ := entry
    rw [List.map_cons, List.nodup_cons] at distinct
    rw [get?_cons, List.mem_cons, Prod.mk.injEq]
    by_cases isFirst : name = first
    · -- The name does not occur behind its first place.
      have notBehind : (name, value) ∉ rest := fun among =>
        distinct.1 (List.mem_map.mpr ⟨(name, value), among, isFirst⟩)
      simp [isFirst, isFirst ▸ notBehind, eq_comm]
    · rw [if_neg isFirst, inductionHypothesis distinct.2]
      simp [isFirst]

/-- Attaching to a name what it has already changes nothing. -/
theorem put_of_get?_eq_some {entries : Entries α} {name : String} {value : α}
    (has : entries.get? name = some value) : entries.put name value = entries := by
  induction entries with
  | nil => simp [get?] at has
  | cons entry rest inductionHypothesis =>
    obtain ⟨other, old⟩ := entry
    rw [get?_cons] at has
    by_cases same : name = other
    · rw [if_pos same, Option.some.injEq] at has
      rw [put, if_pos same.symm, same, has]
    · rw [if_neg same] at has
      rw [put, if_neg (Ne.symm same), inductionHypothesis has]

/-- Putting an entry leaves those of other names as they are, in their order. -/
theorem erase_put_self (entries : Entries α) (name : String) (value : α) :
    (entries.put name value).erase name = entries.erase name := by
  induction entries with
  | nil => simp [put, erase]
  | cons entry rest inductionHypothesis =>
    obtain ⟨other, old⟩ := entry
    by_cases same : other = name
    · simp [put, erase, same]
    · simpa [put, erase, same] using inductionHypothesis

theorem erase_erase_comm (entries : Entries α) (first second : String) :
    (entries.erase first).erase second = (entries.erase second).erase first := by
  simp only [erase, List.filter_filter, Bool.and_comm]

theorem erase_cons_self (name : String) (value : α) (rest : Entries α) :
    erase ((name, value) :: rest) name = rest.erase name := by
  simp [erase]

theorem erase_cons_of_ne {other name : String} (different : other ≠ name) (value : α)
    (rest : Entries α) :
    erase ((other, value) :: rest) name = (other, value) :: rest.erase name := by
  simp [erase, different]

/-- Nothing is attached to an erased name, and what is attached to others stays. -/
theorem get?_erase (entries : Entries α) (name other : String) :
    (entries.erase name).get? other = if other = name then none else entries.get? other := by
  induction entries with
  | nil => simp [erase, get?]
  | cons entry rest inductionHypothesis =>
    obtain ⟨first, value⟩ := entry
    by_cases erased : first = name
    · rw [erased, erase_cons_self, inductionHypothesis, get?_cons]
      by_cases same : other = name
      · rw [if_pos same, if_pos same]
      · rw [if_neg same, if_neg same, if_neg same]
    · rw [erase_cons_of_ne erased, get?_cons, get?_cons, inductionHypothesis]
      by_cases isFirst : other = first
      · rw [if_pos isFirst, if_pos isFirst, if_neg (isFirst ▸ erased)]
      · rw [if_neg isFirst, if_neg isFirst]

/-- Erasing a name changes nothing exactly if nothing is attached to it. -/
theorem erase_eq_self_iff {entries : Entries α} {name : String} :
    entries.erase name = entries ↔ entries.get? name = none := by
  rw [erase, List.filter_eq_self, get?, List.lookup_eq_none_iff]
  simp only [bne_iff_ne, ne_eq, eq_comm (a := name)]

end Entries

end CypherText
