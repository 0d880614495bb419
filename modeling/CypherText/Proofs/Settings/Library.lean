import CypherText.Settings.Library
import Mathlib.Data.List.Nodup

/-!
# What a settings library promises

`library.Fills cls` says what is documented about a library that fills a settings class: which entry
of each source is meant for a field, that an earlier source goes before a later one, what stands for
a value of each type, that the validators run on values of the declared types in the order of the
fields, that defaults are validated too, and that the flaws of all fields are collected. The usual
library keeps this promise for every class.
-/

namespace CypherText

namespace Flaws

variable {α : Type} {name : String} {checked : Except Flaw α}

theorem mem_ofField_iff {other : String} {flaw : Flaw} :
    (other, flaw) ∈ ofField name checked ↔ name = other ∧ checked = .error flaw := by
  cases checked with
  | ok value => simp [ofField]
  | error flaw => simp [ofField, eq_comm]

theorem names_ofField_sublist (name : String) (checked : Except Flaw α) :
    ((ofField name checked).map Prod.fst).Sublist [name] := by
  cases checked with
  | ok value => exact List.nil_sublist _
  | error flaw => exact List.Sublist.refl _

end Flaws

namespace SettingsSources

variable {α : Type}

/-- Whether an entry has the name, in whatever letter case, and the value. -/
def Gives (entries : Entries α) (name : String) (value : α) : Prop :=
  ∃ key, (key, value) ∈ entries ∧ key.toLower = name.toLower

/-- Whether the names of all entries differ in more than letter case. -/
def AreDistinct (entries : Entries α) : Prop :=
  (entries.map fun entry => entry.1.toLower).Nodup

end SettingsSources

/-- The data that stands for a truth value. -/
inductive Truth.StandsFor : Datum → Bool → Prop
  | flag (value : Bool) : StandsFor (.flag value) value
  /-- One is true, and zero is false. -/
  | integer (value : Bool) : StandsFor (.integer value.toNat) value
  | double {d : Double} {value : Bool} (isWhole : d.isWhole = true)
      (number : d.truncate? = some (value.toNat : Int)) : StandsFor (.double d) value
  | affirmative {word : String} (among : word.toLower ∈ affirmative) : StandsFor (.text word) true
  | negative {word : String} (among : word.toLower ∈ negative) : StandsFor (.text word) false

namespace SettingsLibrary

open SettingsSources (Gives AreDistinct)

/-- Whether a library fills a class as it is documented. -/
structure Fills (library : SettingsLibrary) (cls : SettingsClass) : Prop where
  /-- An argument belongs to the field of its name. -/
  get?_ofArguments : ∀ arguments, AreDistinct arguments → ∀ field datum,
    (library.ofArguments cls arguments).get? (cls.name field) = some datum ↔
      Gives arguments (cls.name field) datum
  /-- A variable belongs to the field whose name stands in its own behind the prefix. -/
  get?_ofEnvironment : ∀ environment, AreDistinct environment → ∀ field datum,
    (library.ofEnvironment cls environment).get? (cls.name field) = some datum ↔
      ∃ value, datum = .text value ∧ Gives environment (cls.variableName field) value
  /-- So does a binding of the settings file, unless the name is bound to nothing. -/
  get?_ofFile : cls.file?.isSome → ∀ file, AreDistinct file → ∀ field datum,
    (library.ofFile cls file).get? (cls.name field) = some datum ↔
      ∃ value, datum = .text value ∧ Gives file (cls.variableName field) (some value)
  /-- The first source that has data goes before all others, but records are merged. -/
  get?_merge : ∀ first others name,
    (∀ state ∈ others, ∀ fields, Entries.get? state name ≠ some (.record fields)) →
      (library.merge (first :: others)).get? name =
        (first :: others).findSome? fun state => Entries.get? state name
  /-- Nothing but a text is a text. -/
  convert_text : ∀ datum text, library.convert .text datum = .ok text ↔ datum = .text text
  convert_truth : ∀ datum value,
    library.convert .truth datum = .ok value ↔ Truth.StandsFor datum value
  /-- There is an instance exactly if all fields are accepted, each in its turn. -/
  validate_eq_ok_iff : cls.ignoresOthers = true → ∀ data made,
    library.validate cls data = .ok made ↔
      ∀ field, cls.outcome library.convert data field = .ok (made field)
  /-- Otherwise the flaws of all fields that are not accepted are told together. -/
  of_validate_eq_error : cls.ignoresOthers = true → ∀ data flaws,
    library.validate cls data = .error flaws → (flaws.map Prod.fst).Nodup ∧
      ∀ name flaw, (name, flaw) ∈ flaws ↔
        ∃ field, cls.name field = name ∧ cls.outcome library.convert data field = .error flaw

end SettingsLibrary

/-! ## Truth values -/

namespace Truth

theorem ofWhole_eq_ok_iff {n : Int} {value : Bool} : ofWhole n = .ok value ↔ n = value.toNat := by
  unfold ofWhole
  cases value <;> grind

theorem ofDouble_eq_ok_iff {d : Double} {value : Bool} :
    ofDouble d = .ok value ↔ d.isWhole = true ∧ d.truncate? = some (value.toNat : Int) := by
  unfold ofDouble
  cases d.truncate? with
  | none => simp
  | some n =>
      simp only [Option.some.injEq]
      by_cases considered : d.isWhole = true ∧ n ≠ -(Nat.pow 2 63)
      · rw [if_pos considered, ofWhole_eq_ok_iff, and_iff_right considered.1]
      · -- The number that is not considered is neither one nor zero.
        rw [if_neg considered]
        constructor
        · intro read
          contradiction
        · rintro ⟨isWhole, number⟩
          have isPositive : 0 < Nat.pow 2 63 := Nat.two_pow_pos 63
          exact absurd ⟨isWhole, by omega⟩ considered

theorem not_mem_affirmative {word : String} (among : word ∈ negative) : word ∉ affirmative := by
  revert word
  decide

theorem ofWord_eq_ok_iff {word : String} {value : Bool} :
    ofWord word = .ok value ↔ word.toLower ∈ if value then affirmative else negative := by
  simp only [ofWord, List.contains_iff_mem]
  by_cases isTrue : word.toLower ∈ affirmative
  · have notFalse : word.toLower ∉ negative := fun isFalse => not_mem_affirmative isFalse isTrue
    cases value <;> simp [isTrue, notFalse]
  · by_cases isFalse : word.toLower ∈ negative
    · cases value <;> simp [isTrue, isFalse]
    · cases value <;> simp [isTrue, isFalse]

/-- A truth value is read from the data that stands for it, and from no other. -/
theorem ofDatum_eq_ok_iff {datum : Datum} {value : Bool} :
    ofDatum datum = .ok value ↔ StandsFor datum value := by
  constructor
  · intro isRead
    cases datum with
    | flag flag =>
        cases isRead
        exact .flag _
    | integer n =>
        rw [ofWhole_eq_ok_iff.mp isRead]
        exact .integer value
    | double d =>
        rcases ofDouble_eq_ok_iff.mp isRead with ⟨isWhole, number⟩
        exact .double isWhole number
    | text word =>
        have among := ofWord_eq_ok_iff.mp isRead
        cases value with
        | true => exact .affirmative among
        | false => exact .negative among
    | _ => cases isRead
  · intro stands
    cases stands with
    | flag => rfl
    | integer => exact ofWhole_eq_ok_iff.mpr rfl
    | double isWhole number => exact ofDouble_eq_ok_iff.mpr ⟨isWhole, number⟩
    | affirmative among => exact ofWord_eq_ok_iff.mpr among
    | negative among => exact ofWord_eq_ok_iff.mpr among

end Truth

/-! ## The usual library -/

theorem readText_eq_ok_iff {datum : Datum} {text : String} :
    readText datum = .ok text ↔ datum = .text text := by
  cases datum <;> simp [readText]

namespace SettingsClass

variable {cls : SettingsClass} {convert : Conversion} {data : Fields}

theorem name_injective (cls : SettingsClass) : Function.Injective cls.name := by
  intro field other same
  exact List.inj_on_of_nodup_map cls.nodup_names (cls.mem_fields field) (cls.mem_fields other) same

theorem mem_flaws_iff {name : String} {flaw : Flaw} :
    (name, flaw) ∈ cls.flaws convert data ↔
      ∃ field, cls.name field = name ∧ cls.outcome convert data field = .error flaw := by
  simp only [flaws, List.mem_flatMap, Flaws.mem_ofField_iff, cls.mem_fields, true_and]

/-- The flaws of some fields have names of these fields, each at most once. -/
theorem nodup_flaws (cls : SettingsClass) (convert : Conversion) (data : Fields) :
    ((cls.flaws convert data).map Prod.fst).Nodup := by
  have among (fields : List cls.Field) : List.Sublist
      ((fields.flatMap fun field =>
        Flaws.ofField (cls.name field) (cls.outcome convert data field)).map Prod.fst)
      (fields.map cls.name) := by
    induction fields with
    | nil => exact List.nil_sublist _
    | cons field fields ih =>
        rw [List.flatMap_cons, List.map_append]
        exact (Flaws.names_ofField_sublist ..).append ih
  exact (among cls.fields).nodup cls.nodup_names

theorem isEmpty_flaws_iff :
    (cls.flaws convert data).isEmpty = true ↔
      ∀ field, ∃ value, cls.outcome convert data field = .ok value := by
  rw [List.isEmpty_iff]
  constructor
  · intro none field
    cases outcome : cls.outcome convert data field with
    | ok value => exact ⟨value, rfl⟩
    | error flaw =>
        have among : (cls.name field, flaw) ∈ cls.flaws convert data :=
          mem_flaws_iff.mpr ⟨field, rfl, outcome⟩
        rw [none] at among
        contradiction
  · intro all
    rw [List.eq_nil_iff_forall_not_mem]
    rintro ⟨name, flaw⟩ among
    rcases mem_flaws_iff.mp among with ⟨field, _, flawed⟩
    rcases all field with ⟨value, accepted⟩
    rw [accepted] at flawed
    contradiction

theorem instanceOf_eq_ok_iff {made : cls.Instance} :
    cls.instanceOf convert data = .ok made ↔
      ∀ field, cls.outcome convert data field = .ok (made field) := by
  rw [instanceOf]
  constructor
  · intro isMade field
    split at isMade
    · next all =>
        rcases isEmpty_flaws_iff.mp all field with ⟨value, accepted⟩
        cases isMade
        simp [accepted, Except.toOption]
    · contradiction
  · intro accepted
    rw [if_pos (isEmpty_flaws_iff.mpr fun field => ⟨_, accepted field⟩)]
    refine congrArg Except.ok (funext fun field => ?_)
    rw [accepted field]
    rfl

theorem of_instanceOf_eq_error {flaws : Flaws}
    (failed : cls.instanceOf convert data = .error flaws) :
    flaws.Perm (cls.flaws convert data) := by
  rw [instanceOf] at failed
  split at failed
  · contradiction
  · cases failed
    exact List.mergeSort_perm ..

end SettingsClass

namespace SettingsLibrary

open SettingsSources (Gives AreDistinct)

variable {α : Type} {cls : SettingsClass}

theorem lookup?_eq_some_iff {entries : Entries α} (distinct : AreDistinct entries) {name : String}
    {value : α} : lookup? entries name = some value ↔ Gives entries name value := by
  rw [lookup?, Option.map_eq_some_iff]
  constructor
  · rintro ⟨⟨key, _⟩, found, rfl⟩
    have among := List.mem_reverse.mp (List.mem_of_find?_eq_some found)
    exact ⟨key, among, by simpa using List.find?_some found⟩
  · rintro ⟨key, among, same⟩
    cases found : entries.reverse.find? fun entry => entry.1.toLower == name.toLower with
    | none =>
        rw [List.find?_eq_none] at found
        exact absurd (beq_iff_eq.mpr same) (found _ (List.mem_reverse.mpr among))
    | some other =>
        have amongToo := List.mem_reverse.mp (List.mem_of_find?_eq_some found)
        have sameToo : other.1.toLower = name.toLower := by simpa using List.find?_some found
        have isOther := List.inj_on_of_nodup_map distinct amongToo among (sameToo.trans same.symm)
        exact ⟨other, rfl, congrArg Prod.snd isOther⟩

theorem get?_dataOf (cls : SettingsClass) (datum? : cls.Field → Option Datum) (field : cls.Field) :
    (dataOf cls datum?).get? (cls.name field) = datum? field := by
  have names : ((dataOf cls datum?).map Prod.fst).Nodup := by
    have among (fields : List cls.Field) : List.Sublist
        ((fields.filterMap fun field => (datum? field).map (cls.name field, ·)).map Prod.fst)
        (fields.map cls.name) := by
      induction fields with
      | nil => exact List.nil_sublist _
      | cons field fields ih =>
          cases given : datum? field with
          | none => simpa [given] using ih.cons _
          | some datum => simpa [given] using ih
    exact (among cls.fields).nodup cls.nodup_names
  ext datum
  rw [Entries.get?_eq_some_iff names, dataOf, List.mem_filterMap]
  constructor
  · rintro ⟨other, _, given⟩
    rcases Option.map_eq_some_iff.mp given with ⟨_, found, isEntry⟩
    rcases Prod.mk.inj isEntry with ⟨same, rfl⟩
    rwa [← cls.name_injective same]
  · intro given
    exact ⟨field, cls.mem_fields field, by rw [given]; rfl⟩

theorem get?_flatten (states : List Fields) (name : String) :
    Entries.get? states.flatten name = states.findSome? fun state => Entries.get? state name := by
  induction states with
  | nil => rfl
  | cons state states ih =>
      rw [List.flatten_cons, List.findSome?_cons, ← ih, Entries.get?, List.lookup_append]
      cases given : List.lookup name state <;> simp [Entries.get?, given]

/-- The usual library fills every class as it is documented. -/
theorem fills_usual (cls : SettingsClass) : usual.Fills cls where
  get?_ofArguments arguments distinct field datum := by
    rw [usual, get?_dataOf, lookup?_eq_some_iff distinct]
  get?_ofEnvironment environment distinct field datum := by
    simp only [usual, get?_dataOf, Option.map_eq_some_iff, lookup?_eq_some_iff distinct]
    exact exists_congr fun value => by rw [and_comm, eq_comm]
  get?_ofFile _ file distinct field datum := by
    simp only [usual, get?_dataOf, Option.map_eq_some_iff, Option.join_eq_some_iff,
      lookup?_eq_some_iff distinct]
    exact exists_congr fun value => by rw [and_comm, eq_comm]
  get?_merge first others name _ := get?_flatten (first :: others) name
  convert_text _ _ := readText_eq_ok_iff
  convert_truth _ _ := Truth.ofDatum_eq_ok_iff
  validate_eq_ok_iff _ _ _ := SettingsClass.instanceOf_eq_ok_iff
  of_validate_eq_error _ data flaws failed := by
    have perm := SettingsClass.of_instanceOf_eq_error failed
    constructor
    · exact (perm.map Prod.fst).nodup_iff.mpr (cls.nodup_flaws _ data)
    · intro name flaw
      rw [perm.mem_iff]
      exact SettingsClass.mem_flaws_iff

end SettingsLibrary

end CypherText
