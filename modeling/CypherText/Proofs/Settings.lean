import CypherText.Proofs.Settings.Library
import CypherText.Settings.File
import Mathlib.Logic.ExistsUnique

/-!
# What decides about a setting

A setting is decided about by an argument, else by a variable of the environment, else by a binding
of the settings file, else by its default. `Decides` says so by the names alone, in any letter case,
and `Accepts` lists the data that a setting can be read from. Whatever the library is that fills the
class of the settings, if it does so as it is documented, all that becomes of the sources follows
from the two, for each setting on its own: there are settings exactly if all four candidates that
decide are accepted, the flaws are those of the candidates that are not, and a candidate that does
not decide makes no difference.
-/

namespace CypherText

open Settings (declaration)

namespace Setting

variable {setting : Setting} {datum : Datum}

/-- The value that some settings have for one of them. -/
def valueIn (settings : Settings) : (setting : Setting) → setting.Value
  | lineSeparator => settings.lineSeparator
  | wherePlaceholder => settings.wherePlaceholder
  | logLevel => settings.logLevel
  | logColors => settings.logColors

/-- An instance of the class and the settings that it has determine each other. -/
theorem ofInstance_eq_iff {made : declaration.Instance} {settings : Settings} :
    Settings.ofInstance made = settings ↔ ∀ setting, made setting = valueIn settings setting := by
  constructor
  · rintro rfl setting
    cases setting <;> rfl
  · intro same
    simp only [Settings.ofInstance, same, valueIn]

/-- The name of the variable for a setting. -/
def variableName (setting : Setting) : String :=
  declaration.variableName setting

/-! ## Data that a setting can be read from -/

/-- The data that a setting accepts, each with the value that it stands for. -/
inductive Accepts : (setting : Setting) → Datum → setting.Value → Prop
  | lineSeparator {text : String} (notEmpty : text ≠ "") : Accepts .lineSeparator (.text text) text
  | wherePlaceholder (text : String) : Accepts .wherePlaceholder (.text text) text
  | logLevel (text : String) : Accepts .logLevel (.text text) (Uppercase.ofText text)
  | logColors {datum : Datum} {value : Bool} (stands : Truth.StandsFor datum value) :
      Accepts .logColors datum value

/-- What becomes of a setting, given the candidate that decides about it, if there is one. -/
inductive Takes (setting : Setting) : Option Datum → setting.Value → Prop
  | given {datum : Datum} {value : setting.Value} (accepts : setting.Accepts datum value) :
      Takes setting (some datum) value
  | standard : Takes setting none setting.default

/-- The text between clauses is not empty, be it given or the default. -/
theorem Takes.lineSeparator_ne_empty {found : Option Datum} {text : Value .lineSeparator}
    (takes : Takes .lineSeparator found text) : text ≠ "" := by
  cases takes with
  | given accepts =>
      cases accepts with
      | lineSeparator notEmpty => exact notEmpty
  | standard =>
      have notEmpty : ("\n" : String) ≠ "" := by decide
      exact notEmpty

theorem validate_lineSeparator_eq_ok_iff {text value : String} :
    validate .lineSeparator text = .ok value ↔ text ≠ "" ∧ text = value := by
  by_cases isEmpty : text = ""
  · simp [validate, nonempty, isEmpty]
  · simp only [validate, nonempty, isEmpty]
    exact ⟨fun same => ⟨isEmpty, Except.ok.inj same⟩, fun same => congrArg Except.ok same.2⟩

/-- Every default is accepted by the validator of its setting, which leaves it as it is. -/
theorem validate_default (setting : Setting) :
    setting.validate setting.default = .ok setting.default := by
  cases setting <;> rfl

/-- The data that a setting accepts is what is converted to its type and then passes its validator.
-/
theorem accepts_iff {library : SettingsLibrary} (fills : library.Fills declaration)
    {value : setting.Value} :
    setting.Accepts datum value ↔
      ∃ converted, library.convert setting.type datum = .ok converted ∧
        setting.validate converted = .ok value := by
  constructor
  · rintro (notEmpty | text | text | stands)
    · exact ⟨_, (fills.convert_text _ _).mpr rfl, if_neg notEmpty⟩
    · exact ⟨_, (fills.convert_text _ _).mpr rfl, rfl⟩
    · exact ⟨_, (fills.convert_text _ _).mpr rfl, rfl⟩
    · exact ⟨_, (fills.convert_truth _ _).mpr stands, rfl⟩
  · rintro ⟨converted, isConverted, passes⟩
    cases setting with
    | lineSeparator =>
        rcases (fills.convert_text _ _).mp isConverted with rfl
        rcases validate_lineSeparator_eq_ok_iff.mp passes with ⟨notEmpty, rfl⟩
        exact .lineSeparator notEmpty
    | wherePlaceholder =>
        rcases (fills.convert_text _ _).mp isConverted with rfl
        cases passes
        exact .wherePlaceholder _
    | logLevel =>
        rcases (fills.convert_text _ _).mp isConverted with rfl
        cases passes
        exact .logLevel _
    | logColors =>
        cases passes
        exact .logColors ((fills.convert_truth _ _).mp isConverted)

/-- Checks a setting, given the candidate that decides about it, if there is one. -/
def check (convert : Conversion) (setting : Setting) : Option Datum → Except Flaw setting.Value
  | some datum => convert setting.type datum >>= setting.validate
  | none => setting.validate setting.default

theorem check_eq_ok_iff {library : SettingsLibrary} (fills : library.Fills declaration)
    {found : Option Datum} {value : setting.Value} :
    setting.check library.convert found = .ok value ↔ setting.Takes found value := by
  cases found with
  | none =>
      rw [check, validate_default]
      constructor
      · rintro ⟨⟩
        exact .standard
      · rintro ⟨⟩
        rfl
  | some datum =>
      rw [check, Except.bind_eq_ok_iff, ← accepts_iff fills]
      constructor
      · exact .given
      · rintro ⟨accepts⟩
        exact accepts

end Setting

/-! ## The candidate that decides -/

namespace SettingsSources

variable {α : Type} {sources other : SettingsSources} {setting : Setting} {found : Option Datum}
  {library : SettingsLibrary}

instance (entries : Entries α) : Decidable (AreDistinct entries) :=
  inferInstanceAs (Decidable (List.Nodup _))

/-- Whether in each source all names differ in more than letter case. -/
structure HasDistinctNames (sources : SettingsSources) : Prop where
  arguments : AreDistinct sources.arguments
  environment : AreDistinct sources.environment
  file : AreDistinct sources.file

/-- The candidate that decides about a setting, if there is one: its argument, else its variable,
else its binding. A name that is bound to nothing is no candidate. -/
inductive Decides (sources : SettingsSources) (setting : Setting) : Option Datum → Prop
  | argument {datum : Datum} (given : Gives sources.arguments setting.name datum) :
      Decides sources setting (some datum)
  | environment {value : String}
      (noArgument : ∀ datum, ¬ Gives sources.arguments setting.name datum)
      (given : Gives sources.environment setting.variableName value) :
      Decides sources setting (some (.text value))
  | file {value : String}
      (noArgument : ∀ datum, ¬ Gives sources.arguments setting.name datum)
      (noVariable : ∀ value, ¬ Gives sources.environment setting.variableName value)
      (given : Gives sources.file setting.variableName (some value)) :
      Decides sources setting (some (.text value))
  | nothing
      (noArgument : ∀ datum, ¬ Gives sources.arguments setting.name datum)
      (noVariable : ∀ value, ¬ Gives sources.environment setting.variableName value)
      (noValue : ∀ value, ¬ Gives sources.file setting.variableName (some value)) :
      Decides sources setting none

/-- The library gathers the argument of a setting, else its variable, else its binding. -/
theorem get?_gather (fills : library.Fills declaration) (distinct : sources.HasDistinctNames)
    (setting : Setting) :
    (library.gather declaration sources).get? setting.name =
      ((library.ofArguments declaration sources.arguments).get? setting.name).or
        (((library.ofEnvironment declaration sources.environment).get? setting.name).or
          ((library.ofFile declaration sources.file).get? setting.name)) := by
  have noRecord : ∀ state ∈ [library.ofEnvironment declaration sources.environment,
      library.ofFile declaration sources.file],
      ∀ fields, Entries.get? state setting.name ≠ some (.record fields) := by
    intro state among fields isRecord
    simp only [List.mem_cons, List.not_mem_nil, or_false] at among
    rcases among with rfl | rfl
    · rcases (fills.get?_ofEnvironment _ distinct.environment setting _).mp isRecord with
        ⟨_, isText, _⟩
      contradiction
    · rcases (fills.get?_ofFile rfl _ distinct.file setting _).mp isRecord with ⟨_, isText, _⟩
      contradiction
  rw [SettingsLibrary.gather, fills.get?_merge _ _ _ noRecord]
  simp only [List.findSome?_cons, List.findSome?_nil]
  cases Entries.get? (library.ofArguments declaration sources.arguments) setting.name with
  | some datum => rfl
  | none =>
      cases Entries.get? (library.ofEnvironment declaration sources.environment) setting.name with
      | some datum => rfl
      | none =>
          cases Entries.get? (library.ofFile declaration sources.file) setting.name with
          | some datum => rfl
          | none => rfl

/-- The data that is gathered for a setting is the candidate that decides. -/
theorem decides_gather (fills : library.Fills declaration) (distinct : sources.HasDistinctNames)
    (setting : Setting) :
    sources.Decides setting ((library.gather declaration sources).get? setting.name) := by
  have ofArguments (datum : Datum) :
      (library.ofArguments declaration sources.arguments).get? setting.name = some datum ↔
        Gives sources.arguments setting.name datum :=
    fills.get?_ofArguments _ distinct.arguments setting datum
  have ofEnvironment (datum : Datum) :
      (library.ofEnvironment declaration sources.environment).get? setting.name = some datum ↔
        ∃ value, datum = .text value ∧ Gives sources.environment setting.variableName value :=
    fills.get?_ofEnvironment _ distinct.environment setting datum
  have ofFile (datum : Datum) :
      (library.ofFile declaration sources.file).get? setting.name = some datum ↔
        ∃ value, datum = .text value ∧ Gives sources.file setting.variableName (some value) :=
    fills.get?_ofFile rfl _ distinct.file setting datum
  rw [get?_gather fills distinct]
  cases argument : (library.ofArguments declaration sources.arguments).get? setting.name with
  | some datum => exact .argument ((ofArguments datum).mp argument)
  | none =>
      have noArgument (datum : Datum) : ¬ Gives sources.arguments setting.name datum := by
        intro given
        rw [(ofArguments datum).mpr given] at argument
        contradiction
      cases inEnvironment :
        (library.ofEnvironment declaration sources.environment).get? setting.name with
      | some datum =>
          rcases (ofEnvironment datum).mp inEnvironment with ⟨value, rfl, given⟩
          exact .environment noArgument given
      | none =>
          have noVariable (value : String) :
              ¬ Gives sources.environment setting.variableName value := by
            intro given
            rw [(ofEnvironment _).mpr ⟨value, rfl, given⟩] at inEnvironment
            contradiction
          cases binding : (library.ofFile declaration sources.file).get? setting.name with
          | some datum =>
              rcases (ofFile datum).mp binding with ⟨value, rfl, given⟩
              exact .file noArgument noVariable given
          | none =>
              refine .nothing noArgument noVariable ?_
              intro value given
              rw [(ofFile _).mpr ⟨value, rfl, given⟩] at binding
              contradiction

/-- A name has one value at most. -/
theorem Gives.unique {entries : Entries α} (distinct : AreDistinct entries) {name : String}
    {value another : α} (gives : Gives entries name value) (also : Gives entries name another) :
    value = another := by
  rcases gives with ⟨key, among, same⟩
  rcases also with ⟨key', amongToo, sameToo⟩
  exact congrArg Prod.snd
    (List.inj_on_of_nodup_map distinct among amongToo (same.trans sameToo.symm))

theorem not_gives {entries : Entries α} {name : String}
    (absent : ∀ entry ∈ entries, entry.1.toLower ≠ name.toLower) (value : α) :
    ¬ Gives entries name value := by
  rintro ⟨key, among, same⟩
  exact absent _ among same

/-- One candidate decides at most. -/
theorem Decides.unique (distinct : sources.HasDistinctNames) {another : Option Datum}
    (decides : sources.Decides setting found) (also : sources.Decides setting another) :
    found = another := by
  cases decides with
  | argument given =>
      cases also with
      | argument givenToo => rw [given.unique distinct.arguments givenToo]
      | environment noArgument | file noArgument | nothing noArgument =>
          exact absurd given (noArgument _)
  | environment noArgument given =>
      cases also with
      | argument givenToo => exact absurd givenToo (noArgument _)
      | environment _ givenToo => rw [given.unique distinct.environment givenToo]
      | file _ noVariable | nothing _ noVariable => exact absurd given (noVariable _)
  | file noArgument noVariable given =>
      cases also with
      | argument givenToo => exact absurd givenToo (noArgument _)
      | environment _ givenToo => exact absurd givenToo (noVariable _)
      | file _ _ givenToo => rw [Option.some.inj (given.unique distinct.file givenToo)]
      | nothing _ _ noValue => exact absurd given (noValue _)
  | nothing noArgument noVariable noValue =>
      cases also with
      | argument givenToo => exact absurd givenToo (noArgument _)
      | environment _ givenToo => exact absurd givenToo (noVariable _)
      | file _ _ givenToo => exact absurd givenToo (noValue _)
      | nothing => rfl

theorem decides_iff (fills : library.Fills declaration) (distinct : sources.HasDistinctNames) :
    sources.Decides setting found ↔
      (library.gather declaration sources).get? setting.name = found := by
  constructor
  · intro decides
    exact (decides_gather fills distinct setting).unique distinct decides
  · rintro rfl
    exact decides_gather fills distinct setting

/-! ## What becomes of the sources -/

/-- Whether a setting comes to have a value: the candidate that decides about it stands for this
value, or there is none and it is the default. -/
def Resolves (sources : SettingsSources) (setting : Setting) (value : setting.Value) : Prop :=
  ∃ found, sources.Decides setting found ∧ setting.Takes found value

/-- What becomes of a setting. No validator looks at another setting, so what was accepted before
does not matter. -/
def outcome (library : SettingsLibrary) (sources : SettingsSources) (setting : Setting) :
    Except Flaw setting.Value :=
  setting.check library.convert ((library.gather declaration sources).get? setting.name)

theorem outcome_declaration (library : SettingsLibrary) (sources : SettingsSources)
    (setting : Setting) :
    declaration.outcome library.convert (library.gather declaration sources) setting =
      outcome library sources setting := by
  rw [outcome]
  change declaration.check library.convert setting _
    ((library.gather declaration sources).get? setting.name) = _
  cases (library.gather declaration sources).get? setting.name with
  | none => rfl
  | some datum => rfl

theorem outcome_eq_ok_iff (fills : library.Fills declaration)
    (distinct : sources.HasDistinctNames) {value : setting.Value} :
    outcome library sources setting = .ok value ↔ sources.Resolves setting value := by
  simp only [Resolves, decides_iff fills distinct, exists_eq_left', outcome,
    Setting.check_eq_ok_iff fills]

/-- A setting is flawed exactly if it comes to have no value. -/
theorem exists_outcome_eq_error_iff (fills : library.Fills declaration)
    (distinct : sources.HasDistinctNames) :
    (∃ flaw, outcome library sources setting = .error flaw) ↔
      ¬ ∃ value, sources.Resolves setting value := by
  simp only [← outcome_eq_ok_iff fills distinct]
  cases outcome library sources setting <;> simp

theorem outcome_congr (fills : library.Fills declaration) (distinct : sources.HasDistinctNames)
    (otherDistinct : other.HasDistinctNames)
    (same : ∀ found, sources.Decides setting found ↔ other.Decides setting found) :
    outcome library sources setting = outcome library other setting := by
  have decides := (same _).mp (decides_gather fills distinct setting)
  rw [outcome, outcome, (decides_iff fills otherDistinct).mp decides]

/-! ## Candidates that are overridden -/

/-- Whether there is an argument for the setting that a variable or a binding is meant for. -/
def hasArgument (sources : SettingsSources) (name : String) : Bool :=
  sources.arguments.any fun entry =>
    (declaration.variablePrefix ++ entry.1).toLower == name.toLower

/-- Whether there is a variable of the name. -/
def hasVariable (sources : SettingsSources) (name : String) : Bool :=
  sources.environment.any fun entry => entry.1.toLower == name.toLower

/-- The sources without the variables and bindings that are overridden. -/
def withoutOverridden (sources : SettingsSources) : SettingsSources where
  arguments := sources.arguments
  environment := sources.environment.filter fun entry => !sources.hasArgument entry.1
  file := sources.file.filter fun entry =>
    !sources.hasArgument entry.1 && !sources.hasVariable entry.1

theorem HasDistinctNames.withoutOverridden (distinct : sources.HasDistinctNames) :
    sources.withoutOverridden.HasDistinctNames where
  arguments := distinct.arguments
  environment := distinct.environment.sublist (List.filter_sublist.map _)
  file := distinct.file.sublist (List.filter_sublist.map _)

theorem toLower_append (first second : String) :
    (first ++ second).toLower = first.toLower ++ second.toLower := by
  change (first ++ second).map Char.toLower = first.map Char.toLower ++ second.map Char.toLower
  simp [← String.toList_inj]

theorem hasArgument_eq_false (noArgument : ∀ datum, ¬ Gives sources.arguments setting.name datum)
    {name : String} (same : name.toLower = setting.variableName.toLower) :
    sources.hasArgument name = false := by
  rw [hasArgument, List.any_eq_false]
  rintro ⟨key, datum⟩ among isSame
  have joined : setting.variableName = declaration.variablePrefix ++ setting.name := rfl
  rw [beq_iff_eq, same, joined, toLower_append, toLower_append, String.append_right_inj] at isSame
  exact noArgument datum ⟨key, among, isSame⟩

theorem hasVariable_eq_false
    (noVariable : ∀ value, ¬ Gives sources.environment setting.variableName value) {name : String}
    (same : name.toLower = setting.variableName.toLower) : sources.hasVariable name = false := by
  rw [hasVariable, List.any_eq_false]
  rintro ⟨key, value⟩ among isSame
  exact noVariable value ⟨key, among, (beq_iff_eq.mp isSame).trans same⟩

/-- Entries of other names may be left out. -/
theorem Gives.filter {entries : Entries α} {name : String} {value : α}
    (gives : Gives entries name value) {keeps : String × α → Bool}
    (keepsAll : ∀ key, key.toLower = name.toLower → keeps (key, value) = true) :
    Gives (entries.filter keeps) name value := by
  rcases gives with ⟨key, among, same⟩
  exact ⟨key, List.mem_filter.mpr ⟨among, keepsAll key same⟩, same⟩

theorem Gives.of_filter {entries : Entries α} {name : String} {value : α}
    {keeps : String × α → Bool} (gives : Gives (entries.filter keeps) name value) :
    Gives entries name value := by
  rcases gives with ⟨key, among, same⟩
  exact ⟨key, List.mem_of_mem_filter among, same⟩

theorem Decides.withoutOverridden (decides : sources.Decides setting found) :
    sources.withoutOverridden.Decides setting found := by
  cases decides with
  | argument given => exact .argument given
  | environment noArgument given =>
      refine .environment noArgument (given.filter fun key same => ?_)
      simp [hasArgument_eq_false noArgument same]
  | file noArgument noVariable given =>
      refine .file noArgument (fun value gives => noVariable value gives.of_filter)
        (given.filter fun key same => ?_)
      simp [hasArgument_eq_false noArgument same, hasVariable_eq_false noVariable same]
  | nothing noArgument noVariable noValue =>
      exact .nothing noArgument (fun value gives => noVariable value gives.of_filter)
        (fun value gives => noValue value gives.of_filter)

/-- What decides is not overridden, so it also decides where nothing is. -/
theorem decides_withoutOverridden_iff (fills : library.Fills declaration)
    (distinct : sources.HasDistinctNames) :
    sources.withoutOverridden.Decides setting found ↔ sources.Decides setting found := by
  have decides := decides_gather fills distinct setting
  constructor
  · intro also
    rwa [← decides.withoutOverridden.unique distinct.withoutOverridden also]
  · exact Decides.withoutOverridden

end SettingsSources

open SettingsSources

namespace Settings

variable {library : SettingsLibrary} {sources other : SettingsSources} {settings : Settings}
  {flaws : Flaws}

/-- There are settings exactly if all four can be read. -/
theorem make_eq_ok_iff (fills : library.Fills declaration) :
    make library sources = .ok settings ↔
      ∀ setting : Setting, outcome library sources setting = .ok (setting.valueIn settings) := by
  have validated (made : declaration.Instance) : library.construct declaration sources = .ok made ↔
      ∀ setting, outcome library sources setting = .ok (made setting) := by
    rw [SettingsLibrary.construct, fills.validate_eq_ok_iff rfl]
    simp only [outcome_declaration]
  constructor
  · intro isMade
    cases constructed : library.construct declaration sources with
    | error flaws =>
        rw [make, constructed] at isMade
        contradiction
    | ok made =>
        rw [make, constructed] at isMade
        intro setting
        rw [← Setting.ofInstance_eq_iff.mp (Except.ok.inj isMade) setting]
        exact (validated made).mp constructed setting
  · intro all
    rw [make, (validated fun setting => setting.valueIn settings).mpr all]
    exact congrArg Except.ok (Setting.ofInstance_eq_iff.mpr fun _ => rfl)

/-- Where there are no settings, the flaws are those of all that cannot be read. -/
theorem of_make_eq_error (fills : library.Fills declaration)
    (failed : make library sources = .error flaws) :
    (flaws.map Prod.fst).Nodup ∧ ∀ name flaw, (name, flaw) ∈ flaws ↔
      ∃ setting : Setting, setting.name = name ∧ outcome library sources setting = .error flaw := by
  cases constructed : library.construct declaration sources with
  | ok made =>
      rw [make, constructed] at failed
      contradiction
  | error others =>
      rw [make, constructed] at failed
      cases failed
      rcases fills.of_validate_eq_error rfl _ _ constructed with ⟨distinct, members⟩
      refine ⟨distinct, ?_⟩
      intro name flaw
      simp only [members, outcome_declaration]

/-- There are settings exactly if none is flawed. -/
theorem exists_make_eq_ok_iff (fills : library.Fills declaration) :
    (∃ settings, make library sources = .ok settings) ↔
      ∀ setting, ∃ value, outcome library sources setting = .ok value := by
  constructor
  · rintro ⟨settings, made⟩ setting
    exact ⟨_, (make_eq_ok_iff fills).mp made setting⟩
  · intro all
    choose made accepted using all
    refine ⟨ofInstance made, (make_eq_ok_iff fills).mpr ?_⟩
    intro setting
    rw [accepted]
    exact congrArg Except.ok (Setting.ofInstance_eq_iff.mp rfl setting)

/-- Where there are no settings, those are named that come to have no value. -/
theorem mem_names_iff_of_make_eq_error (fills : library.Fills declaration)
    (distinct : sources.HasDistinctNames) (failed : make library sources = .error flaws)
    {name : String} :
    name ∈ flaws.map Prod.fst ↔
      ∃ setting : Setting, setting.name = name ∧ ¬ ∃ value, sources.Resolves setting value := by
  have members := (of_make_eq_error fills failed).2
  simp only [← exists_outcome_eq_error_iff fills distinct]
  constructor
  · intro isNamed
    rcases List.mem_map.mp isNamed with ⟨⟨_, flaw⟩, among, rfl⟩
    rcases (members _ flaw).mp among with ⟨setting, same, isFlawed⟩
    exact ⟨setting, same, flaw, isFlawed⟩
  · rintro ⟨setting, rfl, flaw, isFlawed⟩
    exact List.mem_map.mpr ⟨_, (members _ flaw).mpr ⟨setting, rfl, isFlawed⟩, rfl⟩

/-- The text between clauses is never empty. -/
theorem lineSeparator_ne_empty (fills : library.Fills declaration)
    (made : make library sources = .ok settings) : settings.lineSeparator ≠ "" := by
  have accepted := (make_eq_ok_iff fills).mp made .lineSeparator
  exact ((Setting.check_eq_ok_iff fills).mp accepted).lineSeparator_ne_empty

end Settings

namespace Setting

/-- The flaw that a setting is reported with, if it is reported. -/
def flawIn? (setting : Setting) (made : Except Flaws Settings) : Option Flaw :=
  match made with
  | .ok _ => none
  | .error flaws => Entries.get? flaws setting.name

/-- A setting is reported exactly with the flaw that it has itself. -/
theorem flawIn?_make_eq_some_iff {library : SettingsLibrary} (fills : library.Fills declaration)
    {sources : SettingsSources} {setting : Setting} {flaw : Flaw} :
    setting.flawIn? (Settings.make library sources) = some flaw ↔
      outcome library sources setting = .error flaw := by
  cases made : Settings.make library sources with
  | ok settings =>
      rw [flawIn?, (Settings.make_eq_ok_iff fills).mp made setting]
      simp
  | error flaws =>
      rcases Settings.of_make_eq_error fills made with ⟨distinct, members⟩
      rw [flawIn?, Entries.get?_eq_some_iff distinct, members]
      constructor
      · rintro ⟨another, same, isFlawed⟩
        rwa [declaration.name_injective same] at isFlawed
      · intro isFlawed
        exact ⟨setting, rfl, isFlawed⟩

/-- What becomes of a setting is the same from sources in which the same candidate decides about it.
-/
theorem same_of_decides_iff {library : SettingsLibrary} (fills : library.Fills declaration)
    {sources other : SettingsSources} (distinct : sources.HasDistinctNames)
    (otherDistinct : other.HasDistinctNames) {setting : Setting}
    (same : ∀ found, sources.Decides setting found ↔ other.Decides setting found) :
    setting.flawIn? (Settings.make library sources) =
        setting.flawIn? (Settings.make library other) ∧
      ∀ settings others, Settings.make library sources = .ok settings →
        Settings.make library other = .ok others →
        setting.valueIn settings = setting.valueIn others := by
  have outcomes := @outcome_congr _ _ setting library fills distinct otherDistinct same
  constructor
  · ext flaw
    rw [flawIn?_make_eq_some_iff fills, flawIn?_make_eq_some_iff fills, outcomes]
  · intro settings others made madeToo
    have read := (Settings.make_eq_ok_iff fills).mp made setting
    rw [outcomes, (Settings.make_eq_ok_iff fills).mp madeToo setting] at read
    exact (Except.ok.inj read).symm

end Setting

namespace Settings

variable {library : SettingsLibrary}

/-- Sources in which a word is overridden that is no truth value. -/
def overriddenWord : SettingsSources where
  arguments := [("log_colors", .flag false)]
  environment := [("CYPHER_BUILDER_LOG_COLORS", "maybe"), ("Cypher_Builder_Log_Level", "debug")]
  file := SettingsFile.entries [] "cypher_builder_line_separator=\x27;\x27"

theorem file_overriddenWord :
    overriddenWord.file = [("cypher_builder_line_separator", some ";")] := by
  decide +kernel

theorem hasDistinctNames_overriddenWord : overriddenWord.HasDistinctNames where
  arguments := by decide +kernel
  environment := by decide +kernel
  file := by decide +kernel

end Settings

end CypherText
