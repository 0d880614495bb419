import CypherText.Proofs.Label
import Mathlib.Data.List.Induction

/-!
# What the standard extractor reads

An entity has fields if it is a model, a record, a tuple whose elements have names, or another
instance with attributes that is no mapping, text or byte string. The standard extractor reads the
public ones of these fields in their order, and the name of the class or the label that stands for
it. So nothing but these two decides what clauses an entity gives; of which kind it is does not
matter. A tuple with more or fewer names than elements is refused by itself, and what has no fields
is reported with the path of its type, unless it has something in place of fields that cannot be
read: attributes without values, names that are no texts, or names that cannot even be counted.
-/

namespace CypherText

namespace Logged

/-- Only what logs a fault fails by it. -/
theorem ofExcept_ne_raise {α : Type} (result : Except Failure α) (fault : Fault) :
    ofExcept result ≠ raise fault := by
  intro equal
  exact absurd (congrArg events equal) (List.cons_ne_nil _ _).symm

end Logged

namespace Entries

variable {α : Type}

/-- What a name was given last. -/
def last? (entries : Entries α) (name : String) : Option α :=
  (entries.filter fun entry => entry.1 = name).getLast?.map Prod.snd

/-- A repeated name keeps its last value. -/
theorem get?_merged (entries : Entries α) (name : String) :
    entries.merged.get? name = entries.last? name := by
  induction entries using List.reverseRecOn with
  | nil => rfl
  | append_singleton entries entry ih =>
      have last : merged (entries ++ [entry]) = (merged entries).put entry.1 entry.2 := by
        simp [merged, List.foldl_append]
      rw [last, get?_put, ih]
      by_cases same : name = entry.1
      · simp [last?, same]
      · have different : ¬ entry.1 = name := fun equal => same equal.symm
        simp [last?, same, different]

end Entries

namespace EntityClass

/-- The name that the instances of a class have in a query is the label, if it is text, and the
name of the class otherwise. -/
theorem text_typeName (cls : EntityClass) :
    cls.typeName.text = (cls.label.bind Value.text?).getD cls.type.name := by
  obtain ⟨type, label⟩ := cls
  cases label with
  | none => rfl
  | some label =>
      cases isText : label.text? with
      | none => simp [typeName, Value.name?, isText]
      | some chars =>
          simp [typeName, Value.name?_of_text? isText, isText]

end EntityClass

namespace Value

/-- Whether a value is an instance of a type that can have attributes of its own: one that is made
for it, and that does not make it a text, an immutable byte string or a mapping. -/
inductive IsInstance : Value → Prop
  | foreign (type : TypeRef) (shown : String) : IsInstance (foreign type shown)
  | derived {type : TypeRef} {base : Value} {shown : String} {remaking : Remaking}
      (isOpen : Extractor.isOpen base.content = true) :
      IsInstance (derived type base shown remaking)
  | member {mixin : Mixin} {type : TypeRef} {name : String} {value : Value}
      (isOpen : Extractor.isOpen (Value.member mixin type name value).content = true) :
      IsInstance (member mixin type name value)

end Value

namespace Attributes

variable {attributes : Attributes}

/-- Whether all attributes have values, and these are the given ones. -/
def AreSet (attributes : Attributes) (fields : Properties) : Prop :=
  attributes = fields.map fun field => (field.1, some field.2)

theorem AreSet.values_eq {fields : Properties} (areSet : attributes.AreSet fields) :
    attributes.values = .ok fields := by
  unfold AreSet at areSet
  subst areSet
  induction fields with
  | nil => rfl
  | cons field fields ih =>
      rw [values] at ih
      rw [values, List.map_cons, List.mapM_cons, ih]
      rfl

theorem values_of_mem_none {name : String} (unset : (name, none) ∈ attributes) :
    attributes.values = .error .unsupported := by
  induction attributes with
  | nil => exact absurd unset List.not_mem_nil
  | cons first attributes ih =>
      obtain ⟨_, value?⟩ := first
      rw [values, List.mapM_cons]
      cases value? with
      | none => rfl
      | some v =>
          have later : (name, none) ∈ attributes := by simpa using unset
          have rest := ih later
          rw [values] at rest
          rw [rest]
          rfl

theorem exists_areSet (noneUnset : ∀ name, (name, none) ∉ attributes) :
    ∃ fields, attributes.AreSet fields := by
  induction attributes with
  | nil => exact ⟨[], rfl⟩
  | cons first attributes ih =>
      obtain ⟨name, value?⟩ := first
      cases value? with
      | none => exact absurd List.mem_cons_self (noneUnset name)
      | some v =>
          obtain ⟨fields, areSet⟩ :=
            ih fun name among => noneUnset name (List.mem_cons_of_mem _ among)
          exact ⟨(name, v) :: fields, congrArg ((name, some v) :: ·) areSet⟩

end Attributes

namespace Extractor

theorem currentFields_eq (fields : Attributes) (later : Properties) :
    currentFields fields later =
      fields.map fun field => (field.1, (later.last? field.1).or field.2) := by
  simp only [currentFields, Entries.get?_merged]

theorem mem_currentFields_of_unset {fields : Attributes} {later : Properties} {name : String}
    (unset : (name, none) ∈ fields) (notLater : later.last? name = none) :
    (name, none) ∈ currentFields fields later := by
  rw [currentFields_eq]
  exact List.mem_map.mpr ⟨_, unset, by rw [notLater]; rfl⟩

theorem exists_unset_of_mem_currentFields {fields : Attributes} {later : Properties} {name : String}
    (unset : (name, none) ∈ currentFields fields later) :
    (name, none) ∈ fields ∧ later.last? name = none := by
  rw [currentFields_eq] at unset
  obtain ⟨⟨_, value?⟩, among, equal⟩ := List.mem_map.mp unset
  obtain ⟨rfl, absent⟩ := Prod.mk.inj equal
  obtain ⟨notLater, rfl⟩ := Option.or_eq_none_iff.mp absent
  exact ⟨among, notLater⟩

theorem exists_eq_map_some {names : List (Option String)} (named : none ∉ names) :
    ∃ texts : List String, names = texts.map some := by
  induction names with
  | nil => exact ⟨[], rfl⟩
  | cons name? names ih =>
      rw [List.mem_cons, not_or] at named
      obtain ⟨name, rfl⟩ := Option.ne_none_iff_exists'.mp (Ne.symm named.1)
      obtain ⟨texts, rfl⟩ := ih named.2
      exact ⟨name :: texts, rfl⟩

/-- Elements that all have names are read. -/
theorem pairs_of_length_eq {names : List String} {values : List Value}
    (sameCount : names.length = values.length) :
    pairs (names.map some) values = .ok (names.zip values) := by
  induction names generalizing values with
  | nil =>
      obtain rfl := List.eq_nil_of_length_eq_zero sameCount.symm
      rfl
  | cons name names ih =>
      obtain ⟨v, values, rfl⟩ := List.exists_cons_of_length_eq_add_one sameCount.symm
      rw [List.map_cons, pairs, ih (Nat.succ.inj sameCount)]
      rfl

/-- The first name that is no text is noticed, if there is an element for it. -/
theorem pairs_of_unnamed {names : List (Option String)} {values : List Value}
    (unnamed : none ∈ names.take values.length) : pairs names values = .error .unsupported := by
  induction names generalizing values with
  | nil => simp at unnamed
  | cons name? names ih =>
      cases values with
      | nil => simp at unnamed
      | cons v values =>
          cases name? with
          | none => rfl
          | some name =>
              have later : none ∈ names.take values.length := by simpa using unnamed
              rw [pairs, ih later]
              rfl

theorem pairs_of_length_ne {names : List (Option String)} {values : List Value}
    (named : none ∉ names.take values.length) (differ : names.length ≠ values.length) :
    pairs names values = .error .unequalFieldCount := by
  induction names generalizing values with
  | nil =>
      cases values with
      | nil => exact absurd rfl differ
      | cons v values => rfl
  | cons name? names ih =>
      cases values with
      | nil => cases name? <;> rfl
      | cons v values =>
          cases name? with
          | none => exact absurd List.mem_cons_self named
          | some name =>
              have later : none ∉ names.take values.length := by simpa using named
              rw [pairs, ih later fun same => differ (congrArg Nat.succ same)]
              rfl

end Extractor

namespace Entity

/-- The class of an entity. -/
def cls : Entity → EntityClass
  | extracted _ => ⟨⟨"ExtractedEntity", Component.extractor.name ++ ".ExtractedEntity"⟩, none⟩
  | model cls _ _ _ => cls
  | record cls _ _ => cls
  | namedTuple cls _ _ => cls
  | object cls _ _ => cls
  | classItself _ metaclass => ⟨metaclass, none⟩
  | value v => ⟨v.typeRef, none⟩

/-- The value with which an instance that is a tuple names its elements itself. -/
def ownNames? : Entity → Option Value
  | object _ .tuple (some attributes) => attributes.get? "_fields"
  | _ => none

/-- The fields of an entity, in their order. Private attributes and undeclared values of a model
are none of its fields, and neither is what a record was given later under a name that is no field.
-/
inductive HasFields : Entity → Properties → Prop
  | model (cls : EntityClass) {declared : Attributes} {fields : Properties}
      (privates undeclared : Properties) (areSet : declared.AreSet fields) :
      HasFields (model cls declared privates undeclared) fields
  | record (cls : EntityClass) {attributes : Attributes} {fields later : Properties}
      (areSet : Attributes.AreSet
        (attributes.map fun field => (field.1, (later.last? field.1).or field.2)) fields) :
      HasFields (record cls attributes later) fields
  | namedTuple (cls : EntityClass) {names : List String} {values : List Value}
      (sameCount : names.length = values.length) :
      HasFields (namedTuple cls (names.map some) values) (names.zip values)
  | emptyTuple {entity : Entity} {names : Value} (named : entity.ownNames? = some names)
      (noNames : Extractor.size names = .ok 0) : HasFields entity []
  | object (cls : EntityClass) {ancestry : Ancestry} {attributes : Properties}
      (noValue : ancestry ∉ [.mapping, .text, .bytes])
      (unnamed : (object cls ancestry (some attributes)).ownNames? = none) :
      HasFields (object cls ancestry (some attributes)) attributes
  | value {v : Value} (isInstance : v.IsInstance) : HasFields (value v) []

/-- A tuple with more or fewer names than elements, where none of those that have an element is
anything but a text. -/
inductive HasUnequalCounts : Entity → Prop
  | namedTuple (cls : EntityClass) {names : List (Option String)} {values : List Value}
      (named : none ∉ names.take values.length) (differ : names.length ≠ values.length) :
      HasUnequalCounts (namedTuple cls names values)
  | emptyTuple {entity : Entity} {names : Value} {count : Nat}
      (named : entity.ownNames? = some names) (counted : Extractor.size names = .ok (count + 1)) :
      HasUnequalCounts entity

/-- What an entity has in place of fields cannot be read, for the given reason: a declared attribute
has no value, a name is no text, or the names cannot be counted. -/
inductive HasUnreadableFields : Entity → Failure → Prop
  | model (cls : EntityClass) {declared : Attributes} {name : String}
      (privates undeclared : Properties) (unset : (name, none) ∈ declared) :
      HasUnreadableFields (model cls declared privates undeclared) .unsupported
  | record (cls : EntityClass) {attributes : Attributes} {later : Properties} {name : String}
      (unset : (name, none) ∈ attributes) (notLater : later.last? name = none) :
      HasUnreadableFields (record cls attributes later) .unsupported
  | namedTuple (cls : EntityClass) {names : List (Option String)} {values : List Value}
      (unnamed : none ∈ names.take values.length) :
      HasUnreadableFields (namedTuple cls names values) .unsupported
  | emptyTuple {entity : Entity} {names : Value} {failure : Failure}
      (named : entity.ownNames? = some names)
      (uncountable : Extractor.size names = .error failure) : HasUnreadableFields entity failure

theorem exists_of_ownNames? {entity : Entity} {names : Value}
    (named : entity.ownNames? = some names) :
    ∃ cls attributes, entity = object cls .tuple (some attributes) ∧
      attributes.get? Extractor.fieldNames = some names := by
  unfold ownNames? at named
  split at named
  · exact ⟨_, _, rfl, named⟩
  · contradiction

end Entity

namespace Extractor

open Entity

/-- What is read off a tuple that names its elements itself. -/
theorem standard_of_ownNames? {entity : Entity} {names : Value}
    (named : entity.ownNames? = some names) :
    standard entity = .ofExcept (ofEmptyTuple entity.cls names) := by
  obtain ⟨cls, attributes, rfl, found⟩ := exists_of_ownNames? named
  simp [standard, ofObject, found, Entity.cls]

/-- The public fields of an entity are read off it, in their order. -/
theorem standard_of_hasFields {entity : Entity} {fields : Properties}
    (hasFields : entity.HasFields fields) :
    standard entity = .ofExcept (.ok ⟨entity.cls.typeName, fields.onlyPublic⟩) := by
  cases hasFields with
  | model cls privates undeclared areSet =>
      rw [standard, ofAttributes, areSet.values_eq]
      rfl
  | record cls areSet =>
      rw [standard, ofAttributes, currentFields_eq, areSet.values_eq]
      rfl
  | namedTuple cls sameCount =>
      rw [standard, ofTuple, pairs_of_length_eq sameCount]
      rfl
  | emptyTuple named noNames =>
      rw [standard_of_ownNames? named, ofEmptyTuple, noNames]
      rfl
  | @object cls ancestry _ noValue unnamed =>
      cases ancestry with
      | mapping | text | bytes => exact absurd noValue (by decide)
      | other | integer | list => rfl
      | tuple =>
          have noNames : Entries.get? fields fieldNames = none := unnamed
          simp [standard, ofObject, noNames, ofFields, Entity.cls]
  | value isInstance =>
      cases isInstance with
      | foreign type shown => rfl
      | derived isOpen =>
          rw [standard, ofValue, Value.content, if_pos isOpen]
          rfl
      | member isOpen =>
          rw [standard, ofValue, if_pos isOpen]
          rfl

theorem standard_of_hasUnequalCounts {entity : Entity} (unequal : entity.HasUnequalCounts) :
    standard entity = .ofExcept (.error .unequalFieldCount) := by
  cases unequal with
  | namedTuple cls named differ =>
      rw [standard, ofTuple, pairs_of_length_ne named differ]
      rfl
  | emptyTuple named counted =>
      rw [standard_of_ownNames? named, ofEmptyTuple, counted]
      rfl

theorem standard_of_hasUnreadableFields {entity : Entity} {failure : Failure}
    (unreadable : entity.HasUnreadableFields failure) :
    standard entity = .ofExcept (.error failure) := by
  cases unreadable with
  | model cls privates undeclared unset =>
      rw [standard, ofAttributes, Attributes.values_of_mem_none unset]
      rfl
  | record cls unset notLater =>
      have stillUnset := mem_currentFields_of_unset unset notLater
      rw [standard, ofAttributes, Attributes.values_of_mem_none stillUnset]
      rfl
  | namedTuple cls unnamed =>
      rw [standard, ofTuple, pairs_of_unnamed unnamed]
      rfl
  | emptyTuple named uncountable =>
      rw [standard_of_ownNames? named, ofEmptyTuple, uncountable]
      rfl

/-- A plain value is reported unless it is an instance of a class that has attributes. -/
theorem ofValue_of_not_isInstance {v : Value} (noInstance : ¬ v.IsInstance) :
    ofValue v = .raise (.unextractable v.typeRef.path) := by
  cases v with
  | foreign type shown => exact absurd (.foreign type shown) noInstance
  | derived type base shown remaking =>
      have closed : ¬ isOpen base.content = true := fun isOpen => noInstance (.derived isOpen)
      rw [ofValue, Value.content, if_neg closed]
      rfl
  | member mixin type name value =>
      rw [ofValue, if_neg fun isOpen => noInstance (.member isOpen)]
      rfl
  | null | bool _ | int _ | double _ | decimal _ | text _ | timestamp _ | date _ | clock _
  | duration _ | bytes _ _ | uuid _ | list _ | tuple _ | map _ => rfl

/-- Whatever is no explicit payload, has no fields, is no tuple with too many or too few names, and
has nothing in place of fields that cannot be read, is reported with the path of its type. -/
theorem standard_of_no_fields {entity : Entity} (notExtracted : ∀ x, entity ≠ .extracted x)
    (noFields : ∀ fields, ¬ entity.HasFields fields) (notUnequal : ¬ entity.HasUnequalCounts)
    (readable : ∀ failure, ¬ entity.HasUnreadableFields failure) :
    standard entity = .raise (.unextractable entity.cls.type.path) := by
  cases entity with
  | extracted x => exact absurd rfl (notExtracted x)
  | model cls declared privates undeclared =>
      obtain ⟨fields, areSet⟩ := Attributes.exists_areSet fun name unset =>
        readable _ (.model cls privates undeclared unset)
      exact absurd (.model cls privates undeclared areSet) (noFields fields)
  | record cls attributes later =>
      have areAllSet : ∀ name, (name, none) ∉ currentFields attributes later := by
        intro name unset
        obtain ⟨among, notLater⟩ := exists_unset_of_mem_currentFields unset
        exact readable _ (.record cls among notLater)
      obtain ⟨fields, areSet⟩ := Attributes.exists_areSet areAllSet
      rw [currentFields_eq] at areSet
      exact absurd (.record cls areSet) (noFields fields)
  | namedTuple cls names values =>
      have named : none ∉ names.take values.length := fun unnamed =>
        readable _ (.namedTuple cls unnamed)
      by_cases sameCount : names.length = values.length
      · rw [← sameCount, List.take_length] at named
        obtain ⟨texts, rfl⟩ := exists_eq_map_some named
        rw [List.length_map] at sameCount
        exact absurd (.namedTuple cls sameCount) (noFields _)
      · exact absurd (.namedTuple cls named sameCount) notUnequal
  | object cls ancestry attributes =>
      cases attributes with
      | none => cases ancestry <;> rfl
      | some attributes =>
          cases named : (Entity.object cls ancestry (some attributes)).ownNames? with
          | some names =>
              cases counted : size names with
              | error failure => exact absurd (.emptyTuple named counted) (readable failure)
              | ok count =>
                  cases count with
                  | zero => exact absurd (.emptyTuple named counted) (noFields _)
                  | succ count => exact absurd (.emptyTuple named counted) notUnequal
          | none =>
              by_cases isValue : ancestry ∈ [.mapping, .text, .bytes]
              · simp only [List.mem_cons, List.not_mem_nil, or_false] at isValue
                rcases isValue with rfl | rfl | rfl
                · rfl
                · rfl
                · rfl
              · exact absurd (.object _ isValue named) (noFields _)
  | classItself cls metaclass => rfl
  | value v => exact ofValue_of_not_isInstance fun isInstance => noFields _ (.value isInstance)

/-- Whatever is read off an entity is read without a log record. -/
theorem standard_of_result_eq_ok {entity : Entity} {x : Extracted}
    (read : (standard entity).result = .ok x) : standard entity = .ofExcept (.ok x) := by
  by_cases isExtracted : ∃ explicit, entity = .extracted explicit
  · obtain ⟨explicit, rfl⟩ := isExtracted
    cases read
    rfl
  by_cases hasFields : ∃ fields, entity.HasFields fields
  · obtain ⟨fields, hasFields⟩ := hasFields
    rw [standard_of_hasFields hasFields] at read ⊢
    cases read
    rfl
  by_cases unequal : entity.HasUnequalCounts
  · rw [standard_of_hasUnequalCounts unequal] at read
    contradiction
  by_cases unreadable : ∃ failure, entity.HasUnreadableFields failure
  · obtain ⟨failure, unreadable⟩ := unreadable
    rw [standard_of_hasUnreadableFields unreadable] at read
    contradiction
  · rw [standard_of_no_fields (not_exists.mp isExtracted) (not_exists.mp hasFields) unequal
      (not_exists.mp unreadable)] at read
    contradiction

end Extractor

namespace Entity

variable {π β : Type}

/-- Whether builders with the standard extractor make the same of two entities: nodes, typed nodes
and relationships. -/
def GiveSameClauses (π β : Type) (a b : Entity) : Prop :=
  ∀ (env : Env) (builder : Builder π β), builder.extractor = Extractor.standard →
    (∀ name, builder.create env name a = builder.create env name b) ∧
    (∀ name label, builder.createTyped env name label a = builder.createTyped env name label b) ∧
    ∀ form direction left right,
      builder.relate env form (.declaration ⟨direction, left, right, a⟩) =
        builder.relate env form (.declaration ⟨direction, left, right, b⟩)

/-- Operations look at an entity only through the extractor. -/
theorem giveSameClauses_of_standard_eq {a b : Entity}
    (same : Extractor.standard a = Extractor.standard b) : GiveSameClauses π β a b := by
  intro env builder isStandard
  refine ⟨?_, ?_, ?_⟩
  · intro name
    rw [Builder.create, Builder.create, isStandard, same]
  · intro name label
    rw [Builder.createTyped, Builder.createTyped, isStandard, same]
  · intro form direction left right
    simp only [Builder.relate, Declaration.text, isStandard, same]
    rfl

end Entity

namespace Extractor

/-- What the standard extractor does with every entity. An explicit payload is given back as it is.
Of an entity with fields the ones whose names do not start with a low line are read, in their order,
under the label of the class if that is text, and under the name of the class otherwise. A tuple
with more or fewer names than elements is refused. All else is reported, with the path of its type
in the message and in the details, exactly if it has nothing in place of fields that cannot be read,
public or not; if it has, it fails without a report. So entities with the same type name and the
same public fields give the same clauses, and an entity gives the same clauses as what is read off
it.
-/
theorem standard_reads_public_fields {π β : Type} :
    (∀ x, standard (.extracted x) = .ofExcept (.ok x)) ∧
    (∀ (entity : Entity) (fields : Properties), entity.HasFields fields → ∃ x,
      standard entity = .ofExcept (.ok x) ∧
      x.properties = fields.filter (fun field => field.1.toList.head? != some '_') ∧
      x.typeName = entity.cls.typeName ∧
      x.typeName.text = (entity.cls.label.bind Value.text?).getD entity.cls.type.name) ∧
    (∀ entity : Entity, entity.HasUnequalCounts →
      standard entity = .ofExcept (.error .unequalFieldCount)) ∧
    (∀ entity : Entity, (∀ x, entity ≠ .extracted x) → (∀ fields, ¬ entity.HasFields fields) →
      ¬ entity.HasUnequalCounts →
        ((∃ fault, standard entity = .raise fault ∧ fault.report =
            ⟨.extraction, "Cannot extract properties from " ++ entity.cls.type.path ++
              "; pass a model, dataclass, named tuple or ExtractedEntity",
              ⟨"cypher_builder.query_builder.extractor", "extract_properties",
                .entity entity.cls.type.path, none⟩⟩) ↔
          ∀ failure, ¬ entity.HasUnreadableFields failure)) ∧
    (∀ (entity : Entity) (failure : Failure), entity.HasUnreadableFields failure →
      standard entity = .ofExcept (.error failure)) ∧
    (∀ (a b : Entity) (aFields bFields : Properties), a.HasFields aFields → b.HasFields bFields →
      a.cls.typeName = b.cls.typeName → aFields.onlyPublic = bFields.onlyPublic →
      Entity.GiveSameClauses π β a b) ∧
    ∀ (a : Entity) (x : Extracted), (standard a).result = .ok x →
      Entity.GiveSameClauses π β a (.extracted x) := by
  refine ⟨fun x => rfl, ?_, fun entity => standard_of_hasUnequalCounts, ?_,
    fun entity failure => standard_of_hasUnreadableFields, ?_, ?_⟩
  · intro entity fields hasFields
    exact ⟨_, standard_of_hasFields hasFields, rfl, rfl, entity.cls.text_typeName⟩
  · intro entity notExtracted noFields notUnequal
    constructor
    · rintro ⟨fault, raised, _⟩ failure unreadable
      rw [standard_of_hasUnreadableFields unreadable] at raised
      exact Logged.ofExcept_ne_raise _ _ raised
    · intro readable
      exact ⟨_, standard_of_no_fields notExtracted noFields notUnequal readable, rfl⟩
  · intro a b aFields bFields aHas bHas sameName sameFields
    apply Entity.giveSameClauses_of_standard_eq
    rw [standard_of_hasFields aHas, standard_of_hasFields bHas, sameName, sameFields]
  · intro a x read
    exact Entity.giveSameClauses_of_standard_eq (standard_of_result_eq_ok read)

/-- A tuple that is without elements and gives itself no names that could be counted. -/
def namelessTuple : Entity :=
  .object ⟨⟨"Tup", "app.models.Tup"⟩, none⟩ .tuple (some [("_fields", .null)])

theorem eq_null_of_ownNames? {names : Value} (named : namelessTuple.ownNames? = some names) :
    names = .null :=
  (Option.some.inj named).symm

theorem not_hasFields_namelessTuple (fields : Properties) : ¬ namelessTuple.HasFields fields := by
  intro hasFields
  unfold namelessTuple at hasFields
  cases hasFields with
  | emptyTuple named noNames =>
      rw [eq_null_of_ownNames? named] at noNames
      contradiction
  | object cls noValue unnamed => contradiction

theorem not_hasUnequalCounts_namelessTuple : ¬ namelessTuple.HasUnequalCounts := by
  intro unequal
  unfold namelessTuple at unequal
  cases unequal with
  | emptyTuple named counted =>
      rw [eq_null_of_ownNames? named] at counted
      contradiction

/-- A record whose later value of a field counts and whose private field does not, and a tuple with
the same elements, give the same clauses. A record with a private field that has no value is not
read, a tuple with more names than elements is refused, a class is reported as an instance of its
own class, and a tuple without countable names is not reported. -/
theorem standard_reads_record_and_tuple :
    let cls : EntityClass := ⟨⟨"Pet", "app.models.Pet"⟩, some (.text "Animal")⟩
    let pet : Entity := .record cls [("name", some (.text "Rex")), ("_owner", none)]
      [("name", .text "Max"), ("_owner", .int 4), ("age", .int 4)]
    let stray : Entity := .record cls [("name", some (.text "Rex")), ("_owner", none)] []
    let tuple : Entity := .namedTuple cls [some "name"] [.text "Max"]
    let itself : Entity := .classItself cls ⟨"PetMeta", "app.models.PetMeta"⟩
    (∃ x, standard pet = .ofExcept (.ok x) ∧ x.properties = [("name", .text "Max")] ∧
      x.typeName.text = "Animal") ∧
    Entity.GiveSameClauses Unit Unit pet tuple ∧
    Entity.GiveSameClauses Unit Unit pet (.extracted ⟨.plain "Animal", [("name", .text "Max")]⟩) ∧
    standard stray = .ofExcept (.error .unsupported) ∧
    standard (.namedTuple cls [some "name", none] [.text "Max"]) =
      .ofExcept (.error .unequalFieldCount) ∧
    (∃ fault, standard itself = .raise fault ∧
      fault.report.details.subject = .entity "app.models.PetMeta") ∧
    ¬ ∃ fault, standard namelessTuple = .raise fault := by
  intro cls pet stray tuple itself
  obtain ⟨_, reads, refuses, reports, fails, alike, extracts⟩ :=
    standard_reads_public_fields (π := Unit) (β := Unit)
  have petFields : pet.HasFields [("name", .text "Max"), ("_owner", .int 4)] := .record cls rfl
  have tupleFields : tuple.HasFields [("name", .text "Max")] :=
    @Entity.HasFields.namedTuple cls ["name"] [.text "Max"] rfl
  refine ⟨?_, alike _ _ _ _ petFields tupleFields rfl rfl, extracts _ _ rfl,
    fails _ _ (@Entity.HasUnreadableFields.record cls _ _ "_owner" (by simp) rfl),
    refuses _ (.namedTuple cls (by decide) (by decide)), ?_, ?_⟩
  · obtain ⟨x, read, properties, _, name⟩ := reads _ _ petFields
    exact ⟨x, read, properties, name⟩
  · have noFields (metaclass : TypeRef) (fields : Properties) :
        ¬ (Entity.classItself cls metaclass).HasFields fields := by
      rintro (_ | _ | _ | ⟨named, _⟩)
      contradiction
    have notUnequal (metaclass : TypeRef) :
        ¬ (Entity.classItself cls metaclass).HasUnequalCounts := by
      rintro (_ | ⟨named, _⟩)
      contradiction
    have readable (metaclass : TypeRef) (failure : Failure) :
        ¬ (Entity.classItself cls metaclass).HasUnreadableFields failure := by
      rintro (_ | _ | _ | ⟨named, _⟩)
      contradiction
    obtain ⟨fault, raised, report⟩ :=
      (reports itself nofun (noFields _) (notUnequal _)).mpr (readable _)
    exact ⟨fault, raised, by rw [report]; rfl⟩
  · rintro ⟨fault, raised⟩
    have uncountable : namelessTuple.HasUnreadableFields .meaningless :=
      @Entity.HasUnreadableFields.emptyTuple _ .null _ rfl rfl
    rw [fails _ _ uncountable] at raised
    exact Logged.ofExcept_ne_raise _ _ raised

/-- A tuple that gives itself something else than names has no fields, and is not reported. -/
theorem exists_unreported_tuple :
    ∃ entity : Entity, (∀ x, entity ≠ .extracted x) ∧ (∀ fields, ¬ entity.HasFields fields) ∧
      ¬ entity.HasUnequalCounts ∧ ∀ fault, standard entity ≠ .raise fault := by
  refine ⟨namelessTuple, nofun, not_hasFields_namelessTuple, not_hasUnequalCounts_namelessTuple, ?_⟩
  intro fault
  have fails : standard namelessTuple = .ofExcept (.error .meaningless) := rfl
  rw [fails]
  exact Logged.ofExcept_ne_raise _ fault

end Extractor

end CypherText
