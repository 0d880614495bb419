import CypherText.Proofs.Builder
import CypherText.Proofs.Token.Identifier
import CypherText.Proofs.Value.Literal

/-!
# Labels in the query

The label that a class carries for its instances reaches the query through the standard
extractor, as the label of a node and as the type of a relationship. A label that is no bare name
is put between backticks by its characters. A bare one is printed as it shows itself, so it reads
back as its characters exactly if it shows these, bare or between backticks.
-/

namespace CypherText

namespace Identifier

/-- The token of a name reads back as the characters of the name exactly if the name is not bare
or shows its characters, bare or between backticks. -/
theorem decode?_token_eq_some_iff (name : Name) :
    decode? (token name) = some name.text ↔
      (isBare name.text = true →
        name.shown = name.text ∨ name.shown = String.ofList (backticked name.text.toList)) := by
  cases bare : isBare name.text with
  | true => simp [token, bare, decode?_eq_some_iff]
  | false => simp [token, bare, decode?_eq_some_iff]

end Identifier

namespace Value

/-- Whether a value that counts as text with the given characters, where it is printed as it is
because these form a bare name, shows the characters, bare or between backticks. There is always
room for such a text. -/
def ShowsName (v : Value) (chars : String) : Prop :=
  Identifier.isBare chars = true →
    v.display 0 = .ok chars ∨
      v.display 0 = .ok (String.ofList (Identifier.backticked chars.toList))

theorem name?_of_text? {v : Value} {chars : String} (isText : v.text? = some chars) :
    v.name? = some ⟨chars, v.ownText?.getD chars⟩ := by
  simp [name?, isText]

end Value

namespace Entity

/-- The label that the class of an entity carries for its instances. -/
def label? : Entity → Option Value
  | model cls _ _ _ => cls.label
  | record cls _ _ => cls.label
  | namedTuple cls _ _ => cls.label
  | object cls _ _ => cls.label
  | _ => none

end Entity

namespace Extractor

/-- Whatever is read off fields has the type name of the class. -/
theorem typeName_of_ofFields {cls : EntityClass} {fields : Except Failure Properties}
    {extracted : Extracted} (read : ofFields cls <$> fields = .ok extracted) :
    extracted.typeName = cls.typeName := by
  cases fields with
  | error failure => contradiction
  | ok fields =>
      cases read
      rfl

theorem typeName_of_ofEmptyTuple {cls : EntityClass} {names : Value} {extracted : Extracted}
    (read : ofEmptyTuple cls names = .ok extracted) : extracted.typeName = cls.typeName := by
  unfold ofEmptyTuple at read
  cases counted : size names with
  | error failure =>
      rw [counted] at read
      contradiction
  | ok count =>
      rw [counted] at read
      by_cases isEmpty : count = 0
      · subst isEmpty
        cases read
        rfl
      · simp [isEmpty, Bind.bind, Except.bind] at read

theorem typeName_of_ofObject {cls : EntityClass} {ancestry : Ancestry}
    {attributes : Option Properties} {extracted : Extracted}
    (read : (ofObject cls ancestry attributes).result = .ok extracted) :
    extracted.typeName = cls.typeName := by
  unfold ofObject at read
  split at read
  · split at read
    · exact typeName_of_ofEmptyTuple read
    · cases read
      rfl
  · split at read
    · cases read
      rfl
    · contradiction
  · contradiction

/-- Whatever the standard extractor reads off an entity whose class has a label has that label as
its type name. -/
theorem typeName_of_label? {entity : Entity} {label : Value} {name : Name}
    {extracted : Extracted} (labelled : entity.label? = some label)
    (isName : label.name? = some name) (read : (standard entity).result = .ok extracted) :
    extracted.typeName = name := by
  have typeName : ∀ cls : EntityClass, cls.label = some label → cls.typeName = name := by
    intro cls carried
    simp [EntityClass.typeName, carried, isName]
  cases entity with
  | model cls _ _ _ => exact (typeName_of_ofFields read).trans (typeName cls labelled)
  | record cls _ _ => exact (typeName_of_ofFields read).trans (typeName cls labelled)
  | namedTuple cls _ _ => exact (typeName_of_ofFields read).trans (typeName cls labelled)
  | object cls _ _ => exact (typeName_of_ofObject read).trans (typeName cls labelled)
  | extracted _ | classItself _ | value _ => contradiction

end Extractor

namespace Builder

variable {π β : Type}

theorem create_nodePattern (name label : Name) (block : String) :
    "CREATE " ++ nodePattern name label block =
      "CREATE (" ++ Identifier.token name ++ ":" ++ Identifier.token label ++ block ++ ")" := by
  apply String.toList_injective
  simp [nodePattern]

/-- An instance without attributes, of a class that carries a label. -/
def bareInstance (label : Value) : Entity :=
  .object ⟨⟨"Thing", "app.models.Thing"⟩, some label⟩ .other (some [])

theorem result_create_bareInstance (env : Env) (name : Name) {label : Value} {labelName : Name}
    (isName : label.name? = some labelName) :
    ((empty : Builder π β).create env name (bareInstance label)).result =
      .ok (empty.extend (.clause .create ("CREATE " ++ nodePattern name labelName ""))) := by
  refine result_create_eq_ok_iff.mpr ⟨⟨labelName, []⟩, "", ?_, rfl, rfl⟩
  have labelled : (bareInstance label).label? = some label := rfl
  rw [← Extractor.typeName_of_label? labelled isName rfl]
  rfl

/-- With a class label that counts as text, what stands at the place of the label of a created
node, and of the type of a created relationship, reads back as exactly the characters of the
label if and only if the label is not bare or shows its characters, bare or between backticks.
Behind it stands the block of the properties. -/
theorem decode?_label_eq_some_iff {env : Env} {b : Builder π β} {entity : Entity}
    {label : Value} {chars : String} (isStandard : b.extractor = Extractor.standard)
    (labelled : entity.label? = some label) (isText : label.text? = some chars) :
    (∀ name extended, (b.create env name entity).result = .ok extended →
      ∃ extracted block token, (Extractor.standard entity).result = .ok extracted ∧
        extracted.block env.platform = .ok block ∧
        extended.expr.steps = b.expr.steps ++ [.clause ⟨.create,
          "CREATE (" ++ Identifier.token name ++ ":" ++ token ++ block ++ ")"⟩] ∧
        (Identifier.decode? token = some chars ↔ label.ShowsName chars)) ∧
    ∀ form d extended, d.payload = entity →
      (b.relate env form (.declaration d)).result = .ok extended →
      ∃ extracted block token, (Extractor.standard entity).result = .ok extracted ∧
        extracted.block env.platform = .ok block ∧
        extended.expr.steps = b.expr.steps ++ [.clause ⟨form.kind,
          form.kind.keyword ++ " " ++ d.pattern token block⟩] ∧
        (Identifier.decode? token = some chars ↔ label.ShowsName chars) := by
  have isName := Value.name?_of_text? isText
  have shows := Value.display_of_text? isText 0
  generalize label.ownText?.getD chars = shown at isName shows
  have reads : Identifier.decode? (Identifier.token ⟨chars, shown⟩) = some chars ↔
      label.ShowsName chars := by
    rw [Identifier.decode?_token_eq_some_iff, Value.ShowsName, shows, Except.ok.injEq,
      Except.ok.injEq]
  constructor
  · intro name extended created
    obtain ⟨extracted, block, read, written, rfl⟩ := result_create_eq_ok_iff.mp created
    rw [isStandard] at read
    have typeName := Extractor.typeName_of_label? labelled isName read
    refine ⟨extracted, block, Identifier.token ⟨chars, shown⟩, read, written, ?_, reads⟩
    rw [steps_extend, create_nodePattern, typeName]
    rfl
  · rintro form d extended rfl related
    obtain ⟨_, extracted, block, equal, read, written, rfl⟩ := result_relate_eq_ok_iff.mp related
    cases equal
    rw [isStandard] at read
    have typeName := Extractor.typeName_of_label? labelled isName read
    refine ⟨extracted, block, Identifier.token ⟨chars, shown⟩, read, written, ?_, reads⟩
    simp [Expr.clause, typeName]

/-- A label that is no bare name reads back although it shows another text. -/
theorem decode?_label_of_two_words :
    let label : Value := .derived ⟨"Sub", "app.models.Sub"⟩ (.text "a b") "other" .made
    ∃ extended block token,
      ((empty : Builder Unit Unit).create ⟨"\n", "", ⟨0, 900⟩⟩ (.plain "n")
        (bareInstance label)).result = .ok extended ∧
      extended.expr.steps = [.clause ⟨.create,
        "CREATE (" ++ Identifier.token (.plain "n") ++ ":" ++ token ++ block ++ ")"⟩] ∧
      Identifier.decode? token = some "a b" := by
  intro label
  have isName : label.name? = some ⟨"a b", "other"⟩ := rfl
  have labelled : (bareInstance label).label? = some label := rfl
  have isText : label.text? = some "a b" := rfl
  have created := result_create_bareInstance (π := Unit) (β := Unit) ⟨"\n", "", ⟨0, 900⟩⟩
    (.plain "n") isName
  obtain ⟨_, block, token, _, _, steps, reads⟩ :=
    (decode?_label_eq_some_iff rfl labelled isText).1 _ _ created
  refine ⟨_, block, token, created, steps, reads.mpr ?_⟩
  intro bare
  contradiction

/-- The label of a member of an enumeration of texts is printed as the name of the member. -/
theorem exists_label_not_read_back :
    ∃ entity label chars token, Entity.label? entity = some label ∧ label.text? = some chars ∧
      ((empty : Builder Unit Unit).create ⟨"\n", "", ⟨0, 900⟩⟩ (.plain "n") entity).result =
        .ok (empty.extend (.clause .create ("CREATE (n:" ++ token ++ ")"))) ∧
      Identifier.decode? token ≠ some chars := by
  let label : Value := .member .named ⟨"Color", "app.models.Color"⟩ "RED" (.text "Person")
  have text : "CREATE " ++ nodePattern (.plain "n") ⟨"Person", "Color.RED"⟩ "" =
      "CREATE (n:" ++ "Color.RED" ++ ")" := by decide
  refine ⟨bareInstance label, label, "Person", "Color.RED", rfl, rfl, ?_, by decide⟩
  rw [← text]
  exact result_create_bareInstance _ _ rfl

end Builder

end CypherText
