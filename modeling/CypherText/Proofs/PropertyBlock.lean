import CypherText.Proofs.CallFailure
import Mathlib.Data.List.Forall2

/-!
# Property blocks read back

The block of some properties stands for the list of their names and literals, position by position,
and for nothing else. In front of the parenthesis or bracket that closes a pattern the reader gets
this list back and stops there, whatever the names hold between backticks and the values between
quotes. So two lists of properties have the same block exactly if they have the same names and
literals in the same places.
-/

namespace CypherText

namespace Properties

variable {platform : Platform} {properties others : Properties} {written : Entries String}

/-- Whether a list has the name and the literal of each property, position by position. -/
def IsWritten (platform : Platform) (properties : Properties) (written : Entries String) : Prop :=
  List.Forall₂
    (fun property pair => pair.1 = property.1 ∧ property.2.literal platform = .ok pair.2)
    properties written

/-- Whether two lists of properties have the same names and the same literals, position by position.
-/
def IsAlike (platform : Platform) (properties others : Properties) : Prop :=
  List.Forall₂
    (fun property other => property.1 = other.1 ∧
      property.2.literal platform = other.2.literal platform)
    properties others

theorem literals_eq_ok_iff (platform : Platform) (typeName : Name) :
    Extracted.literals platform ⟨typeName, properties⟩ = .ok written ↔
      properties.IsWritten platform written := by
  induction properties generalizing written with
  | nil =>
      constructor
      · intro made
        cases made
        exact .nil
      · intro isWritten
        cases isWritten
        rfl
  | cons property properties ih =>
      rw [Extracted.literals_cons]
      constructor
      · intro made
        rcases Except.bind_eq_ok_iff.mp made with ⟨literal, first, made⟩
        rcases Except.bind_eq_ok_iff.mp made with ⟨rest, others, made⟩
        cases made
        exact .cons ⟨rfl, first⟩ (ih.mp others)
      · intro isWritten
        cases isWritten with
        | @cons _ pair _ rest first others =>
            rcases pair with ⟨name, literal⟩
            rcases first with ⟨rfl, first⟩
            rw [first, ih.mpr others]
            rfl

/-- A block is the text of the names and literals of its properties. -/
theorem block_eq_ok_iff {text : String} :
    properties.block platform = .ok text ↔
      ∃ written, properties.IsWritten platform written ∧ blockText written = text := by
  have made := Extracted.block_eq platform ⟨.plain "", properties⟩
  change properties.block platform = _ at made
  rw [made]
  constructor
  · intro mapped
    cases all : Extracted.literals platform ⟨.plain "", properties⟩ with
    | error failure => simp [all] at mapped
    | ok written =>
        rw [all] at mapped
        exact ⟨written, (literals_eq_ok_iff platform _).mp all, Except.ok.inj mapped⟩
  · rintro ⟨written, isWritten, rfl⟩
    rw [(literals_eq_ok_iff platform (.plain "")).mpr isWritten]
    rfl

/-- There is a block exactly if every value has a literal. -/
theorem exists_block_iff :
    (∃ text, properties.block platform = .ok text) ↔
      ∀ property ∈ properties, ∃ literal, property.2.literal platform = .ok literal := by
  constructor
  · rintro ⟨text, made⟩
    obtain ⟨written, isWritten, _⟩ := block_eq_ok_iff.mp made
    have literals : List.Forall₂ (fun property pair =>
        (∃ literal, property.2.literal platform = .ok literal) ∧ pair.1 = property.1)
        properties written :=
      isWritten.imp fun _ pair ⟨name, literal⟩ => ⟨⟨pair.2, literal⟩, name⟩
    exact ((List.forall₂_and_left _ _).mp literals).1
  · intro all
    cases made : properties.block platform with
    | ok text => exact ⟨text, rfl⟩
    | error failure =>
        obtain ⟨before, property, after, rfl, _, failed⟩ := block_eq_error_iff.mp made
        obtain ⟨literal, written⟩ := all property (by simp)
        rw [failed] at written
        contradiction

@[simp]
theorem blockText_eq_empty_iff : blockText written = "" ↔ written = [] := by
  cases written with
  | nil => simp [blockText]
  | cons pair written => simp [blockText]

theorem IsWritten.eq_nil_iff (isWritten : properties.IsWritten platform written) :
    written = [] ↔ properties = [] := by
  cases isWritten with
  | nil => simp
  | cons => simp

/-- The block of values that show their numbers reads back in front of a parenthesis or bracket that
closes. -/
theorem IsWritten.readBlock_append (isWritten : properties.IsWritten platform written)
    (shows : ∀ property ∈ properties, property.2.ShowsNumber) {c : Char} (rest : List Char)
    (closes : c = ')' ∨ c = ']') :
    readBlock ((blockText written).toList ++ c :: rest) = some (written, c :: rest) := by
  have notSpace : c ≠ ' ' := by
    rcases closes with rfl | rfl
    · decide
    · decide
  have made := (literals_eq_ok_iff platform (.plain "")).mpr isWritten
  exact Properties.readBlock_append (Extracted.isToken_of_mem_literals shows made) notSpace

/-- Lists that are written alike are written as the same list. -/
theorem IsAlike.isWritten (alike : properties.IsAlike platform others)
    (isWritten : properties.IsWritten platform written) :
    others.IsWritten platform written := by
  induction alike generalizing written with
  | nil => exact isWritten
  | cons same _ ih =>
      cases isWritten with
      | cons first rest =>
          rcases same with ⟨sameName, sameLiteral⟩
          rw [sameName, sameLiteral] at first
          exact .cons first (ih rest)

theorem IsWritten.isAlike (isWritten : properties.IsWritten platform written)
    (also : others.IsWritten platform written) : properties.IsAlike platform others := by
  induction isWritten generalizing others with
  | nil =>
      cases also
      exact .nil
  | cons first _ ih =>
      cases also with
      | cons second rest =>
          have sameName := first.1.symm.trans second.1
          have sameLiteral := first.2.trans second.2.symm
          exact .cons ⟨sameName, sameLiteral⟩ (ih rest)

/-- There is a block of some properties exactly if each value has a literal, and it is empty only
where there are no properties. If the values show their numbers, it is read back as the list of the
names and literals, in order and with all repetitions, in front of every text that starts with a
closing parenthesis or bracket, and exactly this text is left. Another list has the same block
exactly if it has the same names and literals, position by position. -/
theorem readBlock_block (platform : Platform) {properties : Properties}
    (shows : ∀ property ∈ properties, property.2.ShowsNumber) :
    ((∃ text, properties.block platform = .ok text) ↔
      ∀ property ∈ properties, ∃ literal, property.2.literal platform = .ok literal) ∧
    ∀ text, properties.block platform = .ok text →
      (text = "" ↔ properties = []) ∧
      (∃ written, properties.IsWritten platform written ∧
        ∀ c following, (c = ')' ∨ c = ']') →
          readBlock (text.toList ++ c :: following) = some (written, c :: following)) ∧
      ∀ others : Properties, (∀ property ∈ others, property.2.ShowsNumber) →
        (others.block platform = .ok text ↔ properties.IsAlike platform others) := by
  constructor
  · exact exists_block_iff
  · intro text made
    rcases block_eq_ok_iff.mp made with ⟨written, isWritten, rfl⟩
    have reads {c : Char} (rest : List Char) (closes : c = ')' ∨ c = ']') :=
      isWritten.readBlock_append shows rest closes
    constructor
    · rw [blockText_eq_empty_iff, isWritten.eq_nil_iff]
    · constructor
      · exact ⟨written, isWritten, fun _ following closes => reads following closes⟩
      · intro others othersShow
        constructor
        · intro sameBlock
          rcases block_eq_ok_iff.mp sameBlock with ⟨also, alsoWritten, sameText⟩
          -- The reader gives only one list for the text of both.
          have first := reads [] (.inl rfl)
          have second := alsoWritten.readBlock_append othersShow [] (.inl rfl)
          rw [sameText, first] at second
          cases second
          exact isWritten.isAlike alsoWritten
        · intro alike
          exact block_eq_ok_iff.mpr ⟨written, alike.isWritten isWritten, rfl⟩

/-- Names between backticks and values between quotes may look like the rest of a block. -/
theorem readBlock_block_of_lookalikes :
    let properties : Properties :=
      [("k \x7d", .text "v\", k: 1 \x7d"), ("k \x7d", .decimal ⟨true, .finite 110 (-2)⟩)]
    let text := " \x7b \x60k \x7d\x60: \"v\\\", k: 1 \x7d\", \x60k \x7d\x60: -1.10 \x7d"
    properties.block ⟨0, 900⟩ = .ok text ∧
      readBlock (text.toList ++ ")-[".toList) =
        some ([("k \x7d", "\"v\\\", k: 1 \x7d\""), ("k \x7d", "-1.10")], ")-[".toList) := by
  intro properties text
  have shows : ∀ property ∈ properties, property.2.ShowsNumber := by
    simp [properties, Value.ShowsNumber, Value.content, Value.isBareNumber]
  have made : properties.block ⟨0, 900⟩ = .ok text := by rfl
  rcases (readBlock_block ⟨0, 900⟩ shows).2 text made with ⟨_, ⟨written, isWritten, reads⟩, _⟩
  have literals := (literals_eq_ok_iff ⟨0, 900⟩ (.plain "")).mpr isWritten
  cases literals
  exact ⟨made, reads ')' ['-', '['] (.inl rfl)⟩

end Properties

end CypherText
