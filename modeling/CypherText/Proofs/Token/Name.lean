import CypherText.Proofs.Token.Identifier

/-!
# Which texts are tokens of names

The tokens of names are the bare names and those texts between backticks that do not stand for a
bare name. So every name has one token, and no two names share one: a text between backticks that
stands for a bare name reads back as that name, but it is never written.
-/

namespace CypherText.Identifier

/-- One of the letters from A to Z, in either case. -/
def IsLetter (c : Char) : Prop :=
  'A' ≤ c ∧ c ≤ 'Z' ∨ 'a' ≤ c ∧ c ≤ 'z'

/-- A letter, a digit from 0 to 9, or a low line. -/
def IsWordChar (c : Char) : Prop :=
  IsLetter c ∨ '0' ≤ c ∧ c ≤ '9' ∨ c = '_'

/-- A letter, and word characters behind it. -/
inductive IsBareName : List Char → Prop
  | intro {first : Char} {rest : List Char} (letter : IsLetter first)
      (inside : ∀ c ∈ rest, IsWordChar c) : IsBareName (first :: rest)

/-- `IsClosed chars content`: the characters behind an opening backtick that hold `content`, where
two backticks stand for one, and the closing backtick at their end. -/
inductive IsClosed : List Char → List Char → Prop
  | nil : IsClosed ['\x60'] []
  | tick {chars content : List Char} (tail : IsClosed chars content) :
      IsClosed ('\x60' :: '\x60' :: chars) ('\x60' :: content)
  | plain {c : Char} {chars content : List Char} (notTick : c ≠ '\x60')
      (tail : IsClosed chars content) : IsClosed (c :: chars) (c :: content)

/-! ## Bare names -/

theorem isAlpha_iff (c : Char) : c.isAlpha = true ↔ IsLetter c := by
  change (decide ('A' ≤ c ∧ c ≤ 'Z') || decide ('a' ≤ c) && decide (c ≤ 'z')) = true ↔ IsLetter c
  simp [IsLetter]

theorem isRest_iff (c : Char) : isRest c = true ↔ IsWordChar c := by
  simp [isRest, Char.isAlphanum, isAlpha_iff, Char.isDigit, IsWordChar, Char.le_def, or_assoc]

theorem isBareChars_iff (chars : List Char) : isBareChars chars = true ↔ IsBareName chars := by
  cases chars with
  | nil =>
      constructor
      · intro bare
        contradiction
      · rintro ⟨⟩
  | cons first rest =>
      simp only [isBareChars, Bool.and_eq_true, List.all_eq_true, isAlpha_iff, isRest_iff]
      constructor
      · rintro ⟨letter, inside⟩
        exact .intro letter inside
      · rintro ⟨letter, inside⟩
        exact ⟨letter, inside⟩

theorem isBare_iff (text : String) : isBare text = true ↔ IsBareName text.toList :=
  isBareChars_iff text.toList

theorem isBoundary_iff (rest : List Char) :
    IsBoundary rest ↔ ∀ c ∈ rest.head?, ¬ IsWordChar c ∧ c ≠ '\x60' := by
  simp only [IsBoundary, ← isRest_iff, Bool.not_eq_true]

/-! ## Texts between backticks -/

theorem isClosed_doubled (content : List Char) :
    IsClosed (doubled content ++ ['\x60']) content := by
  induction content with
  | nil => exact .nil
  | cons c content ih =>
      by_cases isTick : c = '\x60'
      · subst c
        exact .tick ih
      · rw [doubled_cons_of_ne isTick]
        exact .plain isTick ih

/-- What stands between backticks is the doubled content. -/
theorem isClosed_iff {chars content : List Char} :
    IsClosed chars content ↔ chars = doubled content ++ ['\x60'] := by
  constructor
  · intro closed
    induction closed with
    | nil => rfl
    | tick _ ih => rw [ih, doubled_cons_tick, List.cons_append, List.cons_append]
    | plain notTick _ ih => rw [ih, doubled_cons_of_ne notTick, List.cons_append]
  · rintro rfl
    exact isClosed_doubled content

/-! ## Tokens -/

theorem decode?_tokenOf (name : String) : decode? (tokenOf name) = some name := by
  have found := read_tokenOf_append name isBoundary_nil
  rw [List.append_nil] at found
  simp [decode?, found]

theorem tokenOf_injective : Function.Injective tokenOf := by
  intro name other equal
  have decoded := congrArg decode? equal
  rwa [decode?_tokenOf, decode?_tokenOf, Option.some.injEq] at decoded

/-- A text is the token of some name if it is a bare name, or if it stands between backticks for
something that is none, and in no other case. -/
theorem exists_tokenOf_eq_iff (token : String) :
    (∃ name, tokenOf name = token) ↔
      IsBareName token.toList ∨ ∃ chars content, token.toList = '\x60' :: chars ∧
        IsClosed chars content ∧ ¬ IsBareName content := by
  constructor
  · rintro ⟨name, rfl⟩
    cases bare : isBare name with
    | true =>
        left
        rw [tokenOf_of_isBare bare]
        exact (isBare_iff name).mp bare
    | false =>
        right
        refine ⟨doubled name.toList ++ ['\x60'], name.toList, ?_, isClosed_doubled _, ?_⟩
        · rw [tokenOf_of_not_isBare bare, String.toList_ofList, backticked, List.cons_append]
        · rw [← isBare_iff, bare]
          exact Bool.false_ne_true
  · rintro (bare | ⟨chars, content, shape, closed, notBare⟩)
    · exact ⟨token, tokenOf_of_isBare ((isBare_iff token).mpr bare)⟩
    · have ticked : isBare (String.ofList content) = false := by
        rwa [Bool.eq_false_iff, ne_eq, isBare_iff, String.toList_ofList]
      refine ⟨String.ofList content, ?_⟩
      apply String.toList_injective
      rw [tokenOf_of_not_isBare ticked, String.toList_ofList, String.toList_ofList, shape,
        backticked, isClosed_iff.mp closed, List.cons_append]

/-- In front of every text that does not start with a word character or a backtick the token of a
name is read back as the name, and nothing more is read. The tokens of names are the bare names and
the texts between backticks that stand for something else. Whatever reads back as a name is the
token of some name exactly if it is the token of that name, so no two names share a token. -/
theorem read_tokenOf_and_tokens_of_names :
    (∀ (name : String) (rest : List Char), (∀ c ∈ rest.head?, ¬ IsWordChar c ∧ c ≠ '\x60') →
      read ((tokenOf name).toList ++ rest) = some (name, rest)) ∧
    (∀ token : String, (∃ name, tokenOf name = token) ↔
      IsBareName token.toList ∨ ∃ chars content, token.toList = '\x60' :: chars ∧
        IsClosed chars content ∧ ¬ IsBareName content) ∧
    (∀ token name : String, decode? token = some name →
      ((∃ other, tokenOf other = token) ↔ tokenOf name = token)) ∧
    Function.Injective tokenOf := by
  refine ⟨?_, exists_tokenOf_eq_iff, ?_, tokenOf_injective⟩
  · intro name rest boundary
    exact read_tokenOf_append name ((isBoundary_iff rest).mpr boundary)
  · intro token name decoded
    constructor
    · rintro ⟨other, rfl⟩
      rw [decode?_tokenOf, Option.some.injEq] at decoded
      rw [decoded]
    · intro equal
      exact ⟨name, equal⟩

end CypherText.Identifier
