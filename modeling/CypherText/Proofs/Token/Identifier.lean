import CypherText.Identifier

/-!
# Reading identifier tokens

A reader takes the token of a name off the front of a text. A bare token is the longest run of
letters, digits and underscores behind a letter; a token between backticks ends at the first
backtick that is not doubled. The reader undoes `tokenOf` in front of every text that cannot
prolong a token, and the tokens that read back as a name are the bare name, if there is one, and
the name between backticks.
-/

namespace CypherText.Identifier

/-- Whether a text cannot prolong a token that stands in front of it. -/
def IsBoundary (rest : List Char) : Prop :=
  ∀ c ∈ rest.head?, isRest c = false ∧ c ≠ '\x60'

@[simp]
theorem isBoundary_nil : IsBoundary [] := by
  simp [IsBoundary]

@[simp]
theorem isBoundary_cons_iff (c : Char) (rest : List Char) :
    IsBoundary (c :: rest) ↔ isRest c = false ∧ c ≠ '\x60' := by
  simp [IsBoundary]

/-- Reads the characters up to the backtick that closes a token, where two backticks stand for
one. -/
def readClosed : List Char → Option (List Char × List Char)
  | [] => none
  | '\x60' :: '\x60' :: rest => (readClosed rest).map fun found => ('\x60' :: found.1, found.2)
  | '\x60' :: rest => some ([], rest)
  | c :: rest => (readClosed rest).map fun found => (c :: found.1, found.2)

/-- Reads an identifier token, and gives the name with the text behind the token. -/
def read (chars : List Char) : Option (String × List Char) :=
  match chars with
  | [] => none
  | c :: rest =>
    if c = '\x60' then
      (readClosed rest).map fun found => (String.ofList found.1, found.2)
    else if c.isAlpha then
      some (String.ofList (chars.takeWhile isRest), chars.dropWhile isRest)
    else
      none

/-- The name that a whole text denotes as an identifier token. -/
def decode? (text : String) : Option String :=
  match read text.toList with
  | some (name, []) => some name
  | _ => none

/-! ## Tokens between backticks -/

theorem doubled_cons_tick (chars : List Char) :
    doubled ('\x60' :: chars) = '\x60' :: '\x60' :: doubled chars :=
  rfl

theorem doubled_cons_of_ne {c : Char} (notTick : c ≠ '\x60') (chars : List Char) :
    doubled (c :: chars) = c :: doubled chars := by
  simp [doubled, notTick]

theorem readClosed_tick {rest : List Char} (single : rest.head? ≠ some '\x60') :
    readClosed ('\x60' :: rest) = some ([], rest) := by
  cases rest with
  | nil => rfl
  | cons c rest =>
      apply readClosed.eq_3
      rintro more equal
      simp [equal] at single

theorem readClosed_of_ne {c : Char} (notTick : c ≠ '\x60') (rest : List Char) :
    readClosed (c :: rest) = (readClosed rest).map fun found => (c :: found.1, found.2) := by
  rw [readClosed.eq_4]
  · rintro more equal
    exact absurd equal notTick
  · exact notTick

/-- Doubled characters are read back up to the backtick behind them. -/
theorem readClosed_doubled_append (chars : List Char) {rest : List Char}
    (single : rest.head? ≠ some '\x60') :
    readClosed (doubled chars ++ '\x60' :: rest) = some (chars, rest) := by
  induction chars with
  | nil => exact readClosed_tick single
  | cons c chars ih =>
      by_cases isTick : c = '\x60'
      · subst c
        simp [doubled_cons_tick, readClosed, ih]
      · simp [doubled_cons_of_ne isTick, readClosed_of_ne isTick, ih]

/-- What is read up to a closing backtick stands there doubled. -/
theorem eq_doubled_of_readClosed {chars name rest : List Char}
    (found : readClosed chars = some (name, rest)) : chars = doubled name ++ '\x60' :: rest := by
  induction chars using readClosed.induct generalizing name with
  | case1 => simp [readClosed] at found
  | case2 more ih =>
      simp only [readClosed, Option.map_eq_some_iff, Prod.mk.injEq] at found
      obtain ⟨⟨inner, left⟩, inside, rfl, rfl⟩ := found
      rw [ih inside, doubled_cons_tick]
      rfl
  | case3 more single =>
      rw [readClosed.eq_3 more single] at found
      simp only [Option.some.injEq, Prod.mk.injEq] at found
      obtain ⟨rfl, rfl⟩ := found
      rfl
  | case4 c more notDouble notTick ih =>
      rw [readClosed_of_ne notTick] at found
      simp only [Option.map_eq_some_iff, Prod.mk.injEq] at found
      obtain ⟨⟨inner, left⟩, inside, rfl, rfl⟩ := found
      rw [ih inside, doubled_cons_of_ne notTick]
      rfl

theorem read_backticked_append (name : List Char) {rest : List Char}
    (single : rest.head? ≠ some '\x60') :
    read (backticked name ++ rest) = some (String.ofList name, rest) := by
  simp [backticked, read, readClosed_doubled_append name single]

/-! ## Bare tokens -/

theorem ne_tick_of_isAlpha {c : Char} (letter : c.isAlpha = true) : c ≠ '\x60' := by
  rintro rfl
  exact absurd letter (by decide)

theorem isRest_of_isAlpha {c : Char} (letter : c.isAlpha = true) : isRest c = true := by
  simp [isRest, Char.isAlphanum, letter]

theorem takeWhile_isRest_append {name rest : List Char} (inside : ∀ c ∈ name, isRest c = true)
    (boundary : IsBoundary rest) : (name ++ rest).takeWhile isRest = name := by
  rw [List.takeWhile_append_of_pos inside]
  cases rest with
  | nil => simp
  | cons c rest =>
      rw [isBoundary_cons_iff] at boundary
      simp [boundary.1]

theorem dropWhile_isRest_append {name rest : List Char} (inside : ∀ c ∈ name, isRest c = true)
    (boundary : IsBoundary rest) : (name ++ rest).dropWhile isRest = rest := by
  rw [List.dropWhile_append_of_pos inside]
  cases rest with
  | nil => simp
  | cons c rest =>
      rw [isBoundary_cons_iff] at boundary
      simp [boundary.1]

theorem isRest_of_mem_of_isBareChars {chars : List Char} (bare : isBareChars chars = true) :
    ∀ c ∈ chars, isRest c = true := by
  cases chars with
  | nil => simp
  | cons first rest =>
      simp only [isBareChars, Bool.and_eq_true, List.all_eq_true] at bare
      intro c member
      rcases List.mem_cons.mp member with rfl | member
      · exact isRest_of_isAlpha bare.1
      · exact bare.2 c member

/-- A bare name is read up to the boundary behind it. -/
theorem read_bare_append {name rest : List Char} (bare : isBareChars name = true)
    (boundary : IsBoundary rest) : read (name ++ rest) = some (String.ofList name, rest) := by
  have inside := isRest_of_mem_of_isBareChars bare
  cases name with
  | nil => simp [isBareChars] at bare
  | cons c name =>
      have letter : c.isAlpha = true := by
        simp only [isBareChars, Bool.and_eq_true] at bare
        exact bare.1
      have run := takeWhile_isRest_append inside boundary
      have left := dropWhile_isRest_append inside boundary
      rw [List.cons_append] at run left ⊢
      simp only [read, ne_tick_of_isAlpha letter, letter, if_true, if_false]
      rw [run, left]

/-! ## Tokens of names -/

/-- The token of a text is read back in front of every text that cannot prolong it. -/
theorem read_tokenOf_append (text : String) {rest : List Char} (boundary : IsBoundary rest) :
    read ((tokenOf text).toList ++ rest) = some (text, rest) := by
  cases bare : isBare text with
  | true =>
      rw [tokenOf_of_isBare bare, read_bare_append bare boundary, String.ofList_toList]
  | false =>
      have single : rest.head? ≠ some '\x60' := by
        intro equal
        exact (boundary '\x60' equal).2 rfl
      rw [tokenOf_of_not_isBare bare, String.toList_ofList, read_backticked_append _ single,
        String.ofList_toList]

/-- What is read off a text stands there bare or between backticks. -/
theorem eq_of_read {chars rest : List Char} {name : String}
    (found : read chars = some (name, rest)) :
    (isBare name = true ∧ chars = name.toList ++ rest) ∨
      chars = backticked name.toList ++ rest := by
  cases chars with
  | nil => simp [read] at found
  | cons c chars =>
      by_cases isTick : c = '\x60'
      · right
        simp only [read, isTick, if_true, Option.map_eq_some_iff, Prod.mk.injEq] at found
        obtain ⟨⟨inner, left⟩, inside, rfl, rfl⟩ := found
        simp [isTick, backticked, eq_doubled_of_readClosed inside]
      · left
        simp only [read, isTick, if_false] at found
        split at found
        · rename_i letter
          simp only [Option.some.injEq, Prod.mk.injEq] at found
          obtain ⟨rfl, rfl⟩ := found
          constructor
          · simp [isBare, isBareChars, isRest_of_isAlpha letter, letter]
          · rw [String.toList_ofList, List.takeWhile_append_dropWhile]
        · contradiction

/-- A whole text denotes a name exactly if it is the bare name or the name between backticks. -/
theorem decode?_eq_some_iff {text name : String} :
    decode? text = some name ↔
      (isBare name = true ∧ text = name) ∨ text = String.ofList (backticked name.toList) := by
  constructor
  · intro decoded
    unfold decode? at decoded
    split at decoded
    · rename_i found
      cases decoded
      rcases eq_of_read found with ⟨bare, equal⟩ | equal
      · left
        rw [List.append_nil] at equal
        exact ⟨bare, String.toList_injective equal⟩
      · right
        rw [List.append_nil] at equal
        rw [← equal, String.ofList_toList]
    · contradiction
  · rintro (⟨bare, rfl⟩ | rfl)
    · have found := read_bare_append bare isBoundary_nil
      rw [List.append_nil, String.ofList_toList] at found
      simp [decode?, found]
    · have found := @read_backticked_append name.toList [] (by simp)
      rw [List.append_nil, String.ofList_toList] at found
      simp [decode?, found]

end CypherText.Identifier
