import CypherText.Quoted

/-!
# Bodies of quoted tokens

The body of a quoted token is made of escape pairs and of characters that stand for themselves.
No body holds a bare quote, and a backslash always takes the next character with it, so a reader
that goes up to the first quote without a backslash in front of it finds exactly the body,
whatever follows.
-/

namespace CypherText.Quoted

/-- The characters that cannot stand in a body as they are. -/
def specialChars : List Char :=
  ['\t', '\x08', '\r', '\n', '\x0c', '\x27', '"', '\\']

/-- The letters of the escape pairs. -/
def escapeLetters : List Char :=
  ['t', 'b', 'r', 'n', 'f', '\x27', '"', '\\']

/-- The bodies of quoted tokens. -/
inductive IsBody : List Char → Prop
  | nil : IsBody []
  | plain {c : Char} {rest : List Char} (notSpecial : c ∉ specialChars) (isBody : IsBody rest) :
      IsBody (c :: rest)
  | escaped {letter : Char} {rest : List Char} (isLetter : letter ∈ escapeLetters)
      (isBody : IsBody rest) : IsBody ('\\' :: letter :: rest)

/-- Reads the body of a token up to the first quote that is not behind a backslash. -/
def readBody : List Char → Option (List Char × List Char)
  | [] => none
  | '"' :: rest => some ([], rest)
  | '\\' :: c :: rest => (readBody rest).map fun found => ('\\' :: c :: found.1, found.2)
  | c :: rest => (readBody rest).map fun found => (c :: found.1, found.2)

/-- A special character is escaped by one of the letters, and no other character is. -/
theorem escapeLetter?_cases (c : Char) :
    (∃ letter ∈ escapeLetters, escapeLetter? c = some letter) ∨
      c ∉ specialChars ∧ escapeLetter? c = none := by
  by_cases special : c ∈ specialChars
  · left
    have escaped : specialChars.all
        (fun c => escapeLetters.any fun letter => escapeLetter? c == some letter) = true := by
      decide
    obtain ⟨letter, isLetter, found⟩ :=
      List.any_eq_true.mp (List.all_eq_true.mp escaped c special)
    exact ⟨letter, isLetter, beq_iff_eq.mp found⟩
  · right
    refine ⟨special, ?_⟩
    simp only [specialChars, List.mem_cons, List.not_mem_nil, or_false, not_or] at special
    simp [escapeLetter?, special]

theorem isBody_escapeChars (chars : List Char) : IsBody (escapeChars chars) := by
  induction chars with
  | nil => exact .nil
  | cons c chars ih =>
      rw [escapeChars_cons]
      rcases escapeLetter?_cases c with ⟨letter, isLetter, found⟩ | ⟨notSpecial, found⟩
      · simpa [escapeChar, found] using IsBody.escaped isLetter ih
      · simpa [escapeChar, found] using IsBody.plain notSpecial ih

/-- A body is read up to the quote behind it. -/
theorem readBody_append {body : List Char} (isBody : IsBody body) (rest : List Char) :
    readBody (body ++ '"' :: rest) = some (body, rest) := by
  induction isBody with
  | nil => rfl
  | @plain c body notSpecial _ ih =>
      have notQuote : c ≠ '"' := by
        rintro rfl
        exact notSpecial (by decide)
      have notBackslash : c ≠ '\\' := by
        rintro rfl
        exact notSpecial (by decide)
      rw [List.cons_append, readBody.eq_4, ih]
      · rfl
      · exact notQuote
      · rintro _ _ isBackslash
        exact absurd isBackslash notBackslash
  | escaped _ _ ih => simp [readBody, ih]

theorem toList_quote (text : String) :
    (quote text).toList = '"' :: escapeChars text.toList ++ ['"'] := by
  rw [quote, String.toList_ofList]

end CypherText.Quoted
