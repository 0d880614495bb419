import CypherText.Proofs.Token.Number
import CypherText.Proofs.Token.Quoted

/-!
# Literal tokens

A literal is one of the two boolean words, a numeric token, or a body between double quotes. A
reader tells these apart by the first character: behind a quote the token goes up to the closing
quote, and any other token is a run of letters, digits, points and signs. So a literal is read
back in front of every text that starts with none of those characters.
-/

namespace CypherText.Literal

open Numeric Quoted

/-- The literal tokens. -/
inductive IsToken : List Char → Prop
  | yes : IsToken ['t', 'r', 'u', 'e']
  | no : IsToken ['f', 'a', 'l', 's', 'e']
  | number {chars : List Char} (isNumber : IsNumber chars) : IsToken chars
  | quoted {body : List Char} (isBody : IsBody body) : IsToken ('"' :: body ++ ['"'])

/-- Whether a text cannot prolong a literal that stands in front of it. -/
def IsBoundary (rest : List Char) : Prop :=
  ∀ c ∈ rest.head?, isNumberChar c = false

/-- Reads a literal token, and gives it with the text behind it. -/
def read (chars : List Char) : Option (String × List Char) :=
  match chars with
  | [] => none
  | c :: rest =>
    if c = '"' then
      (readBody rest).map fun found => (String.ofList ('"' :: found.1 ++ ['"']), found.2)
    else if isNumberChar c then
      some (String.ofList (chars.takeWhile isNumberChar), chars.dropWhile isNumberChar)
    else
      none

theorem isToken_quote (text : String) : IsToken (quote text).toList := by
  rw [toList_quote]
  exact .quoted (isBody_escapeChars text.toList)

/-- What a literal token may start with. -/
def isFirstChar (c : Char) : Bool :=
  c.isDigit || ['-', 't', 'f', '"'].contains c

/-- A literal token starts with a minus sign, a digit, a quote, or the letter of a boolean word.
-/
theorem IsToken.exists_first {chars : List Char} (isToken : IsToken chars) :
    ∃ first rest, chars = first :: rest ∧ isFirstChar first = true := by
  cases isToken with
  | yes => exact ⟨_, _, rfl, by decide⟩
  | no => exact ⟨_, _, rfl, by decide⟩
  | number isNumber =>
      obtain ⟨first, rest, equal, isMinus | isDigit⟩ := isNumber.exists_first
      · exact ⟨first, rest, equal, by simp [isFirstChar, isMinus]⟩
      · exact ⟨first, rest, equal, by simp [isFirstChar, isDigit]⟩
  | quoted => exact ⟨_, _, rfl, by decide⟩

/-- A text that starts with any other character is no literal token. -/
theorem not_isToken_cons {c : Char} {rest : List Char} (notFirst : isFirstChar c = false) :
    ¬ IsToken (c :: rest) := by
  intro isToken
  obtain ⟨first, others, equal, isFirst⟩ := isToken.exists_first
  cases equal
  rw [notFirst] at isFirst
  contradiction

/-- A token without quotes is a run of letters, digits, points and signs. -/
theorem read_run_append {c : Char} {chars rest : List Char}
    (inside : (c :: chars).all isNumberChar = true) (boundary : IsBoundary rest) :
    read (c :: chars ++ rest) = some (String.ofList (c :: chars), rest) := by
  have all := List.all_eq_true.mp inside
  have first : isNumberChar c = true := all c List.mem_cons_self
  have notQuote : c ≠ '"' := by
    rintro rfl
    exact absurd first (by decide)
  have stop : rest.takeWhile isNumberChar = [] ∧ rest.dropWhile isNumberChar = rest := by
    cases rest with
    | nil => exact ⟨rfl, rfl⟩
    | cons d rest => simp [boundary d rfl]
  have run : (c :: chars ++ rest).takeWhile isNumberChar = c :: chars := by
    rw [List.takeWhile_append_of_pos all, stop.1, List.append_nil]
  have left : (c :: chars ++ rest).dropWhile isNumberChar = rest := by
    rw [List.dropWhile_append_of_pos all, stop.2]
  rw [List.cons_append] at run left ⊢
  simp only [read, notQuote, first, if_true, if_false]
  rw [run, left]

/-- A literal token is read back in front of every text that cannot prolong it. -/
theorem read_append {chars rest : List Char} (isToken : IsToken chars)
    (boundary : IsBoundary rest) : read (chars ++ rest) = some (String.ofList chars, rest) := by
  cases isToken with
  | yes => exact read_run_append (by decide) boundary
  | no => exact read_run_append (by decide) boundary
  | number isNumber =>
      obtain ⟨first, others, rfl, _⟩ := isNumber.exists_first
      exact read_run_append isNumber.all_isNumberChar boundary
  | quoted isBody => simp [read, readBody_append isBody]

end CypherText.Literal
