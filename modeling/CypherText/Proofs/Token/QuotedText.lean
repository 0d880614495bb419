import CypherText.Proofs.Token.Quoted
import Mathlib.Data.Set.Function

/-!
# Reading quoted texts

The pairs of a body are decoded one after the other, and a body that holds a special character as
it is, or a backslash with any other letter, denotes nothing. Decoding undoes escaping, and what it
accepts are exactly the bodies, so escaping is a one-to-one correspondence between all texts and
the bodies. A reader that goes up to the first quote without a backslash in front of it therefore
finds a quoted text in front of every other text, and finds nothing but quoted texts.
-/

namespace CypherText.Quoted

/-- The character that an escape pair with this letter stands for. -/
def unescapeLetter? : Char → Option Char
  | 't' => some '\t'
  | 'b' => some '\x08'
  | 'r' => some '\r'
  | 'n' => some '\n'
  | 'f' => some '\x0c'
  | '\x27' => some '\x27'
  | '"' => some '"'
  | '\\' => some '\\'
  | _ => none

/-- The text that a body denotes. -/
def unescape : List Char → Option (List Char)
  | [] => some []
  | '\\' :: letter :: rest => do
    let c ← unescapeLetter? letter
    let chars ← unescape rest
    return c :: chars
  | c :: rest => if c ∈ specialChars then none else (unescape rest).map (c :: ·)

/-- Reads a quoted text: an opening quote, and a body up to the quote that closes it. -/
def readText (chars : List Char) : Option (String × List Char) :=
  match chars with
  | '"' :: chars => do
    let (body, rest) ← readBody chars
    let text ← unescape body
    return (String.ofList text, rest)
  | _ => none

/-! ## Bodies and texts -/

theorem mem_specialChars_of_escapeLetter? {c letter : Char}
    (escaped : escapeLetter? c = some letter) : c ∈ specialChars := by
  by_contra notSpecial
  simp only [specialChars, List.mem_cons, List.not_mem_nil, or_false, not_or] at notSpecial
  simp [escapeLetter?, notSpecial] at escaped

/-- The pairs are read as they are written. -/
theorem unescapeLetter?_eq_some_iff {letter c : Char} :
    unescapeLetter? letter = some c ↔ escapeLetter? c = some letter := by
  constructor
  · intro found
    unfold unescapeLetter? at found
    split at found <;> cases found <;> rfl
  · intro escaped
    have special := mem_specialChars_of_escapeLetter? escaped
    simp only [specialChars, List.mem_cons, List.not_mem_nil, or_false] at special
    rcases special with rfl | rfl | rfl | rfl | rfl | rfl | rfl | rfl <;> cases escaped <;> rfl

theorem escapeChar_of_not_special {c : Char} (notSpecial : c ∉ specialChars) :
    escapeChar c = [c] := by
  rcases escapeLetter?_cases c with ⟨letter, _, found⟩ | ⟨_, found⟩
  · exact absurd (mem_specialChars_of_escapeLetter? found) notSpecial
  · simp [escapeChar, found]

/-- A text without special characters is quoted as it is. -/
theorem quote_of_forall_not_special {text : String}
    (noSpecial : ∀ c ∈ text.toList, c ∉ specialChars) : quote text = "\"" ++ text ++ "\"" := by
  have same : escapeChars text.toList = text.toList := by
    generalize text.toList = chars at noSpecial
    induction chars with
    | nil => rfl
    | cons c chars ih =>
        obtain ⟨first, others⟩ := List.forall_mem_cons.mp noSpecial
        rw [escapeChars_cons, escapeChar_of_not_special first, ih others, List.singleton_append]
  apply String.toList_injective
  simp [toList_quote, same]

theorem unescape_pair (letter : Char) (rest : List Char) :
    unescape ('\\' :: letter :: rest) =
      (unescapeLetter? letter).bind fun c => (unescape rest).map (c :: ·) := by
  rw [unescape.eq_2]
  cases unescapeLetter? letter with
  | none => rfl
  | some c => cases unescape rest <;> rfl

theorem unescape_of_not_special {c : Char} (notSpecial : c ∉ specialChars) (rest : List Char) :
    unescape (c :: rest) = (unescape rest).map (c :: ·) := by
  rw [unescape.eq_3, if_neg notSpecial]
  rintro _ _ rfl
  exact absurd (by decide) notSpecial

/-- Decoding undoes escaping. -/
theorem unescape_escapeChars (chars : List Char) : unescape (escapeChars chars) = some chars := by
  induction chars with
  | nil => rfl
  | cons c chars ih =>
      rw [escapeChars_cons]
      rcases escapeLetter?_cases c with ⟨letter, _, found⟩ | ⟨notSpecial, _⟩
      · have read := unescapeLetter?_eq_some_iff.mpr found
        simp [escapeChar, found, unescape_pair, read, ih]
      · rw [escapeChar_of_not_special notSpecial, List.singleton_append,
          unescape_of_not_special notSpecial, ih]
        rfl

/-- Only the escaped form of a text is decoded as that text. -/
theorem eq_escapeChars_of_unescape {body chars : List Char} (decoded : unescape body = some chars) :
    body = escapeChars chars := by
  induction body using unescape.induct generalizing chars with
  | case1 =>
      cases decoded
      rfl
  | case2 letter rest ih =>
      rw [unescape_pair] at decoded
      obtain ⟨c, read, decoded⟩ := Option.bind_eq_some_iff.mp decoded
      obtain ⟨more, inside, rfl⟩ := Option.map_eq_some_iff.mp decoded
      rw [escapeChars_cons, ← ih inside]
      simp [escapeChar, unescapeLetter?_eq_some_iff.mp read]
  | case3 c rest notPair special => simp [unescape.eq_3 c rest notPair, special] at decoded
  | case4 c rest notPair notSpecial ih =>
      rw [unescape_of_not_special notSpecial] at decoded
      obtain ⟨more, inside, rfl⟩ := Option.map_eq_some_iff.mp decoded
      rw [escapeChars_cons, ← ih inside, escapeChar_of_not_special notSpecial]
      rfl

/-- A body denotes a text exactly if it is the escaped form of that text. -/
theorem unescape_eq_some_iff {body chars : List Char} :
    unescape body = some chars ↔ body = escapeChars chars := by
  constructor
  · exact eq_escapeChars_of_unescape
  · rintro rfl
    exact unescape_escapeChars chars

theorem unescapeLetter?_of_mem {letter : Char} (isLetter : letter ∈ escapeLetters) :
    ∃ c, unescapeLetter? letter = some c := by
  simp only [escapeLetters, List.mem_cons, List.not_mem_nil, or_false] at isLetter
  rcases isLetter with rfl | rfl | rfl | rfl | rfl | rfl | rfl | rfl <;> exact ⟨_, rfl⟩

/-- What denotes a text are exactly the bodies. -/
theorem isBody_iff_exists_unescape {body : List Char} :
    IsBody body ↔ ∃ chars, unescape body = some chars := by
  constructor
  · intro isBody
    induction isBody with
    | nil => exact ⟨[], rfl⟩
    | plain notSpecial _ ih =>
        obtain ⟨chars, decoded⟩ := ih
        exact ⟨_, by rw [unescape_of_not_special notSpecial, decoded]; rfl⟩
    | escaped isLetter _ ih =>
        obtain ⟨chars, decoded⟩ := ih
        obtain ⟨c, read⟩ := unescapeLetter?_of_mem isLetter
        exact ⟨_, by rw [unescape_pair, read, decoded]; rfl⟩
  · rintro ⟨chars, decoded⟩
    rw [eq_escapeChars_of_unescape decoded]
    exact isBody_escapeChars chars

/-! ## Quoted texts -/

/-- The body that is read stands in front of a quote. -/
theorem eq_append_of_readBody {chars body rest : List Char}
    (found : readBody chars = some (body, rest)) : chars = body ++ '"' :: rest := by
  induction chars using readBody.induct generalizing body with
  | case1 => contradiction
  | case2 more =>
      cases found
      rfl
  | case3 c more ih =>
      rw [readBody.eq_3] at found
      obtain ⟨⟨inner, left⟩, inside, equal⟩ := Option.map_eq_some_iff.mp found
      cases equal
      rw [ih inside]
      rfl
  | case4 c more notPair notQuote ih =>
      rw [readBody.eq_4 c more notPair notQuote] at found
      obtain ⟨⟨inner, left⟩, inside, equal⟩ := Option.map_eq_some_iff.mp found
      cases equal
      rw [ih inside]
      rfl

/-- A quoted text is read back in front of every other text. -/
theorem readText_quote_append (text : String) (rest : List Char) :
    readText ((quote text).toList ++ rest) = some (text, rest) := by
  have inside := readBody_append (isBody_escapeChars text.toList) rest
  rw [toList_quote, List.cons_append, List.cons_append, List.append_assoc,
    List.singleton_append]
  simp [readText, inside, unescape_escapeChars]

/-- Whatever is read is the quoted form of the text that it denotes. -/
theorem eq_quote_of_readText {chars rest : List Char} {text : String}
    (found : readText chars = some (text, rest)) : chars = (quote text).toList ++ rest := by
  unfold readText at found
  split at found
  · rename_i behind
    obtain ⟨⟨body, left⟩, inside, found⟩ := Option.bind_eq_some_iff.mp found
    obtain ⟨decoded, denotes, equal⟩ := Option.bind_eq_some_iff.mp found
    cases equal
    rw [eq_append_of_readBody inside, eq_escapeChars_of_unescape denotes, toList_quote]
    simp
  · contradiction

theorem escape_injective : Function.Injective escape := by
  intro text other equal
  have same := congrArg String.toList equal
  rw [escape, escape, String.toList_ofList, String.toList_ofList] at same
  have decoded := unescape_escapeChars text.toList
  rw [same, unescape_escapeChars] at decoded
  exact (String.toList_injective (Option.some.inj decoded)).symm

/-- The escaped forms of texts are exactly the bodies. -/
theorem isBody_toList_iff {body : String} : IsBody body.toList ↔ ∃ text, body = escape text := by
  rw [isBody_iff_exists_unescape]
  constructor
  · rintro ⟨chars, denotes⟩
    refine ⟨String.ofList chars, String.toList_injective ?_⟩
    rw [eq_escapeChars_of_unescape denotes, escape, String.toList_ofList, String.toList_ofList]
  · rintro ⟨text, rfl⟩
    refine ⟨text.toList, ?_⟩
    rw [escape, String.toList_ofList, unescape_escapeChars]

/-- A text is read off the front of some characters exactly if its quoted form stands there, and
what follows is left. A body denotes a text exactly if it is the escaped form of that text, and
escaping is a bijection from all texts to the bodies. -/
theorem readText_eq_some_iff_and_escape_bijOn :
    (∀ (text : String) (chars rest : List Char),
      readText chars = some (text, rest) ↔ chars = (quote text).toList ++ rest) ∧
    (∀ text body : String, unescape body.toList = some text.toList ↔ body = escape text) ∧
    (∀ body : String, IsBody body.toList ↔
      ∃ text : String, unescape body.toList = some text.toList) ∧
    Set.BijOn escape Set.univ {body : String | IsBody body.toList} := by
  have denotes (text body : String) :
      unescape body.toList = some text.toList ↔ body = escape text := by
    rw [unescape_eq_some_iff, escape, ← String.toList_inj, String.toList_ofList]
  refine ⟨?_, denotes, ?_, ?_, escape_injective.injOn, ?_⟩
  · intro text chars rest
    constructor
    · exact eq_quote_of_readText
    · rintro rfl
      exact readText_quote_append text rest
  · intro body
    rw [isBody_toList_iff]
    exact exists_congr fun text => (denotes text body).symm
  · intro text _
    exact isBody_toList_iff.mpr ⟨text, rfl⟩
  · intro body isBody
    obtain ⟨text, equal⟩ := isBody_toList_iff.mp isBody
    exact ⟨text, Set.mem_univ text, equal.symm⟩

example : readText "\"a\\\\\\\"b\" //\"".toList = some ("a\\\"b", " //\"".toList) := by
  decide

end CypherText.Quoted
