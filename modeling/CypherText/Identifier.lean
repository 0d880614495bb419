/-!
# Identifier tokens

A variable, label, relationship type or property name is written bare when it is one ASCII
letter followed by ASCII letters, digits and underscores. Any other name, the empty one
included, stands between backticks, and a backtick inside it is written twice.
-/

namespace CypherText

/-- A name as a query sees it: its characters, and the form in which it shows itself when it is
printed as it is. The two are the same unless the object that carries the name overrides its
printed form. -/
structure Name where
  text : String
  shown : String
  deriving DecidableEq, Repr

namespace Name

/-- A name that shows its own characters. -/
def plain (text : String) : Name :=
  ⟨text, text⟩

@[simp]
theorem text_plain (text : String) : (plain text).text = text :=
  rfl

@[simp]
theorem shown_plain (text : String) : (plain text).shown = text :=
  rfl

end Name

namespace Identifier

/-- The characters that may follow the first letter of a bare name. -/
def isRest (c : Char) : Bool :=
  c.isAlphanum || c == '_'

/-- Whether the characters form a bare name. -/
def isBareChars : List Char → Bool
  | [] => false
  | c :: rest => c.isAlpha && rest.all isRest

/-- Whether `text` can stand in a query without backticks. -/
def isBare (text : String) : Bool :=
  isBareChars text.toList

/-- The characters with every backtick written twice. -/
def doubled (chars : List Char) : List Char :=
  chars.flatMap fun c => if c = '\x60' then ['\x60', '\x60'] else [c]

/-- The characters between backticks, with the inner ones doubled. -/
def backticked (chars : List Char) : List Char :=
  '\x60' :: doubled chars ++ ['\x60']

/-- The token of a name. A bare name is printed as it shows itself; for any other the characters
are put between backticks. -/
def token (name : Name) : String :=
  if isBare name.text then name.shown else String.ofList (backticked name.text.toList)

/-- The token of a text that shows its own characters. -/
def tokenOf (text : String) : String :=
  token (.plain text)

theorem tokenOf_of_isBare {text : String} (bare : isBare text = true) : tokenOf text = text := by
  simp [tokenOf, token, bare]

theorem tokenOf_of_not_isBare {text : String} (notBare : isBare text = false) :
    tokenOf text = String.ofList (backticked text.toList) := by
  simp [tokenOf, token, notBare]

end Identifier

end CypherText
