/-!
# Quoted text tokens

A string literal of a query is a body between two double quotes. Eight characters cannot stand
in the body as they are: each is written as a backslash and one letter. Every other character,
non-ASCII included, stands for itself, so the body never holds a bare quote and the closing
quote is unambiguous.
-/

namespace CypherText.Quoted

/-- The character that follows the backslash where `c` has to be escaped, and `none` where `c`
stands for itself. -/
def escapeLetter? (c : Char) : Option Char :=
  if c = '\t' then some 't'
  else if c = '\x08' then some 'b'
  else if c = '\r' then some 'r'
  else if c = '\n' then some 'n'
  else if c = '\x0c' then some 'f'
  else if c = '\x27' then some '\x27'
  else if c = '"' then some '"'
  else if c = '\\' then some '\\'
  else none

/-- One character of the text as it stands in the body. -/
def escapeChar (c : Char) : List Char :=
  match escapeLetter? c with
  | some letter => ['\\', letter]
  | none => [c]

/-- The body of the literal that holds `chars`. -/
def escapeChars (chars : List Char) : List Char :=
  chars.flatMap escapeChar

@[simp]
theorem escapeChars_nil : escapeChars [] = [] :=
  rfl

@[simp]
theorem escapeChars_cons (c : Char) (chars : List Char) :
    escapeChars (c :: chars) = escapeChar c ++ escapeChars chars :=
  rfl

/-- Escaping works character by character. -/
@[simp]
theorem escapeChars_append (chars more : List Char) :
    escapeChars (chars ++ more) = escapeChars chars ++ escapeChars more := by
  simp [escapeChars]

/-- The text with the eight special characters escaped, without surrounding quotes. -/
def escape (text : String) : String :=
  String.ofList (escapeChars text.toList)

/-- The literal that holds `text`: its escaped form between double quotes. -/
def quote (text : String) : String :=
  String.ofList ('"' :: escapeChars text.toList ++ ['"'])

end CypherText.Quoted
