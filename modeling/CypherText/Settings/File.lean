import CypherText.Blank
import CypherText.Entries

/-!
# Settings files

A settings file is a sequence of bindings, one on a line: a name, an equals sign and a value. A
name without an equals sign is bound to nothing. The word `export` may precede a name, and a
name may stand between single quotes. A value extends to the end of its line or to a comment, or
it stands between quotes, where it may have several lines and escapes. What is no binding is
passed over together with the rest of its line. A value may refer to names that are bound before
it, and to variables of the environment.
-/

namespace CypherText.SettingsFile

/-- A name, and the value that it is bound to, if any. -/
structure Binding where
  name : String
  value : Option String
  deriving DecidableEq, Repr

/-! ## Lines -/

/-- The mark that may stand at the start of a file and says how its bytes are ordered. -/
def orderMark : Char := '\uFEFF'

/-- The characters of a file without its mark. -/
def withoutMark : List Char → List Char
  | c :: rest => if c = orderMark then rest else c :: rest
  | [] => []

/-- The characters with a line feed at the end of each line, which may also be a carriage return
or both. -/
def withLineFeeds : List Char → List Char
  | '\r' :: '\n' :: rest => '\n' :: withLineFeeds rest
  | '\r' :: rest => '\n' :: withLineFeeds rest
  | c :: rest => c :: withLineFeeds rest
  | [] => []

/-- Whether a character is a blank inside a line. -/
def isInlineBlank (c : Char) : Bool :=
  Blank.isBlank c && c != '\n'

/-- What is behind the blanks inside a line. -/
def skipBlanks (chars : List Char) : List Char :=
  chars.dropWhile isInlineBlank

/-- The rest of a line. -/
def restOfLine (chars : List Char) : List Char :=
  chars.takeWhile (· != '\n')

/-- What is behind the rest of a line. -/
def skipLine (chars : List Char) : List Char :=
  (chars.dropWhile (· != '\n')).drop 1

/-- What is behind a line of which nothing is left but a comment. -/
def endLine? (chars : List Char) : Option (List Char) :=
  let rest := skipBlanks chars
  match rest with
  | [] => some []
  | c :: _ => if c = '#' ∨ c = '\n' then some (skipLine rest) else none

/-! ## Names -/

/-- What is behind the word that may precede a name. -/
def skipExport (chars : List Char) : List Char :=
  let word := "export".toList
  let rest := chars.drop word.length
  if word.isPrefixOf chars ∧ rest.head?.any isInlineBlank then skipBlanks rest else chars

/-- Whether a character can stand in a name without quotes. -/
def isNameChar (c : Char) : Bool :=
  c != '=' && c != '#' && !Blank.isBlank c

/-- Reads a name between single quotes, of which the first one has been read. -/
def readQuotedName (chars : List Char) : Option (String × List Char) :=
  let name := chars.takeWhile (· != '\x27')
  match chars.dropWhile (· != '\x27') with
  | _ :: rest => if name.isEmpty then none else some (String.ofList name, rest)
  | [] => none

/-- Reads a name. -/
def readName (chars : List Char) : Option (String × List Char) :=
  match chars with
  | '\x27' :: rest => readQuotedName rest
  | _ =>
    let name := chars.takeWhile isNameChar
    if name.isEmpty then none else some (String.ofList name, chars.dropWhile isNameChar)

/-! ## Values -/

/-- What the letters mean that follow a backslash between single quotes. -/
def singleEscapes : List (Char × Char) :=
  [('\\', '\\'), ('\x27', '\x27')]

/-- What the letters mean that follow a backslash between double quotes. -/
def doubleEscapes : List (Char × Char) :=
  [('\\', '\\'), ('\x27', '\x27'), ('"', '"'), ('a', '\x07'), ('b', '\x08'), ('f', '\x0c'),
    ('n', '\n'), ('r', '\r'), ('t', '\t'), ('v', '\x0b')]

/-- The characters with the escapes replaced by what they mean. -/
def unescape (escapes : List (Char × Char)) : List Char → List Char
  | '\\' :: c :: rest =>
    match escapes.lookup c with
    | some meaning => meaning :: unescape escapes rest
    | none => '\\' :: unescape escapes (c :: rest)
  | c :: rest => c :: unescape escapes rest
  | [] => []

/-- Splits a text at the quote that ends it: the first one that is not escaped or, where there
is none, the last one. A backslash escapes a quote or a backslash, but not if it is escaped
itself. -/
def splitAtQuote (quote : Char) : List Char → Option (List Char × List Char)
  | [] => none
  | [c] => if c = quote then some ([], []) else none
  | c :: d :: rest =>
    if c = quote then some ([], d :: rest)
    else if c = '\\' ∧ (d = quote ∨ d = '\\') then
      match splitAtQuote quote rest with
      | some (content, behind) => some (c :: d :: content, behind)
      | none => if d = quote then some ([c], rest) else none
    else
      (splitAtQuote quote (d :: rest)).map fun (content, behind) => (c :: content, behind)

/-- Reads a value between quotes, of which the first one has been read. -/
def readQuoted (quote : Char) (escapes : List (Char × Char)) (chars : List Char) :
    Option (List Char × List Char) :=
  (splitAtQuote quote chars).map fun (content, rest) => (unescape escapes content, rest)

/-- A value without the comment that may follow it after a blank. -/
def withoutComment : List Char → List Char
  | [] => []
  | c :: rest =>
    if Blank.isBlank c ∧ (Blank.trimStart rest).head? = some '#' then []
    else c :: withoutComment rest

/-- Reads the value behind an equals sign. A number sign that follows blanks is no value but
starts a comment. -/
def readValue (chars : List Char) : Option (List Char × List Char) :=
  let rest := skipBlanks chars
  match rest with
  | '\x27' :: content => readQuoted '\x27' singleEscapes content
  | '"' :: content => readQuoted '"' doubleEscapes content
  | _ =>
    if chars.head?.any isInlineBlank ∧ rest.head? = some '#' then some ([], rest)
    else
      some (Blank.trimEnd (withoutComment (restOfLine rest)), rest.dropWhile (· != '\n'))

/-! ## Bindings -/

/-- Reads the value of a name, if it has one. -/
def readAssignment (chars : List Char) : Option (Option String × List Char) :=
  match skipBlanks chars with
  | '=' :: rest => (readValue rest).map fun (value, rest) => (some (String.ofList value), rest)
  | rest => some (none, rest)

/-- Reads what stands on a line, and gives what is behind it. -/
def readBinding (line : List Char) : Option Binding × List Char :=
  let chars := skipExport line
  if chars.head? = some '#' then (none, skipLine chars)
  else
    match readName chars with
    | none => (none, skipLine chars)
    | some (name, rest) =>
      match readAssignment rest with
      | none => (none, skipLine rest)
      | some (value, rest) =>
        match endLine? rest with
        | some behind => (some ⟨name, value⟩, behind)
        | none => (none, skipLine rest)

/-- Reads all bindings; `left` is a bound on their number. -/
def readBindings : Nat → List Char → List Binding
  | 0, _ => []
  | left + 1, chars =>
    let line := Blank.trimStart chars
    if line.isEmpty then []
    else
      let (binding, rest) := readBinding line
      binding.toList ++ readBindings left rest

/-- The bindings of a file. -/
def bindings (text : String) : List Binding :=
  let chars := withLineFeeds (withoutMark text.toList)
  readBindings chars.length chars

/-! ## References -/

/-- The name of a reference, its default, and what is behind it, where the dollar sign and the
brace have been read. -/
def readReference (chars : List Char) : Option (String × String × List Char) :=
  let name := chars.takeWhile fun c => c != '\x7d' && c != ':'
  match chars.drop name.length with
  | '\x7d' :: rest => some (String.ofList name, "", rest)
  | ':' :: '-' :: more =>
    let default := more.takeWhile (· != '\x7d')
    match more.drop default.length with
    | _ :: rest => some (String.ofList name, String.ofList default, rest)
    | [] => none
  | _ => none

/-- The characters with all references replaced by what they refer to; `left` is a bound on the
number of steps. -/
def resolve (value? : String → Option String) : Nat → List Char → List Char
  | 0, chars => chars
  | _ + 1, [] => []
  | left + 1, c :: rest =>
    let reference := match c, rest with
      | '$', '\x7b' :: more => readReference more
      | _, _ => none
    match reference with
    | some (name, default, behind) =>
      ((value? name).getD default).toList ++ resolve value? left behind
    | none => c :: resolve value? left rest

/-- What a name refers to: the value that it is bound to, which is empty if it is bound to
nothing, or else a variable of the environment. -/
def referent? (environment : Entries String) (bound : Entries (Option String)) (name : String) :
    Option String :=
  match bound.get? name with
  | some value => some (value.getD "")
  | none => environment.get? name

/-- The bound names with one more. A name that is bound again keeps its place. -/
def bind (environment : Entries String) (bound : Entries (Option String)) (binding : Binding) :
    Entries (Option String) :=
  bound.put binding.name (binding.value.map fun value =>
    String.ofList (resolve (referent? environment bound) value.length value.toList))

/-- The names that a file binds, with their last values. -/
def entries (environment : Entries String) (text : String) : Entries (Option String) :=
  (bindings text).foldl (bind environment) []

end CypherText.SettingsFile
