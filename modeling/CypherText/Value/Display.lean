import CypherText.Bytes
import CypherText.Inspected
import CypherText.Value.Basic

/-!
# Texts of values

A value has two texts. `display` is the text of the value on its own; `inspect` is its text as a
part of a container, where texts are quoted and types that share a notation are told apart. Both
fail exactly where an integer would have to be written that is too long, or where more texts would
have to be made inside one another than there is room for.
-/

namespace CypherText.Value

/-- The name of a member together with that of its enumeration. -/
def memberName (type : TypeRef) (name : String) : String :=
  type.name ++ "." ++ name

/-- The text that a value shows in place of that of its content: the one that an instance of a
derived type has, or the name of a member. -/
def ownText? : Value → Option String
  | derived _ _ shown _ => some shown
  | member .transparent _ _ value => value.ownText?
  | member _ type name _ => some (memberName type name)
  | _ => none

/-- A byte string inside a container. A view shows none of its bytes. -/
def inspectBytes (kind : BytesKind) (type : String) (data : List UInt8) : String :=
  match kind with
  | .immutable => Bytes.inspect data
  | .mutable => type ++ "(" ++ Bytes.inspectMutable data ++ ")"
  | .view .released => "<released memory>"
  | .view _ => "<memory>"

/-- The elements of a tuple between parentheses; a single one is followed by a comma. -/
def tupleText : List String → String
  | [only] => "(" ++ only ++ ",)"
  | forms => "(" ++ ", ".intercalate forms ++ ")"

/-- The room for texts that is left so many levels further inside. -/
def descend (levels room : Nat) : Except Failure Nat :=
  if levels ≤ room then .ok (room - levels) else .error .tooDeep

/-- A text during which so many others are made inside one another. -/
def within (levels room : Nat) (text : String) : Except Failure String := do
  let _ ← descend levels room
  return text

/-- How many texts are made inside one another until the value of a member is shown. -/
def memberLevels : Mixin → Nat
  | .bare => 3
  | _ => 2

mutual

/-- The text of a value as a part of a container, where `room` says how many texts can still be made
inside one another. An instance of a derived type is shown like its base there, but a mutable byte
string by the name of its own type. -/
def inspect (room : Nat) : Value → Except Failure String
  | null => .ok "None"
  | bool b => .ok (if b then "True" else "False")
  | int n => Numeral.ofInt n
  | double d => .ok d.display
  | decimal d => .ok ("Decimal(" ++ Inspected.text d.display ++ ")")
  | text s => .ok (Inspected.text s)
  | timestamp t => within t.clock.zone.levels room t.inspect
  | date d => .ok d.inspect
  | clock c => within c.zone.levels room c.inspect
  | duration d => .ok d.inspect
  | bytes kind data => .ok (inspectBytes kind "bytearray" data)
  | uuid u => within 4 room ("UUID(" ++ Inspected.text u.display ++ ")")
  | list items => do
    let forms ← inspectAll room items
    return "[" ++ ", ".intercalate forms ++ "]"
  | tuple items => do
    let forms ← inspectAll room items
    return tupleText forms
  | map entries => do
    let forms ← inspectEntries room entries
    return "\x7b" ++ ", ".intercalate forms ++ "\x7d"
  | foreign _ shown => within 1 room shown
  | derived type base _ _ =>
    match base.content with
    | bytes .mutable data => .ok (inspectBytes .mutable type.name data)
    | _ => inspect room base
  | member mixin type name value => do
    let form ← inspect (← descend (memberLevels mixin) room) value
    return "<" ++ memberName type name ++ ": " ++ form ++ ">"

/-- The texts of the elements of a list or tuple. -/
def inspectAll (room : Nat) : List Value → Except Failure (List String)
  | [] => .ok []
  | v :: rest => do
    let form ← inspect (← descend 1 room) v
    let forms ← inspectAll room rest
    return form :: forms

/-- The texts of the entries of a mapping: key, colon, value. -/
def inspectEntries (room : Nat) : List (Value × Value) → Except Failure (List String)
  | [] => .ok []
  | (key, v) :: rest => do
    let keyForm ← inspect (← descend 1 room) key
    let form ← inspect (← descend 1 room) v
    let forms ← inspectEntries room rest
    return (keyForm ++ ": " ++ form) :: forms

end

/-- The text of a value on its own. There is always room for that of a value without parts. -/
def display (room : Nat) : Value → Except Failure String
  | text s => .ok s
  | decimal d => .ok d.display
  | timestamp t => .ok (t.isoTextWith " ")
  | date d => .ok d.isoText
  | clock c => .ok c.isoText
  | duration d => .ok d.display
  | uuid u => .ok u.display
  | foreign _ shown => .ok shown
  | derived _ _ shown _ => .ok shown
  | member .transparent _ _ value => display room value
  | member _ type name _ => .ok (memberName type name)
  | value => inspect room value

end CypherText.Value
