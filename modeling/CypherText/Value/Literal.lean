import CypherText.Quoted
import CypherText.Value.Display

/-!
# Literals

How a value is written in a query. Booleans, integers of 64 bits and finite numbers are written
bare; everything else is a quoted text.
-/

namespace CypherText

/-- What literals take from the machine on which they are made. -/
structure Platform where
  /-- The offset of local time, in seconds east of UTC. -/
  localOffset : Int
  /-- How many texts can be made inside the text of a value, one inside the other. -/
  room : Nat
  deriving Repr

namespace Value

/-- The least integer that a query can hold as a number. -/
def minInteger : Int := -(Nat.pow 2 63)

/-- The greatest integer that a query can hold as a number. -/
def maxInteger : Int := Nat.pow 2 63 - 1

/-- Whether a query can hold an integer as a number. -/
def isNativeInteger (n : Int) : Bool :=
  minInteger ≤ n && n ≤ maxInteger

/-- The text of a timestamp in a query. One without an offset is converted to local time, by its own
class: where that finds the parts of the new timestamp impossible, the old one is written. -/
def timestampText (localOffset : Int) (remaking : Remaking) (t : Timestamp) :
    Except Failure String :=
  match remaking with
  | .made => .ok (t.localized localOffset).isoText
  | .refused failure _ =>
    if t.isConverted localOffset && !failure.isOfValue then .error failure else .ok t.isoText

/-- The text of a byte string in a query. -/
def base64Text (kind : BytesKind) (data : List UInt8) : Except Failure String := do
  return String.ofList (Bytes.base64 (← wholeBytes kind data))

/-- The literal of a value. The kind of its content decides how it is written. Numbers and
values without a notation of their own are written by the text that the value itself shows;
texts, timestamps and byte strings by their content. -/
def literal (platform : Platform) (v : Value) : Except Failure String :=
  let display := v.display platform.room
  match v.content with
  | bool b => .ok (if b then "true" else "false")
  | int n => if isNativeInteger n then display else Quoted.quote <$> display
  | double d => if d.isFinite then display else Quoted.quote <$> display
  | decimal d => if d.isFinite then display else Quoted.quote <$> display
  | text s => .ok (Quoted.quote s)
  | timestamp t => Quoted.quote <$> timestampText platform.localOffset v.remaking t
  | bytes kind data => Quoted.quote <$> base64Text kind data
  | _ => Quoted.quote <$> display

end Value

end CypherText
