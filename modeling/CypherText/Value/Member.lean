import CypherText.Bytes.Encoding
import CypherText.Number.Notation
import CypherText.Value.Arithmetic
import CypherText.Value.Display

/-!
# Values of made types

An enumeration that mixes in numbers or texts turns the value that a member is given into such a
number or text. A tuple gives the arguments of that conversion: a tuple of one element stands
for the element, a second one is the base of a numeral or the encoding of a byte string, and a
third one says what becomes of bytes that the encoding does not allow. Types can be derived from
those of some values.
-/

namespace CypherText.Value

/-! ## Numbers -/

/-- A number that has to be there. -/
def orNoNumber (number : Option α) : Except Failure α :=
  match number with
  | some n => .ok n
  | none => .error .noNumber

/-- The integer that a text denotes. -/
def integerOfText (base : Nat) (text : String) : Except Failure Int :=
  orNoNumber ((Notation.plain? text).bind (Notation.integer? base))

/-- The double that a text denotes. -/
def doubleOfText (text : String) : Except Failure Double :=
  orNoNumber ((Notation.plain? text).bind Notation.double?)

/-- The bytes that can be read as a text or a number: those that lie in one piece. -/
def readableBytes (kind : BytesKind) (data : List UInt8) : Except Failure (List UInt8) :=
  (wholeBytes kind data).mapError fun _ => .meaningless

/-- The characters that a byte string stands for where it is read as a number. -/
def bytesChars (kind : BytesKind) (data : List UInt8) : Except Failure (List Char) := do
  return (← readableBytes kind data).map fun byte => Char.ofNat byte.toNat

/-- The most digits that a decimal may have to be turned into an integer. -/
def maxDigits : Int := Nat.pow 10 7

/-- The whole part of a finite decimal. -/
def wholePart (negative : Bool) (coefficient : Nat) (exponent : Int) : Except Failure Int :=
  let size : Nat :=
    if exponent < -(Decimal.width coefficient) then 0
    else coefficient * Nat.pow 10 (min exponent maxDigits).toNat / Nat.pow 10 (-exponent).toNat
  if maxDigits < exponent ∧ coefficient ≠ 0 then .error .outOfMemory
  else .ok (if negative then -(size : Int) else size)

/-- The integer that a decimal is turned into. -/
def integerOfDecimal (d : Decimal) : Except Failure Int :=
  match d.magnitude with
  | .finite coefficient exponent => wholePart d.negative coefficient exponent
  | .infinite => .error .outOfRange
  | _ => .error .noNumber

/-- The integer that a double is turned into. -/
def integerOfDouble (d : Double) : Except Failure Int :=
  match d.truncate?, d.classify with
  | some n, _ => .ok n
  | none, .infinite _ => .error .outOfRange
  | none, _ => .error .noNumber

/-- The double that a decimal is turned into. -/
def doubleOfDecimal (d : Decimal) : Except Failure Double :=
  match d.magnitude with
  | .finite coefficient exponent => .ok (.ofScientific d.negative coefficient exponent)
  | .infinite => .ok (.infinity d.negative)
  | .quietNaN _ => .ok .notANumber
  | .signalingNaN _ => .error .noNumber

/-- The integer that a value is turned into. -/
def asInteger (v : Value) : Except Failure Int :=
  match v.content with
  | bool b => .ok (if b then 1 else 0)
  | int n => .ok n
  | double d => integerOfDouble d
  | decimal d => integerOfDecimal d
  | text s => integerOfText 10 s
  | bytes kind data => do orNoNumber (Notation.integer? 10 (← bytesChars kind data))
  | uuid u => .ok u.value
  | _ => .error .meaningless

/-- The base that a value stands for: 0, or a number from 2 to 36. -/
def asBase (v : Value) : Except Failure Nat :=
  match v.number? with
  | some (.integer n) => if n = 0 ∨ 2 ≤ n ∧ n ≤ 36 then .ok n.toNat else .error .noNumber
  | _ => .error .meaningless

/-- The integer that a value is turned into as a numeral in the given base. Only texts and byte
strings that own their bytes are numerals. -/
def asIntegerIn (v base : Value) : Except Failure Int := do
  let base ← base.asBase
  match v.content with
  | text s => integerOfText base s
  | bytes (.view _) _ => .error .meaningless
  | bytes kind data => do orNoNumber (Notation.integer? base (← bytesChars kind data))
  | _ => .error .meaningless

/-- The double that a value is turned into. -/
def asDouble (v : Value) : Except Failure Double :=
  match v.content with
  | bool b => toDouble (if b then 1 else 0)
  | int n => toDouble n
  | double d => .ok d
  | decimal d => doubleOfDecimal d
  | text s => doubleOfText s
  | bytes kind data => do orNoNumber (Notation.double? (← bytesChars kind data))
  | _ => .error .meaningless

/-! ## Texts -/

/-- The text that names an encoding or a repair; no zero may stand in it. -/
def asChoice (v : Value) : Except Failure String :=
  match v.text? with
  | some name => if name.toList.contains '\x00' then .error .malformed else .ok name
  | none => .error .meaningless

/-- The text that a byte string is turned into. Where there are no bytes, the names of the
encoding and of the repair do not matter. -/
def decode (v : Value) (encodingName repairName : String) : Except Failure String :=
  match v.content with
  | bytes kind data => do
    let data ← readableBytes kind data
    if data.isEmpty then return ""
    else
      match Encoding.ofName? encodingName with
      | some encoding => encoding.decode repairName data
      | none => throw (.unknownEncoding encodingName)
  | _ => .error .meaningless

/-- The name of the repair where none is given. -/
def standardRepair : String := "strict"

/-- The text that arguments are turned into. -/
def textOf (room : Nat) : List Value → Except Failure String
  | [] => .ok ""
  | [v] => v.display room
  | [v, encoding] => do v.decode (← encoding.asChoice) standardRepair
  | [v, encoding, repair] => do v.decode (← encoding.asChoice) (← repair.asChoice)
  | _ => .error .meaningless

/-! ## Members -/

/-- What an enumeration mixes in. -/
inductive MemberKind where
  /-- Nothing: members have any values. -/
  | any
  | integers
  | doubles
  | texts
  /-- Texts, and a single argument that is none is not turned into one. -/
  | textsOnly
  deriving DecidableEq, Repr

namespace MemberKind

variable (room : Nat)

/-- The failure for an argument that should be a text, which is described by its text inside a
container. -/
def refuse (v : Value) : Except Failure Unit := do
  let _ ← v.inspect room
  throw .meaningless

/-- Refuses an argument that is no text. -/
def demandText (v : Value) : Except Failure Unit :=
  if v.text?.isSome then .ok () else refuse room v

/-- The arguments that an enumeration of texts does not even try to turn into a text. -/
def demandTexts : List Value → Except Failure Unit
  | [] => .ok ()
  | [v] => demandText room v
  | [_, encoding] => demandText room encoding
  | [_, encoding, repair] => do
    demandText room encoding
    demandText room repair
  | arguments => refuse room (.tuple arguments)

/-- Turns arguments into the value of a member. -/
def convert (kind : MemberKind) (arguments : List Value) : Except Failure Value :=
  match kind, arguments with
  | any, _ => .ok (tuple arguments)
  | integers, [] => .ok (int 0)
  | integers, [v] => int <$> v.asInteger
  | integers, [v, base] => int <$> v.asIntegerIn base
  | integers, _ => .error .meaningless
  | doubles, [] => .ok (double (.signed false 0))
  | doubles, [v] => double <$> v.asDouble
  | doubles, _ => .error .meaningless
  | texts, _ => text <$> textOf room arguments
  | textsOnly, _ => do
    demandTexts room arguments
    text <$> textOf room arguments

/-- The value of a member that is given as `v`. -/
def valueOf (kind : MemberKind) (v : Value) : Except Failure Value :=
  match kind, v.content with
  | any, _ => .ok v
  | _, tuple arguments => kind.convert room arguments
  | _, _ => kind.convert room [v]

end MemberKind

/-- Whether a name starts and ends with a single low line, with something else between them. -/
def isUnderlined (name : String) : Bool :=
  match name.toList, name.toList.reverse with
  | '_' :: second :: _ :: _, '_' :: other :: _ => second != '_' && other != '_'
  | _, _ => false

/-- Whether an enumeration can have a member of the given name. -/
def isMemberName (name : String) : Bool :=
  name != "" && name != "mro" && !isUnderlined name

/-- A member of an enumeration, with the value that the enumeration makes of the given one. -/
def memberOf (room : Nat) (mixin : Mixin) (kind : MemberKind) (type : TypeRef) (name : String)
    (v : Value) : Except Failure Value :=
  if isMemberName name then member mixin type name <$> kind.valueOf room v
  else .error .malformed

/-! ## Derived types -/

/-- The value that an instance of a derived type gets from the given one. A text is taken as it
is shown. -/
def base (v : Value) : Except Failure Value :=
  match v with
  | int _ => .ok v
  | double _ => .ok v
  | decimal _ => .ok v
  | text _ => .ok v
  | list _ => .ok v
  | tuple _ => .ok v
  | map _ => .ok v
  | bytes (.view _) _ => .error .meaningless
  | bytes _ _ => .ok v
  | derived type inner shown remaking => do
    match inner.content with
    | text _ => return derived type (text shown) shown remaking
    | _ => return v
  | uuid _ => .error .unsupported
  | member _ _ _ _ => .error .unsupported
  | _ => .error .meaningless

/-- An instance of a type derived from that of `v`. -/
def derivedFrom (type : TypeRef) (v : Value) (shown : String) : Except Failure Value := do
  return derived type (← v.base) shown .made

end CypherText.Value
