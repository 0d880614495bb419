import CypherText.Number.Decimal.Arithmetic
import CypherText.Number.Double.Arithmetic
import CypherText.Value.Basic

/-!
# Arithmetic of values

Numbers can be subtracted from each other, durations from durations, dates and timestamps, and
dates and timestamps from their own kind. The binary digits of integers can be moved to the left
and to the right. Other values have no arithmetic.
-/

namespace CypherText.Value

/-! ## Numbers -/

/-- The three kinds of numbers. -/
inductive Number where
  | integer (value : Int)
  | double (value : Double)
  | decimal (value : Decimal)
  deriving Repr

/-- The number that a value counts as; a boolean counts as zero or one. -/
def number? (v : Value) : Option Number :=
  match v.content with
  | bool b => some (.integer (if b then 1 else 0))
  | int n => some (.integer n)
  | double d => some (.double d)
  | decimal d => some (.decimal d)
  | _ => none

/-- The integer as a double. -/
def toDouble (n : Int) : Except Failure Double :=
  match Double.ofInt? n with
  | some d => .ok d
  | none => .error .outOfRange

namespace Number

/-- The difference of two numbers. An integer goes with all kinds of numbers, but a double and a
decimal do not go together. -/
def minus : Number → Number → Except Failure Value
  | integer m, integer n => .ok (.int (m - n))
  | double d, double e => .ok (.double (d.subtract e))
  | integer m, double e => do return .double ((← toDouble m).subtract e)
  | double d, integer n => do return .double (d.subtract (← toDouble n))
  | decimal d, decimal e => Value.decimal <$> d.subtract e
  | integer m, decimal e => Value.decimal <$> (Decimal.ofInt m).subtract e
  | decimal d, integer n => Value.decimal <$> d.subtract (Decimal.ofInt n)
  | double _, decimal _ => .error .meaningless
  | decimal _, double _ => .error .meaningless

end Number

/-! ## Shifts -/

/-- The greatest number of places by which an integer is moved to the left. -/
def maxShift : Nat := Nat.pow 2 33

/-- The number of places past which the digits of an integer cannot even be counted. -/
def shiftLimit : Nat := 30 * Nat.pow 2 61

/-- An integer with its binary digits moved to the left. -/
def shiftLeft (n places : Int) : Except Failure Int :=
  if places < 0 then .error .negativeShift
  else if n = 0 then .ok 0
  else if places.toNat ≤ maxShift then .ok (n * Nat.pow 2 places.toNat)
  else if places.toNat < shiftLimit then .error .outOfMemory
  else .error .outOfRange

/-- An integer with its binary digits moved to the right; those behind the point are dropped.
When none are left, only the sign tells the result. -/
def shiftRight (n places : Int) : Except Failure Int :=
  if places < 0 then .error .negativeShift
  else if n.natAbs.log2 < places.toNat then .ok (if n < 0 then -1 else 0)
  else .ok (n.fdiv (Nat.pow 2 places.toNat))

/-- Applies a shift to two values that count as integers. -/
def shiftWith (shift : Int → Int → Except Failure Int) (a b : Value) : Except Failure Value :=
  match a.number?, b.number? with
  | some (.integer n), some (.integer places) => int <$> shift n places
  | _, _ => .error .meaningless

/-! ## Times -/

/-- A time that the calendar has, or else a failure. -/
def inRange (result : Option Value) : Except Failure Value :=
  match result with
  | some v => .ok v
  | none => .error .outOfRange

/-- The difference of two values. -/
def minus (a b : Value) : Except Failure Value :=
  match a.content, b.content with
  | timestamp t, timestamp u =>
    match t.minus? u with
    | some d => .ok (duration d)
    | none => .error .meaningless
  | timestamp t, duration d => inRange ((t.earlier? d).map timestamp)
  | date d, date e => .ok (duration (.ofDays ((d.ordinal : Int) - e.ordinal)))
  | date d, duration e => inRange ((d.earlier? e.days).map date)
  | duration d, duration e => inRange ((d.minus? e).map duration)
  | _, _ =>
    match a.number?, b.number? with
    | some m, some n => m.minus n
    | _, _ => .error .meaningless

end CypherText.Value
