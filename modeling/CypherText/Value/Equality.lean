import CypherText.Number.Quantity
import CypherText.Value.Basic

/-!
# Equality of values

Two values are equal when they mean the same: numbers of all kinds compare by their exact
quantity, byte strings by the bytes that they have, and times with an offset by the moment that
they name. A value of a derived type equals its base. A quiet not-a-number equals nothing, and an
object of an unknown type only itself, so no two that were made apart are equal. A signalling
not-a-number cannot be compared with a number at all. The keys of mappings are the same where they
are equal, but times of day only where they also name the same moment to the microsecond.
-/

namespace CypherText.Value

/-- Whether a value counts as a number. -/
def isNumber (v : Value) : Bool :=
  match v.content with
  | bool _ => true
  | int _ => true
  | double _ => true
  | decimal _ => true
  | _ => false

/-- Whether a value is a signalling not-a-number. -/
def isSignaling (v : Value) : Bool :=
  match v.content with
  | decimal ⟨_, .signalingNaN _⟩ => true
  | _ => false

/-- The exact quantity of a value that counts as a number; a boolean counts as zero or one. -/
def quantity? (v : Value) : Option Quantity :=
  match v.content with
  | bool b => some (.ofInt (if b then 1 else 0))
  | int n => some (.ofInt n)
  | double d => Quantity.ofDouble? d
  | decimal d => Quantity.ofDecimal? d
  | _ => none

/-- Whether two values that count as numbers are equal. -/
def sameQuantity (a b : Value) : Except Failure Bool :=
  if a.isNumber && b.isNumber then
    if a.isSignaling || b.isSignaling then .error .decimalUndefined
    else
      match a.quantity?, b.quantity? with
      | some x, some y => .ok (x == y)
      | _, _ => .ok false
  else
    .ok false

/-- Whether two timestamps name the same moment, or are both naive and alike. -/
def sameMoment (a b : Timestamp) : Bool :=
  match a.instant?, b.instant? with
  | some x, some y => x == y
  | none, none => a.sinceYearOne == b.sinceYearOne
  | _, _ => false

/-- A way in which two times of day may agree. -/
abbrev ClockRelation := Clock → Clock → Bool

/-- Whether two times of day are equal: alike where both are naive or have the same offset, and
otherwise equal in their microseconds and in the whole seconds that they are past midnight in
UTC. -/
def sameClock : ClockRelation := fun a b =>
  match a.zone.offset?, b.zone.offset? with
  | some x, some y =>
    if x = y then a.sinceMidnight == b.sinceMidnight
    else a.secondsInUtc x == b.secondsInUtc y && a.microsecond == b.microsecond
  | none, none => a.sinceMidnight == b.sinceMidnight
  | _, _ => false

/-- Whether two equal times of day also agree to the microsecond when they are moved to UTC. -/
def sameClockKey : ClockRelation := fun a b =>
  sameClock a b &&
    (a.sinceMidnight : Int) - a.zone.offset?.getD 0 ==
      (b.sinceMidnight : Int) - b.zone.offset?.getD 0

/-- Equality of values that have no parts. -/
def sameAtom (clocks : ClockRelation) (a b : Value) : Except Failure Bool :=
  match a, b.content with
  | null, null => .ok true
  | text s, text t => .ok (s == t)
  | timestamp s, timestamp t => .ok (sameMoment s t)
  | date s, date t => .ok (s == t)
  | clock s, clock t => .ok (clocks s t)
  | duration s, duration t => .ok (s == t)
  | bytes kind s, bytes other t =>
    .ok (kind != .view .released && other != .view .released && s == t)
  | uuid s, uuid t => .ok (s == t)
  | _, _ => sameQuantity a b

mutual

/-- Whether two values are equal, where times of day agree in the given way. The keys of
mappings have to be the same keys. -/
def equalsBy : ClockRelation → Value → Value → Except Failure Bool
  | clocks, list items, other =>
    match other.content with
    | list others =>
      if items.length = others.length then equalsAll clocks items others else .ok false
    | _ => .ok false
  | clocks, tuple items, other =>
    match other.content with
    | tuple others => equalsAll clocks items others
    | _ => .ok false
  | _, map entries, other =>
    match other.content with
    | map others => if entries.length = others.length then isWithin entries others else .ok false
    | _ => .ok false
  | clocks, derived _ base _ _, other => equalsBy clocks base other
  | clocks, member .named _ _ value, other => equalsBy clocks value other
  | clocks, member .transparent _ _ value, other => equalsBy clocks value other
  | _, member .bare _ _ _, _ => .ok false
  | _, foreign _ _, _ => .ok false
  | clocks, value, other => sameAtom clocks value other

/-- Whether two lists are equal element by element. Nothing is compared behind the first
difference. -/
def equalsAll : ClockRelation → List Value → List Value → Except Failure Bool
  | _, [], [] => .ok true
  | clocks, v :: rest, other :: others => do
    if ← equalsBy clocks v other then equalsAll clocks rest others else return false
  | _, _, _ => .ok false

/-- Whether every entry has an equal one among the others. -/
def isWithin : List (Value × Value) → List (Value × Value) → Except Failure Bool
  | [], _ => .ok true
  | (key, v) :: rest, others => do
    let found ← others.anyM fun (otherKey, other) => do
      if ← equalsBy sameClockKey key otherKey then equalsBy sameClock v other else return false
    if found then isWithin rest others else return false

end

/-- Whether two values are equal. -/
def equals (a b : Value) : Except Failure Bool :=
  equalsBy sameClock a b

/-- Whether two values are the same key of a mapping. -/
def isSameKey (a b : Value) : Except Failure Bool :=
  equalsBy sameClockKey a b

/-! ## Mappings -/

mutual

/-- Whether a value can be the key of a mapping: nothing that may change can, and neither can a
signalling not-a-number. -/
def isKey : Value → Bool
  | list _ => false
  | map _ => false
  | bytes .mutable _ => false
  | tuple items => areKeys items
  | decimal d => !(decimal d).isSignaling
  | derived _ base _ _ => isKey base
  | member .named _ _ value => isKey value
  | member .transparent _ _ value => isKey value
  | _ => true

/-- Whether all elements of a tuple can be keys. -/
def areKeys : List Value → Bool
  | [] => true
  | v :: rest => isKey v && areKeys rest

end

/-- The entries with one more. A key that is there already keeps its place and gets the new
value. -/
def insertEntry (entries : List (Value × Value)) (key v : Value) :
    Except Failure (List (Value × Value)) :=
  match entries with
  | [] => .ok [(key, v)]
  | (other, old) :: rest => do
    if ← isSameKey key other then return (other, v) :: rest
    else return (other, old) :: (← insertEntry rest key v)

/-- The entries of a mapping after one more was entered, whose key has to be a possible one. -/
def enter (entries : List (Value × Value)) (key v : Value) :
    Except Failure (List (Value × Value)) :=
  if isKey key then insertEntry entries key v else .error .meaningless

end CypherText.Value
