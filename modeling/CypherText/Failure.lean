import CypherText.Clause

/-!
# Causes of failure

`Fault` lists what the library itself reports and logs; `Failure` adds the causes that it does
not report. The wording of a fault is in `CypherText.Report`.
-/

namespace CypherText

/-- A misuse of the library that it reports and logs. -/
inductive Fault where
  /-- No type name and properties can be read off an entity of the type with this path. -/
  | unextractable (typePath : String)
  /-- A relate clause got one half of a declaration, of the named type. -/
  | incompleteDeclaration (form : RelateForm) (received : String)
  /-- A relate clause got something that is no declaration, of the named type. -/
  | notADeclaration (form : RelateForm) (received : String)
  /-- A return clause got no items. -/
  | emptyResult
  /-- Something of the named type stood where an expression or a builder was expected. -/
  | notAnExpression (received : String)
  deriving DecidableEq, Repr

/-- Why an operation has no result. -/
inductive Failure where
  /-- The library reports and logs this misuse. -/
  | fault (fault : Fault)
  /-- An integer with too many digits had to be written. -/
  | numeralTooLong
  /-- A tuple has more or fewer values than names. -/
  | unequalFieldCount
  /-- An operator has no meaning for its operands. -/
  | meaningless
  /-- A property name is taken by a parameter of the call. -/
  | reservedProperty (name : String)
  /-- The object does not offer the operation. -/
  | unsupported
  /-- A text is not among those that name a choice. -/
  | unknownChoice (text : String)
  /-- The digits of an integer were to be moved by a negative number of places. -/
  | negativeShift
  /-- A value stands for no number. -/
  | noNumber
  /-- A number or a time leaves the range of its kind. -/
  | outOfRange
  /-- An integer has too many digits to be kept. -/
  | outOfMemory
  /-- A decimal is too large. -/
  | decimalTooLarge
  /-- An operation on decimals has no result, or a decimal leaves the range of its kind. -/
  | decimalUndefined
  /-- The calendar, the clock or the zones have no time with such parts. -/
  | noSuchTime
  /-- A text does not have the form that is asked for. -/
  | malformed
  /-- The bytes of a number are too few or too many. -/
  | wrongSize
  /-- A variable of the environment has an empty name. -/
  | namelessVariable
  /-- Nothing has the given name. -/
  | unknownName (name : String)
  /-- No encoding of texts has the given name. -/
  | unknownEncoding (name : String)
  /-- An encoding does not allow the given bytes. -/
  | undecodableBytes
  /-- A text had to be made inside too many others. -/
  | tooDeep
  /-- The bytes of a view do not lie one behind the other. -/
  | scattered
  /-- A view was given back and has no bytes any more. -/
  | released
  deriving DecidableEq, Repr

namespace Failure

/-- Whether the failure is one that the library reports and logs. -/
def isFault : Failure → Bool
  | fault _ => true
  | _ => false

/-- Whether a value of a right kind was not a possible one. Some operations are prepared for such a
failure, and for no other. -/
def isOfValue : Failure → Bool
  | numeralTooLong => true
  | unequalFieldCount => true
  | unknownChoice _ => true
  | negativeShift => true
  | noNumber => true
  | outOfRange => true
  | noSuchTime => true
  | malformed => true
  | undecodableBytes => true
  | released => true
  | _ => false

end Failure

/-- Two steps in a row give a result exactly if the first one does, and the second one on that
result. -/
theorem Except.bind_eq_ok_iff {ε α β : Type} {first : Except ε α} {next : α → Except ε β} {b : β} :
    (first >>= next) = .ok b ↔ ∃ a, first = .ok a ∧ next a = .ok b := by
  cases first with
  | error failure => simp [bind, Except.bind]
  | ok a => simp [bind, Except.bind]

end CypherText
