import CypherText.Clause

/-!
# Buffers

A buffer collects the clauses of a query. The separator is written before a clause exactly when
something was written before it, so empty clauses at the start leave no trace in the text. The
kinds of all clauses are kept beside the text.
-/

namespace CypherText

/-- A text in the making, with the kinds of its clauses. -/
structure Buffer where
  separator : String
  text : String
  kinds : Array ClauseKind
  deriving DecidableEq, Repr

namespace Buffer

/-- A buffer with nothing in it. -/
def empty (separator : String) : Buffer :=
  ⟨separator, "", #[]⟩

/-- Starts a clause of the given kind, on a new line if the buffer holds any text. -/
def startClause (b : Buffer) (kind : ClauseKind) : Buffer :=
  { b with
    text := if b.text.isEmpty then b.text else b.text ++ b.separator
    kinds := b.kinds.push kind }

/-- Writes text into the current clause. -/
def append (b : Buffer) (part : String) : Buffer :=
  { b with text := b.text ++ part }

/-- Writes a whole clause. -/
def write (b : Buffer) (clause : Clause) : Buffer :=
  (b.startClause clause.kind).append clause.text

@[simp]
theorem separator_write (b : Buffer) (clause : Clause) :
    (b.write clause).separator = b.separator :=
  rfl

@[simp]
theorem kinds_write (b : Buffer) (clause : Clause) :
    (b.write clause).kinds = b.kinds.push clause.kind :=
  rfl

/-- Into a buffer without text a clause is written as it is. -/
theorem text_write_of_isEmpty {b : Buffer} (isEmpty : b.text.isEmpty = true) (clause : Clause) :
    (b.write clause).text = b.text ++ clause.text := by
  simp [write, startClause, append, isEmpty]

/-- After other text a clause is written behind the separator. -/
theorem text_write_of_not_isEmpty {b : Buffer} (notEmpty : b.text.isEmpty = false)
    (clause : Clause) : (b.write clause).text = b.text ++ b.separator ++ clause.text := by
  simp [write, startClause, append, notEmpty]

end Buffer

end CypherText
