import CypherText.Identifier
import CypherText.Value.Display

/-!
# Values as names

A value that counts as text can name a node or a type. Its characters are those of its content;
the form in which it shows itself may differ.
-/

namespace CypherText.Value

/-- The name that a value gives, if it counts as text. -/
def name? (v : Value) : Option Name :=
  v.text?.map fun chars => ⟨chars, v.ownText?.getD chars⟩

@[simp]
theorem name?_text (s : String) : (text s).name? = some (.plain s) :=
  rfl

end CypherText.Value
