import CypherText.Entries
import CypherText.Identifier
import CypherText.Value.Literal

/-!
# Property blocks

Properties are pairs of a name and a value, written in the given order; repeated names are kept.
-/

namespace CypherText

/-- Named values in a fixed order. -/
abbrev Properties := Entries Value

namespace Properties

/-- One property: the token of its name, a colon, and the literal of its value. -/
def pair (platform : Platform) (property : String × Value) : Except Failure String := do
  let literal ← property.2.literal platform
  return Identifier.tokenOf property.1 ++ ": " ++ literal

/-- The block of some properties, with the space that sets it off from what it follows. No
properties have no block. -/
def block (platform : Platform) (properties : Properties) : Except Failure String :=
  match properties with
  | [] => .ok ""
  | properties => do
    let pairs ← properties.mapM (pair platform)
    return " \x7b " ++ ", ".intercalate pairs ++ " \x7d"

end Properties

end CypherText
