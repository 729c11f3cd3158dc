import SlashDice.Dice.Roll
import SlashDice.Json.Members

/-!
# Rolls as JSON

A roll is read from an object or from the list of its four values.
-/

namespace SlashDice

open Json Json.Members

/-- Reads a roll; a reason is kept as it is, also when it is blank. -/
def Roll.ofValue? (value : Value) : Option Roll := do
  let members ← Members.ofValue? ["count", "sides", "modifier", "reason"] value
  return {
    count := ← required "count" Value.asUInt32? members
    sides := ← required "sides" Value.asUInt32? members
    modifier := ← required "modifier" Value.asInt32? members
    reason := ← optional "reason" Value.asText? members }

end SlashDice
