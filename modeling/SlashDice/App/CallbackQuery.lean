import SlashDice.Json.Members
import SlashDice.Web.Form

/-!
# Callbacks of an installation

What the chat service sends back when an installation was approved or refused.
-/

namespace SlashDice

open Json Json.Members Web

/-- The parameters of a callback. -/
structure CallbackQuery where
  code : Option String := none
  state : Option String := none
  error : Option String := none
  deriving DecidableEq, Repr

namespace CallbackQuery

def fieldNames : List String :=
  ["code", "state", "error"]

/-- The callback in the pairs of a query; if a parameter is given twice, the
name of the first such parameter. -/
def ofPairs (pairs : List (String × String)) : Except String CallbackQuery :=
  match Form.firstRepeated? fieldNames pairs with
  | some field => .error field
  | none =>
    .ok
      { code := pairs.lookup "code"
        state := pairs.lookup "state"
        error := pairs.lookup "error" }

def ofValue? (value : Value) : Option CallbackQuery := do
  let members ← Members.ofValue? fieldNames value
  return {
    code := ← optional "code" Value.asText? members
    state := ← optional "state" Value.asText? members
    error := ← optional "error" Value.asText? members }

end CallbackQuery
end SlashDice
