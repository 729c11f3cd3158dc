import SlashDice.Json.Members
import SlashDice.Web.Form

/-!
# Submitted commands

The fields that the chat service submits with a command.  Of a form, unknown
fields are skipped and no known field may be given twice.
-/

namespace SlashDice

open Json Json.Members Web

/-- A submitted command.  Only the text and the user decide about the reply. -/
structure CommandForm where
  text : String := ""
  userId : String := ""
  userName : Option String := none
  teamId : Option String := none
  channelId : Option String := none
  command : Option String := none
  deriving DecidableEq, Repr

namespace CommandForm

def fieldNames : List String :=
  ["text", "user_id", "user_name", "team_id", "channel_id", "command"]

/-- The command in the pairs of a form; if one of its fields is given twice, the
name of the first such field. -/
def ofPairs (pairs : List (String × String)) : Except String CommandForm :=
  match Form.firstRepeated? fieldNames pairs with
  | some field => .error field
  | none =>
    .ok
      { text := (pairs.lookup "text").getD ""
        userId := (pairs.lookup "user_id").getD ""
        userName := pairs.lookup "user_name"
        teamId := pairs.lookup "team_id"
        channelId := pairs.lookup "channel_id"
        command := pairs.lookup "command" }

def ofValue? (value : Value) : Option CommandForm := do
  let members ← Members.ofValue? fieldNames value
  let optionalText := fun field => withDefault field none (nullable Value.asText?) members
  return {
    text := ← withDefault "text" "" Value.asText? members
    userId := ← withDefault "user_id" "" Value.asText? members
    userName := ← optionalText "user_name"
    teamId := ← optionalText "team_id"
    channelId := ← optionalText "channel_id"
    command := ← optionalText "command" }

end CommandForm
end SlashDice
