import SlashDice.Json.Members
import SlashDice.Settings.Basic

/-!
# Settings as JSON

Settings are read from an object of named values, or from the list of all values
in order.  What is not given keeps its default.
-/

namespace SlashDice
namespace Settings

open Json Json.Members

def fieldNames : List String :=
  ["host", "port", "deployment_mode", "slack_signing_secret",
    "slack_signature_tolerance_secs", "slack_client_id", "slack_client_secret",
    "slack_redirect_uri", "slack_oauth_scopes", "slack_api_base_url", "database_url",
    "database_max_connections", "max_dice_count", "max_die_sides",
    "max_displayed_rolls", "command_name"]

def modeOfValue? (value : Value) : Option Mode :=
  value.asChoice?.bind Mode.ofName?

def ofValue? (value : Value) : Option Settings := do
  let members ← Members.ofValue? fieldNames value
  return {
    host := ← withDefault "host" defaultHost Value.asText? members
    port := ← withDefault "port" defaultPort Value.asUInt16? members
    mode := ← withDefault "deployment_mode" defaultMode modeOfValue? members
    signingSecret := ← optional "slack_signing_secret" Value.asText? members
    signatureTolerance :=
      ← withDefault "slack_signature_tolerance_secs" defaultTolerance
        Value.asUInt64? members
    clientId := ← optional "slack_client_id" Value.asText? members
    clientSecret := ← optional "slack_client_secret" Value.asText? members
    redirectUri := ← optional "slack_redirect_uri" Value.asText? members
    oauthScopes := ← withDefault "slack_oauth_scopes" defaultScopes Value.asText? members
    apiBaseUrl := ← withDefault "slack_api_base_url" defaultApiBaseUrl Value.asText? members
    databaseUrl := ← optional "database_url" Value.asText? members
    databaseConnections :=
      ← withDefault "database_max_connections" defaultConnections
        Value.asUInt32? members
    maxDice := ← withDefault "max_dice_count" defaultMaxDice Value.asUInt32? members
    maxSides := ← withDefault "max_die_sides" defaultMaxSides Value.asUInt32? members
    maxDisplayedRolls :=
      ← withDefault "max_displayed_rolls" defaultMaxDisplayedRolls Value.asUInt32? members
    commandName := ← withDefault "command_name" defaultCommandName Value.asText? members }

/-- Settings as an object that names every one of them. -/
def toJson (settings : Settings) : Value :=
  .record
    [("host", .text settings.host),
      ("port", .nat settings.port.toNat),
      ("deployment_mode", .text settings.mode.name),
      ("slack_signing_secret", .ofOption .text settings.signingSecret),
      ("slack_signature_tolerance_secs", .nat settings.signatureTolerance.toNat),
      ("slack_client_id", .ofOption .text settings.clientId),
      ("slack_client_secret", .ofOption .text settings.clientSecret),
      ("slack_redirect_uri", .ofOption .text settings.redirectUri),
      ("slack_oauth_scopes", .text settings.oauthScopes),
      ("slack_api_base_url", .text settings.apiBaseUrl),
      ("database_url", .ofOption .text settings.databaseUrl),
      ("database_max_connections", .nat settings.databaseConnections.toNat),
      ("max_dice_count", .nat settings.maxDice.toNat),
      ("max_die_sides", .nat settings.maxSides.toNat),
      ("max_displayed_rolls", .nat settings.maxDisplayedRolls.toNat),
      ("command_name", .text settings.commandName)]

end Settings
end SlashDice
