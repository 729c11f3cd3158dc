import SlashDice.Dice.Limits
import SlashDice.Settings.Mode
import SlashDice.Text.Blank
import SlashDice.Text.Pieces

/-!
# Settings of the service

Every setting has a default or may be missing.  Settings are usable when a
signing secret is there wherever signatures are checked, and when the limits of
the game lie in the ranges the service can deal with.
-/

namespace SlashDice

open Text

structure Settings where
  host : String
  port : UInt16
  mode : Mode
  signingSecret : Option String
  signatureTolerance : UInt64
  clientId : Option String
  clientSecret : Option String
  redirectUri : Option String
  oauthScopes : String
  apiBaseUrl : String
  databaseUrl : Option String
  databaseConnections : UInt32
  maxDice : UInt32
  maxSides : UInt32
  maxDisplayedRolls : UInt32
  commandName : String
  deriving DecidableEq, Repr

/-- The most dice that settings may allow in one roll. -/
def diceCap : UInt32 := 100000

def sidesCap : UInt32 := 1000000

/-- Why the service cannot run with some settings. -/
inductive SettingsFault
  | missingSigningSecret (mode : Mode)
  | diceOutOfRange
  | sidesOutOfRange
  deriving DecidableEq, Repr

def SettingsFault.message : SettingsFault → String
  | missingSigningSecret mode => "SLACK_SIGNING_SECRET is required in " ++ mode.name ++ " mode"
  | diceOutOfRange => "MAX_DICE_COUNT must be between 1 and 100000"
  | sidesOutOfRange => "MAX_DIE_SIDES must be between 2 and 1000000"

namespace Settings

def defaultHost : String := "127.0.0.1"

def defaultPort : UInt16 := 3000

def defaultMode : Mode := .production

/-- How many seconds the time of a signature may be off. -/
def defaultTolerance : UInt64 := 300

def defaultScopes : String := "commands"

def defaultApiBaseUrl : String := "https://slack.com/api"

def defaultConnections : UInt32 := 5

def defaultMaxDice : UInt32 := 1000

def defaultMaxSides : UInt32 := 100

def defaultMaxDisplayedRolls : UInt32 := 100

def defaultCommandName : String := "/roll"

/-- The settings without anything given.  Readers of settings have a list of their own. -/
def standard : Settings where
  host := defaultHost
  port := defaultPort
  mode := defaultMode
  signingSecret := none
  signatureTolerance := defaultTolerance
  clientId := none
  clientSecret := none
  redirectUri := none
  oauthScopes := defaultScopes
  apiBaseUrl := defaultApiBaseUrl
  databaseUrl := none
  databaseConnections := defaultConnections
  maxDice := defaultMaxDice
  maxSides := defaultMaxSides
  maxDisplayedRolls := defaultMaxDisplayedRolls
  commandName := defaultCommandName

/-- Checks that the service can run with the settings; the first fault is
reported. -/
def check (settings : Settings) : Except SettingsFault Unit :=
  if settings.mode.verifiesSignatures = true ∧ settings.signingSecret = none then
    .error (.missingSigningSecret settings.mode)
  else if settings.maxDice < minDice ∨ diceCap < settings.maxDice then
    .error .diceOutOfRange
  else if settings.maxSides < minSides ∨ sidesCap < settings.maxSides then
    .error .sidesOutOfRange
  else
    .ok ()

def limits (settings : Settings) : Limits where
  maxDice := settings.maxDice
  maxSides := settings.maxSides
  maxDisplayedRolls := settings.maxDisplayedRolls

/-- The pieces between commas, trimmed, without the blank ones. -/
def scopePieces (text : List Char) : List (List Char) :=
  ((pieces ',' text).map trim).filter fun piece => !piece.isEmpty

def scopeList (settings : Settings) : List String :=
  (scopePieces settings.oauthScopes.toList).map String.ofList

end Settings
end SlashDice
