import SlashDice.Settings.Basic
import SlashDice.Settings.DotEnv
import SlashDice.Settings.VariableName
import SlashDice.Text.LetterCase
import SlashDice.Text.Numeral
import SlashDice.Text.Quoted

/-!
# Settings from the environment

Each setting is the value of the variable with its name, in any letter case, or
its default.  Numbers may also be given as words for yes and no.  A variable may
also name a member or an item of a setting; then the setting is no text.
-/

namespace SlashDice

open Text

/-- What the variables with the name of one setting give. -/
inductive Given
  | text (content : String)
  | members (names : List String)
  | items
  deriving DecidableEq, Repr

inductive Shape
  | map
  | sequence
  deriving DecidableEq, Repr

def Shape.word : Shape → String
  | map => "map"
  | sequence => "sequence"

/-- Why the environment gives no usable settings. -/
inductive EnvironmentFault
  | unstorable (name : String)
  | noSuchItem (name : String)
  | noText (name : String) (shape : Shape)
  | noNumber (name : String) (shape : Shape)
  | noInteger (name text : String)
  | tooLarge (name : String) (value bits : Nat)
  | unknownMode (text : String)
  | noMode
  | unusable (fault : SettingsFault)
  deriving DecidableEq, Repr

namespace EnvironmentFault

def message : EnvironmentFault → String
  | unstorable name => "there cannot be a variable `" ++ name ++ "` with this value"
  | noSuchItem name => "`" ++ name ++ "` names an item that cannot be there"
  | noText name shape =>
    "invalid type: " ++ shape.word ++ ", expected a string for key `" ++ name ++ "`"
  | noNumber name shape =>
    "invalid type: " ++ shape.word ++ ", expected an integer for key `" ++ name ++ "`"
  | noInteger name text =>
    "invalid type: string " ++ String.ofList (quoted text.toList) ++
      ", expected an integer for key `" ++ name ++ "` in the environment"
  | tooLarge name value bits =>
    "invalid type: 64-bit unsigned integer `" ++ String.ofList (Numeral.ofNat value) ++
      "`, expected an unsigned " ++ String.ofList (Numeral.ofNat bits) ++
      " bit integer for key `" ++ name ++ "`"
  | unknownMode text => "enum DeploymentMode does not have variant constructor " ++ text
  | noMode =>
    "value of enum DeploymentMode should be represented by either string or table with " ++
      "exactly one key"
  | unusable fault => fault.message

def isFatal : EnvironmentFault → Bool
  | unstorable _ | noSuchItem _ => true
  | _ => false

end EnvironmentFault

namespace Given

/-- What is given after one more variable with the name of the setting. -/
def update (value : String) : Place → Option Given → Given
  | .whole, _ => .text value
  | .member name, some (.members names) =>
    .members (if names.contains name then names else names ++ [name])
  | .member name, _ => .members [name]
  | .item, _ => .items

def asText : Given → Except Shape String
  | .text content => .ok content
  | .members _ => .error .map
  | .items => .error .sequence

end Given

namespace Environment

def lowered (text : String) : String :=
  String.ofList (lowercase text.toList)

/-- The name that a variable has in any letter case. -/
def nameOf? (name : String) : Option VariableName :=
  VariableName.ofText? (lowercase name.toList)

/-- What the variables give for the setting with a lower-case name. -/
def find? (bindings : Variables) (name : String) : Option Given :=
  bindings.foldl (fun given entry =>
    match nameOf? entry.1 with
    | some named =>
      if named.setting = name then some (Given.update entry.2 named.place given) else given
    | none => given) none

/-- A number below two to the sixty-fourth, also as a word for yes or no. -/
def number? (text : String) : Option Nat :=
  match lowered text with
  | "true" | "on" | "yes" => some 1
  | "false" | "off" | "no" => some 0
  | _ => Numeral.naturalBelow? UInt64.size text.toList

def numberOfBits (name : String) (bits : Nat) (text : String) : Except EnvironmentFault Nat :=
  match number? text with
  | none => .error (.noInteger name text)
  | some value => if value < Nat.pow 2 bits then .ok value else .error (.tooLarge name value bits)

def numberSetting (bindings : Variables) (name : String) (bits default : Nat) :
    Except EnvironmentFault Nat :=
  match find? bindings name with
  | none => .ok default
  | some given =>
    match given.asText with
    | .ok text => numberOfBits name bits text
    | .error shape => .error (.noNumber name shape)

def optionalText (bindings : Variables) (name : String) :
    Except EnvironmentFault (Option String) :=
  match find? bindings name with
  | none => .ok none
  | some given =>
    match given.asText with
    | .ok text => .ok (some text)
    | .error shape => .error (.noText name shape)

def textSetting (bindings : Variables) (name default : String) :
    Except EnvironmentFault String :=
  (optionalText bindings name).map fun text => text.getD default

/-- Reads the name of a mode in any letter case. -/
def readMode (text : String) : Except EnvironmentFault Mode :=
  match Mode.ofName? (lowered text) with
  | some mode => .ok mode
  | none => .error (.unknownMode text)

/-- The setting of the mode: its name as a text, or as the name of the only
member. -/
def modeSetting (bindings : Variables) (default : Mode) : Except EnvironmentFault Mode :=
  match find? bindings "deployment_mode" with
  | none => .ok default
  | some (.text name) => readMode name
  | some (.members [name]) => readMode name
  | some _ => .error .noMode

def checkNames (bindings : Variables) : Except EnvironmentFault Unit :=
  match bindings.find? fun entry => (nameOf? entry.1).any VariableName.isOutOfReach with
  | some (name, _) => .error (.noSuchItem name)
  | none => .ok ()

/-- The settings that the variables give, not yet checked. -/
def read (bindings : Variables) : Except EnvironmentFault Settings := do
  checkNames bindings
  let number := numberSetting bindings
  let host ← textSetting bindings "host" Settings.defaultHost
  let port ← number "port" 16 Settings.defaultPort.toNat
  let mode ← modeSetting bindings Settings.defaultMode
  let signingSecret ← optionalText bindings "slack_signing_secret"
  let tolerance ← number "slack_signature_tolerance_secs" 64 Settings.defaultTolerance.toNat
  let clientId ← optionalText bindings "slack_client_id"
  let clientSecret ← optionalText bindings "slack_client_secret"
  let redirectUri ← optionalText bindings "slack_redirect_uri"
  let oauthScopes ← textSetting bindings "slack_oauth_scopes" Settings.defaultScopes
  let apiBaseUrl ← textSetting bindings "slack_api_base_url" Settings.defaultApiBaseUrl
  let databaseUrl ← optionalText bindings "database_url"
  let connections ← number "database_max_connections" 32 Settings.defaultConnections.toNat
  let maxDice ← number "max_dice_count" 32 Settings.defaultMaxDice.toNat
  let maxSides ← number "max_die_sides" 32 Settings.defaultMaxSides.toNat
  let maxDisplayedRolls ← number "max_displayed_rolls" 32 Settings.defaultMaxDisplayedRolls.toNat
  let commandName ← textSetting bindings "command_name" Settings.defaultCommandName
  return {
    host, mode, signingSecret, clientId, clientSecret, redirectUri, oauthScopes, apiBaseUrl
    databaseUrl, commandName
    port := UInt16.ofNat port
    signatureTolerance := UInt64.ofNat tolerance
    databaseConnections := UInt32.ofNat connections
    maxDice := UInt32.ofNat maxDice
    maxSides := UInt32.ofNat maxSides
    maxDisplayedRolls := UInt32.ofNat maxDisplayedRolls }

def checkVariables (bindings : Variables) : Except EnvironmentFault Unit :=
  match bindings.find? fun entry => !Variables.canHold entry.1 entry.2 with
  | some (name, _) => .error (.unstorable name)
  | none => .ok ()

/-- The variables after a file of assignments, if there is one. -/
def withFile (bindings : Variables) : Option String → Except EnvironmentFault Variables
  | none => .ok bindings
  | some file => (DotEnv.load bindings file).mapError .unstorable

/-- The usable settings that the variables and a file of assignments give.  The
variables are stronger than the file. -/
def load (bindings : Variables) (file : Option String) : Except EnvironmentFault Settings := do
  checkVariables bindings
  let settings ← read (← withFile bindings file)
  match settings.check with
  | .ok () => return settings
  | .error fault => throw (.unusable fault)

end Environment
end SlashDice
