import SlashDice.Settings.Record

/-!
# The fields of the settings

A name for each of the settings, the kind of value that it has, and what it holds in
settings that are given.  Fields can hold anything together that each of them can hold.
-/

namespace SlashDice
namespace Settings

inductive Field
  | host
  | port
  | mode
  | signingSecret
  | signatureTolerance
  | clientId
  | clientSecret
  | redirectUri
  | oauthScopes
  | apiBaseUrl
  | databaseUrl
  | databaseConnections
  | maxDice
  | maxSides
  | maxDisplayedRolls
  | commandName
  deriving DecidableEq, Repr

/-- The kinds of values: a text, a text that may be missing, a natural number below a
bound, and a mode. -/
inductive Kind
  | text
  | optionalText
  | number (bound : Nat)
  | mode
  deriving DecidableEq, Repr

inductive Content
  | text (value : String)
  | optionalText (value : Option String)
  | number (value : Nat)
  | mode (value : Mode)
  deriving DecidableEq, Repr

namespace Field

def name : Field → String
  | host => "host"
  | port => "port"
  | mode => "deployment_mode"
  | signingSecret => "slack_signing_secret"
  | signatureTolerance => "slack_signature_tolerance_secs"
  | clientId => "slack_client_id"
  | clientSecret => "slack_client_secret"
  | redirectUri => "slack_redirect_uri"
  | oauthScopes => "slack_oauth_scopes"
  | apiBaseUrl => "slack_api_base_url"
  | databaseUrl => "database_url"
  | databaseConnections => "database_max_connections"
  | maxDice => "max_dice_count"
  | maxSides => "max_die_sides"
  | maxDisplayedRolls => "max_displayed_rolls"
  | commandName => "command_name"

def kind : Field → Kind
  | host | oauthScopes | apiBaseUrl | commandName => .text
  | signingSecret | clientId | clientSecret | redirectUri | databaseUrl => .optionalText
  | port => .number UInt16.size
  | databaseConnections | maxDice | maxSides | maxDisplayedRolls => .number UInt32.size
  | signatureTolerance => .number UInt64.size
  | mode => .mode

def all : List Field :=
  [host, port, mode, signingSecret, signatureTolerance, clientId, clientSecret, redirectUri,
    oauthScopes, apiBaseUrl, databaseUrl, databaseConnections, maxDice, maxSides,
    maxDisplayedRolls, commandName]

theorem mem_all (field : Field) : field ∈ all := by
  cases field <;> decide

theorem map_name_all : all.map name = fieldNames := rfl

theorem mem_fieldNames_iff {given : String} :
    given ∈ fieldNames ↔ ∃ field : Field, field.name = given := by
  rw [← map_name_all, List.mem_map]
  exact exists_congr fun field => and_iff_right (mem_all field)

end Field

/-- What a reader of settings puts into a field that is not given. -/
def Field.fallback : Field → Content
  | host => .text defaultHost
  | port => .number defaultPort.toNat
  | mode => .mode defaultMode
  | signatureTolerance => .number defaultTolerance.toNat
  | oauthScopes => .text defaultScopes
  | apiBaseUrl => .text defaultApiBaseUrl
  | databaseConnections => .number defaultConnections.toNat
  | maxDice => .number defaultMaxDice.toNat
  | maxSides => .number defaultMaxSides.toNat
  | maxDisplayedRolls => .number defaultMaxDisplayedRolls.toNat
  | commandName => .text defaultCommandName
  | signingSecret | clientId | clientSecret | redirectUri | databaseUrl => .optionalText none

def content (settings : Settings) : Field → Content
  | .host => .text settings.host
  | .port => .number settings.port.toNat
  | .mode => .mode settings.mode
  | .signingSecret => .optionalText settings.signingSecret
  | .signatureTolerance => .number settings.signatureTolerance.toNat
  | .clientId => .optionalText settings.clientId
  | .clientSecret => .optionalText settings.clientSecret
  | .redirectUri => .optionalText settings.redirectUri
  | .oauthScopes => .text settings.oauthScopes
  | .apiBaseUrl => .text settings.apiBaseUrl
  | .databaseUrl => .optionalText settings.databaseUrl
  | .databaseConnections => .number settings.databaseConnections.toNat
  | .maxDice => .number settings.maxDice.toNat
  | .maxSides => .number settings.maxSides.toNat
  | .maxDisplayedRolls => .number settings.maxDisplayedRolls.toNat
  | .commandName => .text settings.commandName

/-- The list of the readers and the standard settings agree about every field. -/
@[simp]
theorem content_standard (field : Field) : standard.content field = field.fallback := by
  cases field <;> rfl

/-- What a field holds if something may be given for it: what is read from that, or the
default. -/
def Holds {α : Type} (reads : α → Content → Prop) (default : Content) (given : Option α)
    (content : Content) : Prop :=
  match given with
  | some source => reads source content
  | none => content = default

/-- The contents that a field of some kind can hold. -/
inductive Fits : Kind → Content → Prop
  | text (value : String) : Fits .text (.text value)
  | optionalText (value : Option String) : Fits .optionalText (.optionalText value)
  | number {bound value : Nat} : value < bound → Fits (.number bound) (.number value)
  | mode (value : Mode) : Fits .mode (.mode value)

theorem fits_content (settings : Settings) (field : Field) :
    Fits field.kind (settings.content field) := by
  cases field
  case host | oauthScopes | apiBaseUrl | commandName => exact .text _
  case signingSecret | clientId | clientSecret | redirectUri | databaseUrl =>
    exact .optionalText _
  case port => exact .number settings.port.toNat_lt
  case signatureTolerance => exact .number settings.signatureTolerance.toNat_lt
  case databaseConnections => exact .number settings.databaseConnections.toNat_lt
  case maxDice => exact .number settings.maxDice.toNat_lt
  case maxSides => exact .number settings.maxSides.toNat_lt
  case maxDisplayedRolls => exact .number settings.maxDisplayedRolls.toNat_lt
  case mode => exact .mode _

namespace Fits

variable {content : Content}

theorem exists_text (fits : Fits .text content) : ∃ value, content = .text value := by
  cases fits
  exact ⟨_, rfl⟩

theorem exists_optionalText (fits : Fits .optionalText content) :
    ∃ value, content = .optionalText value := by
  cases fits
  exact ⟨_, rfl⟩

theorem exists_mode (fits : Fits .mode content) : ∃ value, content = .mode value := by
  cases fits
  exact ⟨_, rfl⟩

theorem exists_uint16 (fits : Fits (.number UInt16.size) content) :
    ∃ word : UInt16, content = .number word.toNat := by
  cases fits with
  | number small => exact ⟨UInt16.ofNat _, congrArg _ (UInt16.toNat_ofNat_of_lt' small).symm⟩

theorem exists_uint32 (fits : Fits (.number UInt32.size) content) :
    ∃ word : UInt32, content = .number word.toNat := by
  cases fits with
  | number small => exact ⟨UInt32.ofNat _, congrArg _ (UInt32.toNat_ofNat_of_lt' small).symm⟩

theorem exists_uint64 (fits : Fits (.number UInt64.size) content) :
    ∃ word : UInt64, content = .number word.toNat := by
  cases fits with
  | number small => exact ⟨UInt64.ofNat _, congrArg _ (UInt64.toNat_ofNat_of_lt' small).symm⟩

end Fits

/-- There are settings whose fields hold what is wanted, if each of them can hold it. -/
theorem exists_content_eq {contents : Field → Content}
    (fits : ∀ field, Fits field.kind (contents field)) :
    ∃ settings : Settings, ∀ field, settings.content field = contents field := by
  obtain ⟨host, hostEq⟩ := (fits .host).exists_text
  obtain ⟨port, portEq⟩ := (fits .port).exists_uint16
  obtain ⟨mode, modeEq⟩ := (fits .mode).exists_mode
  obtain ⟨signingSecret, signingSecretEq⟩ := (fits .signingSecret).exists_optionalText
  obtain ⟨signatureTolerance, toleranceEq⟩ := (fits .signatureTolerance).exists_uint64
  obtain ⟨clientId, clientIdEq⟩ := (fits .clientId).exists_optionalText
  obtain ⟨clientSecret, clientSecretEq⟩ := (fits .clientSecret).exists_optionalText
  obtain ⟨redirectUri, redirectUriEq⟩ := (fits .redirectUri).exists_optionalText
  obtain ⟨oauthScopes, oauthScopesEq⟩ := (fits .oauthScopes).exists_text
  obtain ⟨apiBaseUrl, apiBaseUrlEq⟩ := (fits .apiBaseUrl).exists_text
  obtain ⟨databaseUrl, databaseUrlEq⟩ := (fits .databaseUrl).exists_optionalText
  obtain ⟨databaseConnections, connectionsEq⟩ := (fits .databaseConnections).exists_uint32
  obtain ⟨maxDice, maxDiceEq⟩ := (fits .maxDice).exists_uint32
  obtain ⟨maxSides, maxSidesEq⟩ := (fits .maxSides).exists_uint32
  obtain ⟨maxDisplayedRolls, displayedEq⟩ := (fits .maxDisplayedRolls).exists_uint32
  obtain ⟨commandName, commandNameEq⟩ := (fits .commandName).exists_text
  refine ⟨⟨host, port, mode, signingSecret, signatureTolerance, clientId, clientSecret,
    redirectUri, oauthScopes, apiBaseUrl, databaseUrl, databaseConnections, maxDice, maxSides,
    maxDisplayedRolls, commandName⟩, fun field => Eq.symm ?_⟩
  cases field <;> assumption

end Settings
end SlashDice
