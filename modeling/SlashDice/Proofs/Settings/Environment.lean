import SlashDice.Proofs.Settings
import SlashDice.Settings.Environment

/-!
# Settings that the environment gives

Settings that are loaded have passed their check.  A secret that is loaded is the text
of its variable, and a variable that is set to the empty text is set: it gives the
empty secret.
-/

namespace SlashDice
namespace Environment

variable {bindings joined : Variables} {file : Option String} {settings : Settings}

theorem bind_eq_ok_iff {ε α β : Type} {result : Except ε α} {next : α → Except ε β} {value : β} :
    result >>= next = .ok value ↔ ∃ found, result = .ok found ∧ next found = .ok value := by
  cases result with
  | error fault => exact iff_of_false nofun fun ⟨_, wrong, _⟩ => by cases wrong
  | ok found =>
      constructor
      · exact fun same => ⟨found, rfl, same⟩
      · rintro ⟨_, here, same⟩
        cases here
        exact same

/-- Loading reads the variables together with those of the file, and then checks what
was read. -/
theorem load_eq_ok_iff : load bindings file = .ok settings ↔
    checkVariables bindings = .ok () ∧
      (∃ joined, withFile bindings file = .ok joined ∧ read joined = .ok settings) ∧
      settings.check = .ok () := by
  simp only [load, bind_eq_ok_iff]
  constructor
  · rintro ⟨⟨⟩, holdable, joined, together, found, given, checked⟩
    cases passed : found.check with
    | error fault => rw [passed] at checked; cases checked
    | ok passing =>
        rw [passed] at checked
        cases checked
        exact ⟨holdable, ⟨joined, together, given⟩, passed⟩
  · rintro ⟨holdable, ⟨joined, together, given⟩, passed⟩
    refine ⟨(), holdable, joined, together, settings, given, ?_⟩
    rw [passed]
    rfl

theorem optionalText_eq_ok_some_iff {name text : String} :
    optionalText bindings name = .ok (some text) ↔ find? bindings name = some (.text text) := by
  unfold optionalText
  cases find? bindings name with
  | none => simp
  | some given => cases given <;> simp [Given.asText]

/-- The numbers of so many bits are those below a bound, and words hold them. -/
structure IsWord {α : Type} (bits bound : Nat) (ofNat : Nat → α) (toNat : α → Nat) : Prop where
  size : Nat.pow 2 bits = bound
  representable : bound ≤ UInt64.size
  toNat_lt : ∀ word, toNat word < bound
  toNat_ofNat : ∀ number, number < bound → toNat (ofNat number) = number

theorem isWord_uint16 : IsWord 16 UInt16.size UInt16.ofNat UInt16.toNat :=
  ⟨rfl, by decide, UInt16.toNat_lt, fun _ => UInt16.toNat_ofNat_of_lt'⟩

theorem isWord_uint32 : IsWord 32 UInt32.size UInt32.ofNat UInt32.toNat :=
  ⟨rfl, by decide, UInt32.toNat_lt, fun _ => UInt32.toNat_ofNat_of_lt'⟩

theorem isWord_uint64 : IsWord 64 UInt64.size UInt64.ofNat UInt64.toNat :=
  ⟨rfl, by decide, UInt64.toNat_lt, fun _ => UInt64.toNat_ofNat_of_lt'⟩

theorem lt_of_numberSetting {name : String} {bits default number : Nat}
    (small : default < Nat.pow 2 bits)
    (given : numberSetting joined name bits default = .ok number) : number < Nat.pow 2 bits := by
  unfold numberSetting at given
  split at given
  case h_1 =>
    cases given
    exact small
  case h_2 =>
    split at given
    case h_2 => cases given
    case h_1 =>
      unfold numberOfBits at given
      split at given
      · cases given
      · split at given <;> cases given
        assumption

/-- The word of a number that is read holds this number. -/
theorem IsWord.numberSetting_toNat {α : Type} {bits bound number : Nat} {ofNat : Nat → α}
    {toNat : α → Nat} {name : String} {default : α} (isWord : IsWord bits bound ofNat toNat)
    (given : numberSetting joined name bits (toNat default) = .ok number) :
    numberSetting joined name bits (toNat default) = .ok (toNat (ofNat number)) := by
  have small := lt_of_numberSetting (isWord.size ▸ isWord.toNat_lt default) given
  rw [given, isWord.toNat_ofNat number (isWord.size ▸ small)]

/-- Settings that hold what the variables give for each of them. -/
structure ReadsAs (joined : Variables) (settings : Settings) : Prop where
  host : textSetting joined "host" Settings.defaultHost = .ok settings.host
  port : numberSetting joined "port" 16 Settings.defaultPort.toNat = .ok settings.port.toNat
  mode : modeSetting joined Settings.defaultMode = .ok settings.mode
  signingSecret : optionalText joined "slack_signing_secret" = .ok settings.signingSecret
  signatureTolerance :
    numberSetting joined "slack_signature_tolerance_secs" 64 Settings.defaultTolerance.toNat =
      .ok settings.signatureTolerance.toNat
  clientId : optionalText joined "slack_client_id" = .ok settings.clientId
  clientSecret : optionalText joined "slack_client_secret" = .ok settings.clientSecret
  redirectUri : optionalText joined "slack_redirect_uri" = .ok settings.redirectUri
  oauthScopes :
    textSetting joined "slack_oauth_scopes" Settings.defaultScopes = .ok settings.oauthScopes
  apiBaseUrl :
    textSetting joined "slack_api_base_url" Settings.defaultApiBaseUrl = .ok settings.apiBaseUrl
  databaseUrl : optionalText joined "database_url" = .ok settings.databaseUrl
  databaseConnections :
    numberSetting joined "database_max_connections" 32 Settings.defaultConnections.toNat =
      .ok settings.databaseConnections.toNat
  maxDice :
    numberSetting joined "max_dice_count" 32 Settings.defaultMaxDice.toNat =
      .ok settings.maxDice.toNat
  maxSides :
    numberSetting joined "max_die_sides" 32 Settings.defaultMaxSides.toNat =
      .ok settings.maxSides.toNat
  maxDisplayedRolls :
    numberSetting joined "max_displayed_rolls" 32 Settings.defaultMaxDisplayedRolls.toNat =
      .ok settings.maxDisplayedRolls.toNat
  commandName :
    textSetting joined "command_name" Settings.defaultCommandName = .ok settings.commandName

/-- The fields are read one after the other; here is what each of them then holds. -/
theorem read_eq_ok_iff_readsAs :
    read joined = .ok settings ↔ checkNames joined = .ok () ∧ ReadsAs joined settings := by
  unfold read
  constructor
  · intro given
    obtain ⟨_, names, given⟩ := bind_eq_ok_iff.mp given
    obtain ⟨_, host, given⟩ := bind_eq_ok_iff.mp given
    obtain ⟨_, port, given⟩ := bind_eq_ok_iff.mp given
    obtain ⟨_, mode, given⟩ := bind_eq_ok_iff.mp given
    obtain ⟨_, signingSecret, given⟩ := bind_eq_ok_iff.mp given
    obtain ⟨_, tolerance, given⟩ := bind_eq_ok_iff.mp given
    obtain ⟨_, clientId, given⟩ := bind_eq_ok_iff.mp given
    obtain ⟨_, clientSecret, given⟩ := bind_eq_ok_iff.mp given
    obtain ⟨_, redirectUri, given⟩ := bind_eq_ok_iff.mp given
    obtain ⟨_, oauthScopes, given⟩ := bind_eq_ok_iff.mp given
    obtain ⟨_, apiBaseUrl, given⟩ := bind_eq_ok_iff.mp given
    obtain ⟨_, databaseUrl, given⟩ := bind_eq_ok_iff.mp given
    obtain ⟨_, connections, given⟩ := bind_eq_ok_iff.mp given
    obtain ⟨_, maxDice, given⟩ := bind_eq_ok_iff.mp given
    obtain ⟨_, maxSides, given⟩ := bind_eq_ok_iff.mp given
    obtain ⟨_, maxDisplayedRolls, given⟩ := bind_eq_ok_iff.mp given
    obtain ⟨_, commandName, given⟩ := bind_eq_ok_iff.mp given
    cases given
    exact ⟨names,
      { host, mode, signingSecret, clientId, clientSecret, redirectUri, oauthScopes, apiBaseUrl,
        databaseUrl, commandName
        port := isWord_uint16.numberSetting_toNat port
        signatureTolerance := isWord_uint64.numberSetting_toNat tolerance
        databaseConnections := isWord_uint32.numberSetting_toNat connections
        maxDice := isWord_uint32.numberSetting_toNat maxDice
        maxSides := isWord_uint32.numberSetting_toNat maxSides
        maxDisplayedRolls := isWord_uint32.numberSetting_toNat maxDisplayedRolls }⟩
  · rintro ⟨names, reads⟩
    refine bind_eq_ok_iff.mpr ⟨_, names, ?_⟩
    refine bind_eq_ok_iff.mpr ⟨_, reads.host, ?_⟩
    refine bind_eq_ok_iff.mpr ⟨_, reads.port, ?_⟩
    refine bind_eq_ok_iff.mpr ⟨_, reads.mode, ?_⟩
    refine bind_eq_ok_iff.mpr ⟨_, reads.signingSecret, ?_⟩
    refine bind_eq_ok_iff.mpr ⟨_, reads.signatureTolerance, ?_⟩
    refine bind_eq_ok_iff.mpr ⟨_, reads.clientId, ?_⟩
    refine bind_eq_ok_iff.mpr ⟨_, reads.clientSecret, ?_⟩
    refine bind_eq_ok_iff.mpr ⟨_, reads.redirectUri, ?_⟩
    refine bind_eq_ok_iff.mpr ⟨_, reads.oauthScopes, ?_⟩
    refine bind_eq_ok_iff.mpr ⟨_, reads.apiBaseUrl, ?_⟩
    refine bind_eq_ok_iff.mpr ⟨_, reads.databaseUrl, ?_⟩
    refine bind_eq_ok_iff.mpr ⟨_, reads.databaseConnections, ?_⟩
    refine bind_eq_ok_iff.mpr ⟨_, reads.maxDice, ?_⟩
    refine bind_eq_ok_iff.mpr ⟨_, reads.maxSides, ?_⟩
    refine bind_eq_ok_iff.mpr ⟨_, reads.maxDisplayedRolls, ?_⟩
    refine bind_eq_ok_iff.mpr ⟨_, reads.commandName, ?_⟩
    simp only [UInt16.ofNat_toNat, UInt32.ofNat_toNat, UInt64.ofNat_toNat]
    rfl

theorem signingSecret_eq_some_iff (given : read joined = .ok settings) {secret : String} :
    settings.signingSecret = some secret ↔
      find? joined "slack_signing_secret" = some (.text secret) := by
  rw [← optionalText_eq_ok_some_iff, (read_eq_ok_iff_readsAs.mp given).2.signingSecret,
    Except.ok.injEq]

theorem clientSecret_eq_some_iff (given : read joined = .ok settings) {secret : String} :
    settings.clientSecret = some secret ↔
      find? joined "slack_client_secret" = some (.text secret) := by
  rw [← optionalText_eq_ok_some_iff, (read_eq_ok_iff_readsAs.mp given).2.clientSecret,
    Except.ok.injEq]

end Environment
end SlashDice
