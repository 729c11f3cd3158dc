import SlashDice.Proofs.Entries
import SlashDice.Settings.Field

/-!
# Settings read from an object

An object gives settings exactly if it names no field twice and has a value of the right
kind for every field that it names.  The settings then hold what is given, and the
standard for every field that is not named.
-/

namespace SlashDice
namespace Settings

open Json Json.Members

/-- The values that stand for what a field of some kind holds.  A mode is written as its
name, or as an object with that one name and null. -/
inductive IsWritten : Kind → Value → Content → Prop
  | text (text : String) : IsWritten .text (.text text) (.text text)
  | missing : IsWritten .optionalText .null (.optionalText none)
  | present (text : String) : IsWritten .optionalText (.text text) (.optionalText (some text))
  | number {bound number : Nat} : number < bound →
      IsWritten (.number bound) (.int number) (.number number)
  | modeName (mode : Mode) : IsWritten .mode (.text mode.name) (.mode mode)
  | modeMember (mode : Mode) : IsWritten .mode (.record [(mode.name, .null)]) (.mode mode)

/-- A way to decode values that takes exactly those that are written for a kind, where
contents are seen as what a field holds. -/
structure Decodes {α : Type} (kind : Kind) (hold : α → Content) (decode : Value → Option α) :
    Prop where
  injective : ∀ {one other : α}, hold one = hold other → one = other
  decode_eq_some_iff : ∀ {value : Value} {found : α},
    decode value = some found ↔ IsWritten kind value (hold found)

theorem decodes_text : Decodes .text .text Value.asText? where
  injective := Content.text.inj
  decode_eq_some_iff := by
    intro value found
    constructor
    · intro read
      cases value <;> cases read
      exact .text _
    · rintro ⟨⟩
      rfl

theorem decodes_optionalText :
    Decodes .optionalText .optionalText (nullable Value.asText?) where
  injective := Content.optionalText.inj
  decode_eq_some_iff := by
    intro value found
    constructor
    · intro read
      cases value <;> cases read
      · exact .missing
      · exact .present _
    · intro written
      cases written <;> rfl

theorem decodes_mode : Decodes .mode .mode modeOfValue? where
  injective := Content.mode.inj
  decode_eq_some_iff := by
    intro value mode
    constructor
    · intro read
      obtain ⟨name, chosen, named⟩ := Option.bind_eq_some_iff.mp read
      rw [Mode.ofName?_eq_some_iff] at named
      subst named
      unfold Value.asChoice? at chosen
      split at chosen <;> cases chosen
      · exact .modeName mode
      · exact .modeMember mode
    · intro written
      cases written <;> exact Mode.ofName?_eq_some_iff.mpr rfl

theorem asIntBetween?_eq_some_iff {value : Value} {bound : Nat} {number : Int} :
    value.asIntBetween? 0 bound = some number ↔
      value = .int number ∧ 0 ≤ number ∧ number < bound := by
  cases value with
  | int found =>
      simp only [Value.asIntBetween?, Option.ite_none_right_eq_some, Option.some.injEq,
        Value.int.injEq]
      constructor
      · rintro ⟨within, rfl⟩
        exact ⟨rfl, within⟩
      · rintro ⟨rfl, within⟩
        exact ⟨within, rfl⟩
  | _ => exact iff_of_false nofun fun both => nomatch both.1

theorem decodes_number {α : Type} {bound : Nat} {ofNat : Nat → α} {toNat : α → Nat}
    (ofNat_toNat : ∀ word, ofNat (toNat word) = word)
    (toNat_ofNat : ∀ number, number < bound → toNat (ofNat number) = number) :
    Decodes (.number bound) (fun word => .number (toNat word))
      fun value => (value.asIntBetween? 0 bound).map fun number => ofNat number.toNat where
  injective := by
    intro one other same
    rw [← ofNat_toNat one, Content.number.inj same, ofNat_toNat]
  decode_eq_some_iff := by
    intro value word
    constructor
    · intro read
      obtain ⟨number, between, rfl⟩ := Option.map_eq_some_iff.mp read
      obtain ⟨rfl, nonnegative, small⟩ := asIntBetween?_eq_some_iff.mp between
      obtain ⟨natural, rfl⟩ := Int.eq_ofNat_of_zero_le nonnegative
      rw [Int.toNat_natCast, toNat_ofNat natural (by omega)]
      exact .number (by omega)
    · intro written
      generalize held : Content.number (toNat word) = content at written
      cases written with
      | number small =>
          cases held
          refine Option.map_eq_some_iff.mpr ⟨_, asIntBetween?_eq_some_iff.mpr ⟨rfl, ?_, ?_⟩, ?_⟩
          · omega
          · omega
          · rw [Int.toNat_natCast, ofNat_toNat]

theorem decodes_uint16 :
    Decodes (.number UInt16.size) (fun word : UInt16 => .number word.toNat) Value.asUInt16? :=
  decodes_number (fun _ => UInt16.ofNat_toNat) fun _ => UInt16.toNat_ofNat_of_lt'

theorem decodes_uint32 :
    Decodes (.number UInt32.size) (fun word : UInt32 => .number word.toNat) Value.asUInt32? :=
  decodes_number (fun _ => UInt32.ofNat_toNat) fun _ => UInt32.toNat_ofNat_of_lt'

theorem decodes_uint64 :
    Decodes (.number UInt64.size) (fun word : UInt64 => .number word.toNat) Value.asUInt64? :=
  decodes_number (fun _ => UInt64.ofNat_toNat) fun _ => UInt64.toNat_ofNat_of_lt'

variable {entries : List (String × Value)} {settings : Settings}

theorem Decodes.withDefault_eq_some_iff {α : Type} {kind : Kind} {hold : α → Content}
    {decode : Value → Option α} (decodes : Decodes kind hold decode) {name : String}
    {default found : α} :
    withDefault name default decode (.named entries) = some found ↔
      Holds (IsWritten kind) (hold default) (entries.lookup name) (hold found) := by
  rw [withDefault_named]
  cases entries.lookup name with
  | some value => exact decodes.decode_eq_some_iff
  | none =>
      constructor
      · rintro ⟨⟩
        rfl
      · intro same
        exact congrArg some (decodes.injective same).symm

theorem optional_eq_some_iff {name : String} {found : Option String} :
    Members.optional name Value.asText? (.named entries) = some found ↔
      Holds (IsWritten .optionalText) (.optionalText none) (entries.lookup name)
        (.optionalText found) := by
  rw [← decodes_optionalText.withDefault_eq_some_iff, optional_named, withDefault_named]

theorem ofValue?_named_eq_some_iff {members : Members} :
    Members.ofValue? fieldNames (.record entries) = some members ↔
      (∀ field : Field, (entries.map Prod.fst).count field.name ≤ 1) ∧
        .named entries = members := by
  have repeats_iff (name : String) :
      repeats entries name = true ↔ 1 < (entries.map Prod.fst).count name := by
    rw [repeats, decide_eq_true_eq, List.count, List.countP_map, List.countP_eq_length_filter]
    rfl
  have unrepeated : ¬fieldNames.any (repeats entries) = true ↔
      ∀ field : Field, (entries.map Prod.fst).count field.name ≤ 1 := by
    simp only [List.any_eq_true, repeats_iff, not_exists, not_and, Nat.not_lt,
      Field.mem_fieldNames_iff, forall_exists_index, forall_apply_eq_imp_iff]
  rw [Members.ofValue?, Option.ite_none_left_eq_some, unrepeated, Option.some.injEq]

theorem bind_eq_some {α β : Type} {first : Option α} {next : α → Option β} {found : α} {last : β}
    (here : first = some found) (later : next found = some last) :
    first >>= next = some last :=
  Option.bind_eq_some_iff.mpr ⟨found, here, later⟩

/-- The fields are read one after the other; here is what each of them then holds. -/
theorem ofValue?_record_eq_some_iff :
    ofValue? (.record entries) = some settings ↔
      (∀ field : Field, (entries.map Prod.fst).count field.name ≤ 1) ∧
        ∀ field : Field, Holds (IsWritten field.kind) field.fallback
          (entries.lookup field.name) (settings.content field) := by
  unfold ofValue?
  constructor
  · intro read
    obtain ⟨_, named, read⟩ := Option.bind_eq_some_iff.mp read
    obtain ⟨once, rfl⟩ := ofValue?_named_eq_some_iff.mp named
    obtain ⟨_, host, read⟩ := Option.bind_eq_some_iff.mp read
    obtain ⟨_, port, read⟩ := Option.bind_eq_some_iff.mp read
    obtain ⟨_, mode, read⟩ := Option.bind_eq_some_iff.mp read
    obtain ⟨_, signingSecret, read⟩ := Option.bind_eq_some_iff.mp read
    obtain ⟨_, signatureTolerance, read⟩ := Option.bind_eq_some_iff.mp read
    obtain ⟨_, clientId, read⟩ := Option.bind_eq_some_iff.mp read
    obtain ⟨_, clientSecret, read⟩ := Option.bind_eq_some_iff.mp read
    obtain ⟨_, redirectUri, read⟩ := Option.bind_eq_some_iff.mp read
    obtain ⟨_, oauthScopes, read⟩ := Option.bind_eq_some_iff.mp read
    obtain ⟨_, apiBaseUrl, read⟩ := Option.bind_eq_some_iff.mp read
    obtain ⟨_, databaseUrl, read⟩ := Option.bind_eq_some_iff.mp read
    obtain ⟨_, databaseConnections, read⟩ := Option.bind_eq_some_iff.mp read
    obtain ⟨_, maxDice, read⟩ := Option.bind_eq_some_iff.mp read
    obtain ⟨_, maxSides, read⟩ := Option.bind_eq_some_iff.mp read
    obtain ⟨_, maxDisplayedRolls, read⟩ := Option.bind_eq_some_iff.mp read
    obtain ⟨_, commandName, read⟩ := Option.bind_eq_some_iff.mp read
    cases read
    refine ⟨once, fun field => ?_⟩
    cases field
    case host => exact decodes_text.withDefault_eq_some_iff.mp host
    case port => exact decodes_uint16.withDefault_eq_some_iff.mp port
    case mode => exact decodes_mode.withDefault_eq_some_iff.mp mode
    case signingSecret => exact optional_eq_some_iff.mp signingSecret
    case signatureTolerance => exact decodes_uint64.withDefault_eq_some_iff.mp signatureTolerance
    case clientId => exact optional_eq_some_iff.mp clientId
    case clientSecret => exact optional_eq_some_iff.mp clientSecret
    case redirectUri => exact optional_eq_some_iff.mp redirectUri
    case oauthScopes => exact decodes_text.withDefault_eq_some_iff.mp oauthScopes
    case apiBaseUrl => exact decodes_text.withDefault_eq_some_iff.mp apiBaseUrl
    case databaseUrl => exact optional_eq_some_iff.mp databaseUrl
    case databaseConnections => exact decodes_uint32.withDefault_eq_some_iff.mp databaseConnections
    case maxDice => exact decodes_uint32.withDefault_eq_some_iff.mp maxDice
    case maxSides => exact decodes_uint32.withDefault_eq_some_iff.mp maxSides
    case maxDisplayedRolls => exact decodes_uint32.withDefault_eq_some_iff.mp maxDisplayedRolls
    case commandName => exact decodes_text.withDefault_eq_some_iff.mp commandName
  · rintro ⟨once, holds⟩
    refine bind_eq_some (ofValue?_named_eq_some_iff.mpr ⟨once, rfl⟩) ?_
    refine bind_eq_some (decodes_text.withDefault_eq_some_iff.mpr (holds .host)) ?_
    refine bind_eq_some (decodes_uint16.withDefault_eq_some_iff.mpr (holds .port)) ?_
    refine bind_eq_some (decodes_mode.withDefault_eq_some_iff.mpr (holds .mode)) ?_
    refine bind_eq_some (optional_eq_some_iff.mpr (holds .signingSecret)) ?_
    refine bind_eq_some (decodes_uint64.withDefault_eq_some_iff.mpr (holds .signatureTolerance)) ?_
    refine bind_eq_some (optional_eq_some_iff.mpr (holds .clientId)) ?_
    refine bind_eq_some (optional_eq_some_iff.mpr (holds .clientSecret)) ?_
    refine bind_eq_some (optional_eq_some_iff.mpr (holds .redirectUri)) ?_
    refine bind_eq_some (decodes_text.withDefault_eq_some_iff.mpr (holds .oauthScopes)) ?_
    refine bind_eq_some (decodes_text.withDefault_eq_some_iff.mpr (holds .apiBaseUrl)) ?_
    refine bind_eq_some (optional_eq_some_iff.mpr (holds .databaseUrl)) ?_
    refine bind_eq_some (decodes_uint32.withDefault_eq_some_iff.mpr (holds .databaseConnections)) ?_
    refine bind_eq_some (decodes_uint32.withDefault_eq_some_iff.mpr (holds .maxDice)) ?_
    refine bind_eq_some (decodes_uint32.withDefault_eq_some_iff.mpr (holds .maxSides)) ?_
    refine bind_eq_some (decodes_uint32.withDefault_eq_some_iff.mpr (holds .maxDisplayedRolls)) ?_
    refine bind_eq_some (decodes_text.withDefault_eq_some_iff.mpr (holds .commandName)) ?_
    rfl

theorem IsWritten.fits {kind : Kind} {value : Value} {content : Content}
    (written : IsWritten kind value content) : Fits kind content := by
  cases written with
  | text text => exact .text text
  | missing => exact .optionalText none
  | present text => exact .optionalText (some text)
  | number small => exact .number small
  | modeName mode => exact .mode mode
  | modeMember mode => exact .mode mode

/-- No field is named twice, and a value of the right kind stands at every field that is
named. -/
structure IsProper (entries : List (String × Value)) : Prop where
  once : ∀ field : Field, (entries.map Prod.fst).count field.name ≤ 1
  written : ∀ (field : Field) (value : Value), (field.name, value) ∈ entries →
    ∃ content, IsWritten field.kind value content

/-- Settings that hold what is given for every field that is named, and the standard for
the others. -/
structure Overwrites (entries : List (String × Value)) (settings : Settings) : Prop where
  named : ∀ (field : Field) (value : Value), (field.name, value) ∈ entries →
    IsWritten field.kind value (settings.content field)
  unnamed : ∀ field : Field, field.name ∉ entries.map Prod.fst →
    settings.content field = standard.content field

theorem ofValue?_record_eq_some_iff_overwrites :
    ofValue? (.record entries) = some settings ↔
      (∀ field : Field, (entries.map Prod.fst).count field.name ≤ 1) ∧
        Overwrites entries settings := by
  rw [ofValue?_record_eq_some_iff]
  refine and_congr_right fun once => ?_
  constructor
  · intro holds
    refine ⟨fun field value member => ?_, fun field absent => ?_⟩
    · have held := holds field
      rw [Entries.lookup_of_mem (once field) member] at held
      exact held
    · have held := holds field
      rw [Entries.lookup_eq_none_iff.mpr absent] at held
      exact held.trans (content_standard field).symm
  · intro overwrites field
    cases given : entries.lookup field.name with
    | some value => exact overwrites.named field value (Entries.mem_of_lookup given)
    | none =>
        exact (overwrites.unnamed field (Entries.lookup_eq_none_iff.mp given)).trans
          (content_standard field)

theorem IsProper.exists_overwrites (proper : IsProper entries) :
    ∃ settings, Overwrites entries settings := by
  have each (field : Field) : ∃ content, Fits field.kind content ∧
      Holds (IsWritten field.kind) field.fallback (entries.lookup field.name) content := by
    cases given : entries.lookup field.name with
    | some value =>
        obtain ⟨content, written⟩ := proper.written field value (Entries.mem_of_lookup given)
        exact ⟨content, written.fits, written⟩
    | none =>
        have fits := fits_content standard field
        rw [content_standard] at fits
        exact ⟨field.fallback, fits, rfl⟩
  choose contents fits holds using each
  obtain ⟨settings, same⟩ := exists_content_eq fits
  have read : ofValue? (.record entries) = some settings :=
    ofValue?_record_eq_some_iff.mpr ⟨proper.once, fun field => same field ▸ holds field⟩
  exact ⟨settings, (ofValue?_record_eq_some_iff_overwrites.mp read).2⟩

/-- An object that names no field twice, with a value of the right kind at every field that
it names, gives the standard settings with these fields overwritten, whatever else it has
and in any order: the settings that hold what is given, and the standard for all the other
fields.  Any other object gives no settings. -/
theorem object_overwrites_standard (entries : List (String × Value)) :
    (IsProper entries → ∃ settings, ofValue? (.record entries) = some settings ∧
      Overwrites entries settings ∧ ∀ others, Overwrites entries others → others = settings) ∧
    (¬IsProper entries → ofValue? (.record entries) = none) := by
  constructor
  · intro proper
    obtain ⟨settings, overwrites⟩ := proper.exists_overwrites
    have read (others : Settings) (same : Overwrites entries others) :
        ofValue? (.record entries) = some others :=
      ofValue?_record_eq_some_iff_overwrites.mpr ⟨proper.once, same⟩
    refine ⟨settings, read settings overwrites, overwrites, fun others same => ?_⟩
    exact Option.some.inj ((read others same).symm.trans (read settings overwrites))
  · intro improper
    rw [Option.eq_none_iff_forall_ne_some]
    intro settings read
    obtain ⟨once, overwrites⟩ := ofValue?_record_eq_some_iff_overwrites.mp read
    exact improper ⟨once, fun field value member => ⟨_, overwrites.named field value member⟩⟩

/-- A port, a mode as an object, a missing identifier and a name that no field has. -/
theorem object_overwrites_standard_mode_member :
    let entries : List (String × Value) :=
      [("deployment_mode", .record [("staging", .null)]), ("theme", .list [.decimal]),
        ("port", .int 65535), ("slack_client_id", .null)]
    IsProper entries ∧
      ofValue? (.record entries) = some { standard with mode := .staging, port := 65535 } := by
  intro entries
  have largest : IsWritten (.number UInt16.size) (.int 65535) (.number 65535) :=
    .number (by decide)
  have proper : IsProper entries := by
    refine ⟨fun field => by cases field <;> decide, fun field value member => ?_⟩
    cases field <;> simp [entries, Field.name] at member <;> subst member
    case mode => exact ⟨_, .modeMember .staging⟩
    case port => exact ⟨_, largest⟩
    case clientId => exact ⟨_, .missing⟩
  obtain ⟨settings, read, -, unique⟩ := (object_overwrites_standard entries).1 proper
  refine ⟨proper, read.trans (congrArg some (Eq.symm ?_))⟩
  refine unique _ ⟨fun field value member => ?_, fun field absent => ?_⟩
  · cases field <;> simp [entries, Field.name] at member <;> subst member
    case mode => exact .modeMember .staging
    case port => exact largest
    case clientId => exact .missing
  · cases field <;> first | rfl | exact absurd (by decide) absent

end Settings
end SlashDice
