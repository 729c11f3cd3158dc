import SlashDice.Proofs.Settings.Variables
import SlashDice.Proofs.Settings.Environment
import SlashDice.Proofs.Text.LetterCase
import SlashDice.Proofs.Text.Numeral

/-!
# How the settings are resolved

Loading gives settings exactly if every text that is given can be read and the settings
pass their check.  Each field then holds what is read from its variable, or else from its
first assignment in the file, or else the standard.
-/

namespace SlashDice
namespace Environment

open Settings Text

/-- The texts of a number: digits, perhaps after a plus sign, or a word for yes or no in any
letter case. -/
inductive IsNumber (text : String) : Nat → Prop
  | digits : Numeral.IsDigits text.toList → IsNumber text (Numeral.decimal text.toList)
  | plus {digits : List Char} : text.toList = '+' :: digits → Numeral.IsDigits digits →
      IsNumber text (Numeral.decimal digits)
  | yes : lowered text ∈ ["true", "on", "yes"] → IsNumber text 1
  | no : lowered text ∈ ["false", "off", "no"] → IsNumber text 0

/-- What a field of some kind holds that is given a text. -/
inductive IsRead : Kind → String → Content → Prop
  | text (text : String) : IsRead .text text (.text text)
  | optionalText (text : String) : IsRead .optionalText text (.optionalText (some text))
  | number {bound number : Nat} {text : String} : IsNumber text number → number < bound →
      IsRead (.number bound) text (.number number)
  | mode {text : String} {mode : Mode} : lowered text = mode.name → IsRead .mode text (.mode mode)

theorem number?_of_head {text : String} {first : Char} {rest : List Char}
    (here : text.toList = first :: rest) (noLetter : first.isAlpha = false)
    (ascii : first.toNat < 0x80) :
    number? text = Numeral.naturalBelow? UInt64.size text.toList := by
  have head : (lowered text).toList.head? = some first := by
    rw [lowered, String.toList_ofList, here, head?_lowercase ascii noLetter]
  unfold number?
  split
  case h_7 => rfl
  all_goals
    next word =>
      rw [word] at head
      cases head
      cases noLetter

theorem number?_eq_some_iff {text : String} {value : Nat} :
    number? text = some value ↔ IsNumber text value ∧ value < UInt64.size := by
  constructor
  · intro read
    unfold number? at read
    split at read
    case h_7 =>
      obtain ⟨natural, small⟩ := Option.filter_eq_some_iff.mp read
      refine ⟨?_, of_decide_eq_true small⟩
      unfold Numeral.natural? at natural
      split at natural
      next digits plus =>
        obtain ⟨isDigits, rfl⟩ := Numeral.ofDigits?_eq_some_iff.mp natural
        exact .plus plus isDigits
      next =>
        obtain ⟨isDigits, rfl⟩ := Numeral.ofDigits?_eq_some_iff.mp natural
        exact .digits isDigits
    case h_1 word | h_2 word | h_3 word =>
      cases read
      exact ⟨.yes (by rw [word]; decide), by decide⟩
    case h_4 word | h_5 word | h_6 word =>
      cases read
      exact ⟨.no (by rw [word]; decide), by decide⟩
  · rintro ⟨isNumber, small⟩
    cases isNumber with
    | digits isDigits =>
        obtain ⟨first, rest, here⟩ := List.exists_cons_of_ne_nil isDigits.1
        obtain ⟨ascii, noLetter⟩ :=
          Ascii.isAlpha_of_isDigit (isDigits.2 first (here ▸ List.mem_cons_self))
        rw [number?_of_head here noLetter ascii, Numeral.naturalBelow?,
          Numeral.natural?_of_all_isDigit isDigits.2, Numeral.ofDigits?_of_isDigits isDigits,
          Option.filter_some, if_pos (decide_eq_true small)]
    | plus here isDigits =>
        rw [number?_of_head here rfl (by decide), here, Numeral.naturalBelow?, Numeral.natural?,
          Numeral.ofDigits?_of_isDigits isDigits, Option.filter_some,
          if_pos (decide_eq_true small)]
    | yes word =>
        simp only [List.mem_cons, List.not_mem_nil, or_false] at word
        rcases word with same | same | same <;> simp only [number?, same]
    | no word =>
        simp only [List.mem_cons, List.not_mem_nil, or_false] at word
        rcases word with same | same | same <;> simp only [number?, same]

variable {joined : Variables} {name : String} {given : Option String}

theorem ok_eq_ok_iff_holds_none {α : Type} {hold : α → Content}
    (injective : ∀ {one other : α}, hold one = hold other → one = other)
    {reads : String → Content → Prop} {default found : α} :
    (Except.ok default : Except EnvironmentFault α) = .ok found ↔
      Holds reads (hold default) none (hold found) := by
  rw [Except.ok.injEq]
  exact ⟨fun same => congrArg hold same.symm, fun same => (injective same).symm⟩

theorem textSetting_eq_ok_iff {default found : String}
    (plain : find? joined name = given.map .text) :
    textSetting joined name default = .ok found ↔
      Holds (IsRead .text) (.text default) given (.text found) := by
  rw [textSetting, optionalText, plain]
  cases given with
  | none => exact ok_eq_ok_iff_holds_none Content.text.inj
  | some text =>
      constructor
      · rintro ⟨⟩
        exact .text text
      · rintro ⟨⟩
        rfl

theorem optionalText_eq_ok_iff {found : Option String}
    (plain : find? joined name = given.map .text) :
    optionalText joined name = .ok found ↔
      Holds (IsRead .optionalText) (.optionalText none) given (.optionalText found) := by
  rw [optionalText, plain]
  cases given with
  | none => exact ok_eq_ok_iff_holds_none Content.optionalText.inj
  | some text =>
      constructor
      · rintro ⟨⟩
        exact .optionalText text
      · rintro ⟨⟩
        rfl

namespace IsWord

variable {α : Type} {bits bound number : Nat} {ofNat : Nat → α} {toNat : α → Nat} {default : α}

theorem numberOfBits_eq_ok_iff {text : String} (isWord : IsWord bits bound ofNat toNat) :
    numberOfBits name bits text = .ok number ↔ IsRead (.number bound) text (.number number) := by
  have representable := isWord.representable
  rw [numberOfBits, isWord.size]
  constructor
  · intro read
    split at read
    · cases read
    next value isNumber =>
      split at read <;> cases read
      next small => exact .number (number?_eq_some_iff.mp isNumber).1 small
  · rintro (_ | _ | ⟨isNumber, small⟩)
    rw [number?_eq_some_iff.mpr ⟨isNumber, by omega⟩]
    exact if_pos small

theorem numberSetting_eq_ok_iff (isWord : IsWord bits bound ofNat toNat)
    (plain : find? joined name = given.map .text) :
    numberSetting joined name bits (toNat default) = .ok number ↔
      Holds (IsRead (.number bound)) (.number (toNat default)) given (.number number) := by
  rw [numberSetting, plain]
  cases given with
  | none => exact ok_eq_ok_iff_holds_none Content.number.inj
  | some text => exact isWord.numberOfBits_eq_ok_iff

end IsWord

theorem readMode_eq_ok_iff {text : String} {found : Mode} :
    readMode text = .ok found ↔ IsRead .mode text (.mode found) := by
  rw [readMode]
  constructor
  · intro read
    split at read <;> cases read
    next named => exact .mode (Mode.ofName?_eq_some_iff.mp named)
  · rintro ⟨⟩
    next named => rw [Mode.ofName?_eq_some_iff.mpr named]

theorem modeSetting_eq_ok_iff {default found : Mode}
    (plain : find? joined "deployment_mode" = given.map .text) :
    modeSetting joined default = .ok found ↔
      Holds (IsRead .mode) (.mode default) given (.mode found) := by
  rw [modeSetting, plain]
  cases given with
  | none => exact ok_eq_ok_iff_holds_none Content.mode.inj
  | some text => exact readMode_eq_ok_iff

variable {settings : Settings} {texts : String → Option String}

/-- Settings are read exactly if every field holds what is given for it, or its default. -/
theorem read_eq_ok_iff (names : checkNames joined = .ok ())
    (plain : ∀ setting ∈ fieldNames, find? joined setting = (texts setting).map .text) :
    read joined = .ok settings ↔ ∀ field : Settings.Field, Holds (IsRead field.kind)
      field.fallback (texts field.name) (settings.content field) := by
  have given (field : Settings.Field) : find? joined field.name = (texts field.name).map .text :=
    plain field.name (Field.mem_fieldNames_iff.mpr ⟨field, rfl⟩)
  rw [read_eq_ok_iff_readsAs, and_iff_right names]
  constructor
  · intro reads field
    cases field
    case host => exact (textSetting_eq_ok_iff (given .host)).mp reads.host
    case port => exact (isWord_uint16.numberSetting_eq_ok_iff (given .port)).mp reads.port
    case mode => exact (modeSetting_eq_ok_iff (given .mode)).mp reads.mode
    case signingSecret =>
      exact (optionalText_eq_ok_iff (given .signingSecret)).mp reads.signingSecret
    case signatureTolerance =>
      exact (isWord_uint64.numberSetting_eq_ok_iff (given .signatureTolerance)).mp
        reads.signatureTolerance
    case clientId => exact (optionalText_eq_ok_iff (given .clientId)).mp reads.clientId
    case clientSecret => exact (optionalText_eq_ok_iff (given .clientSecret)).mp reads.clientSecret
    case redirectUri => exact (optionalText_eq_ok_iff (given .redirectUri)).mp reads.redirectUri
    case oauthScopes => exact (textSetting_eq_ok_iff (given .oauthScopes)).mp reads.oauthScopes
    case apiBaseUrl => exact (textSetting_eq_ok_iff (given .apiBaseUrl)).mp reads.apiBaseUrl
    case databaseUrl => exact (optionalText_eq_ok_iff (given .databaseUrl)).mp reads.databaseUrl
    case databaseConnections =>
      exact (isWord_uint32.numberSetting_eq_ok_iff (given .databaseConnections)).mp
        reads.databaseConnections
    case maxDice => exact (isWord_uint32.numberSetting_eq_ok_iff (given .maxDice)).mp reads.maxDice
    case maxSides =>
      exact (isWord_uint32.numberSetting_eq_ok_iff (given .maxSides)).mp reads.maxSides
    case maxDisplayedRolls =>
      exact (isWord_uint32.numberSetting_eq_ok_iff (given .maxDisplayedRolls)).mp
        reads.maxDisplayedRolls
    case commandName => exact (textSetting_eq_ok_iff (given .commandName)).mp reads.commandName
  · intro holds
    exact
      { host := (textSetting_eq_ok_iff (given .host)).mpr (holds .host)
        port := (isWord_uint16.numberSetting_eq_ok_iff (given .port)).mpr (holds .port)
        mode := (modeSetting_eq_ok_iff (given .mode)).mpr (holds .mode)
        signingSecret := (optionalText_eq_ok_iff (given .signingSecret)).mpr (holds .signingSecret)
        signatureTolerance :=
          (isWord_uint64.numberSetting_eq_ok_iff (given .signatureTolerance)).mpr
            (holds .signatureTolerance)
        clientId := (optionalText_eq_ok_iff (given .clientId)).mpr (holds .clientId)
        clientSecret := (optionalText_eq_ok_iff (given .clientSecret)).mpr (holds .clientSecret)
        redirectUri := (optionalText_eq_ok_iff (given .redirectUri)).mpr (holds .redirectUri)
        oauthScopes := (textSetting_eq_ok_iff (given .oauthScopes)).mpr (holds .oauthScopes)
        apiBaseUrl := (textSetting_eq_ok_iff (given .apiBaseUrl)).mpr (holds .apiBaseUrl)
        databaseUrl := (optionalText_eq_ok_iff (given .databaseUrl)).mpr (holds .databaseUrl)
        databaseConnections :=
          (isWord_uint32.numberSetting_eq_ok_iff (given .databaseConnections)).mpr
            (holds .databaseConnections)
        maxDice := (isWord_uint32.numberSetting_eq_ok_iff (given .maxDice)).mpr (holds .maxDice)
        maxSides := (isWord_uint32.numberSetting_eq_ok_iff (given .maxSides)).mpr (holds .maxSides)
        maxDisplayedRolls := (isWord_uint32.numberSetting_eq_ok_iff (given .maxDisplayedRolls)).mpr
          (holds .maxDisplayedRolls)
        commandName := (textSetting_eq_ok_iff (given .commandName)).mpr (holds .commandName) }

theorem load_of_withFile {bindings : Variables} {file : Option String}
    (holdable : ∀ entry ∈ bindings, Variables.canHold entry.1 entry.2 = true)
    (together : withFile bindings file = .ok joined) :
    load bindings file = .ok settings ↔ read joined = .ok settings ∧ settings.check = .ok () := by
  rw [load_eq_ok_iff, together]
  simp only [checkVariables_of_holdable holdable, true_and, Except.ok.injEq, exists_eq_left']

variable {bindings others : Variables} {file : Option String}

theorem load_eq_ok_iff_holds (orderly : Orderly bindings (assignedIn bindings file)) :
    load bindings file = .ok settings ↔ settings.check = .ok () ∧
      ∀ field : Settings.Field, Holds (IsRead field.kind) (standard.content field)
        (givenText bindings file field.name) (settings.content field) := by
  obtain ⟨joined, together, names, plain⟩ := orderly.exists_withFile
  simp only [content_standard]
  rw [load_of_withFile orderly.holdable together, and_comm, read_eq_ok_iff names plain]

theorem load_congr (orderly : Orderly bindings (assignedIn bindings file))
    (othersOrderly : Orderly others (assignedIn others file))
    (sameFile : assignedIn others file = assignedIn bindings file)
    (perm : (ofSettings others).Perm (ofSettings bindings)) :
    load others file = .ok settings ↔ load bindings file = .ok settings := by
  have same (field : Settings.Field) :
      givenText others file field.name = givenText bindings file field.name := by
    have among := Field.mem_fieldNames_iff.mpr ⟨field, rfl⟩
    rw [givenText, givenText, sameFile, valueIn_eq_of_perm among orderly perm]
  simp only [load_eq_ok_iff_holds orderly, load_eq_ok_iff_holds othersOrderly, same]

/-- Settings that are loaded pass their check.  With orderly variables and assignments they are
loaded exactly if they pass it and every field holds what is read from its variable, or else
from its first assignment in the file, or else the standard.  A variable that neither is a
setting nor is referred to in the file can be there or not, and the variables can stand in
any order. -/
theorem settings_resolved_in_order (bindings : Variables) (file : Option String) :
    (∀ settings, load bindings file = .ok settings → settings.check = .ok ()) ∧
    (Orderly bindings (assignedIn bindings file) →
      (∀ settings, load bindings file = .ok settings ↔ settings.check = .ok () ∧
        ∀ field : Settings.Field, Holds (IsRead field.kind) (standard.content field)
          (givenText bindings file field.name) (settings.content field)) ∧
      (∀ others, Orderly others (assignedIn others file) →
        (∀ text ∈ file, DotEnv.AgreeOn text others bindings) →
        (ofSettings others).Perm (ofSettings bindings) →
        ∀ settings, load others file = .ok settings ↔ load bindings file = .ok settings) ∧
      ∀ others, others.Perm bindings →
        ∀ settings, load others file = .ok settings ↔ load bindings file = .ok settings) := by
  refine ⟨fun settings loaded => (load_eq_ok_iff.mp loaded).2.2, fun orderly => ⟨?_, ?_, ?_⟩⟩
  · exact fun settings => load_eq_ok_iff_holds orderly
  · intro others othersOrderly agree perm settings
    exact load_congr orderly othersOrderly (assignedIn_congr agree) perm
  · intro others perm settings
    have sameFile : assignedIn others file = assignedIn bindings file :=
      assignedIn_congr fun text _ name _ => Entries.lookup_perm orderly.distinct perm name
    have othersOrderly := orderly.perm perm
    rw [← sameFile] at othersOrderly
    exact load_congr orderly othersOrderly sameFile (perm.filter _)

/-- A name in small letters, a sign, an assignment that is not made, a word for one and a
reference; then one more variable, and another order. -/
theorem settings_resolved_in_order_words_and_reference :
    let bindings : Variables :=
      [("deployment_mode", "Development"), ("PORT", "+8080"), ("PATH", "/bin")]
    let others := ("TERM", "vt") :: bindings
    let file := some "PORT=1\nMAX_DICE_COUNT=yes\nHOST=$PATH\n"
    let settings : Settings :=
      { standard with mode := .development, port := 8080, maxDice := 1, host := "/bin" }
    Orderly bindings (assignedIn bindings file) ∧ Orderly others (assignedIn others file) ∧
      load bindings file = .ok settings ∧ load others file = .ok settings ∧
      load bindings.reverse file = .ok settings := by
  intro bindings others file settings
  have assigned : assignedIn bindings file =
      [("PORT", "1"), ("MAX_DICE_COUNT", "yes"), ("HOST", "/bin")] := by
    decide +kernel
  have orderly : Orderly bindings (assignedIn bindings file) := by
    rw [assigned]
    decide +kernel
  have agree : ∀ text ∈ file, DotEnv.AgreeOn text others bindings := by
    intro text member name referred
    obtain rfl := Option.some.inj member
    have other : name ≠ "TERM" := by
      rintro rfl
      revert referred
      decide +kernel
    rw [List.lookup_cons, beq_eq_false_iff_ne.mpr other]
  have othersOrderly : Orderly others (assignedIn others file) := by
    rw [assignedIn_congr agree, assigned]
    decide +kernel
  have perm : (ofSettings others).Perm (ofSettings bindings) := by decide +kernel
  obtain ⟨loads, withMore, reordered⟩ := (settings_resolved_in_order bindings file).2 orderly
  have given (field : Settings.Field) : givenText bindings file field.name =
      match field with
      | .host => some "/bin"
      | .port => some "+8080"
      | .mode => some "Development"
      | .maxDice => some "yes"
      | _ => none := by
    rw [givenText, assigned]
    cases field <;> decide +kernel
  have loaded : load bindings file = .ok settings := by
    refine (loads settings).mpr ⟨rfl, fun field => ?_⟩
    rw [given field]
    cases field
    case host => exact .text "/bin"
    case port =>
      have isDigits : Numeral.IsDigits "8080".toList := ⟨by decide, List.all_eq_true.mp rfl⟩
      have isNumber : IsNumber "+8080" 8080 := .plus rfl isDigits
      exact .number isNumber (by decide)
    case mode => exact .mode (by decide +kernel)
    case maxDice => exact .number (.yes (by decide +kernel)) (by decide)
    all_goals rfl
  exact ⟨orderly, othersOrderly, loaded,
    (withMore others othersOrderly agree perm settings).mpr loaded,
    (reordered bindings.reverse (List.reverse_perm bindings) settings).mpr loaded⟩

/-- A name that leads into a setting, one that leads to no item, a variable that the file
refers to and one whose assignment cannot be made all change what is loaded. -/
theorem other_variables_change_settings :
    let development : Variables := [("DEPLOYMENT_MODE", "development")]
    let settings : Settings := { standard with mode := .development }
    (∀ name ∈ ["HOST.X", "X[-1]", "STAGE", "X"], lowered name ∉ fieldNames) ∧
      load development none = .ok settings ∧
      load (development ++ [("HOST.X", "1")]) none = .error (.noText "host" .map) ∧
      load (development ++ [("X[-1]", "1")]) none = .error (.noSuchItem "X[-1]") ∧
      load development (some "HOST=$STAGE") = .ok { settings with host := "" } ∧
      load (development ++ [("STAGE", "0.0.0.0")]) (some "HOST=$STAGE") =
        .ok { settings with host := "0.0.0.0" } ∧
      load development (some "X=\x00") = .error (.unstorable "X") ∧
      load (development ++ [("X", "1")]) (some "X=\x00") = .ok settings :=
  ⟨by decide +kernel, rfl, rfl, rfl, rfl, rfl, rfl, rfl⟩

end Environment
end SlashDice
