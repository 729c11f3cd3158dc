import SlashDice.Dice.Command
import SlashDice.Proofs.Dice.Token
import SlashDice.Proofs.Text.Blank

/-!
# What a command asks for

The answer of the parser is described on the text as the player typed it, before
any lower-casing: the help word in either letter case, nothing at all, a first word
in dice notation, or anything else.
-/

namespace SlashDice

open Text

namespace Command

variable {text : String} {token : Token}

/-- The text as it was typed, without the blank characters around it. -/
def typedText (text : String) : List Char :=
  trim text.toList

def typedWord (text : String) : List Char :=
  (typedText text).takeWhile fun c => !isBlank c

def normalText (text : String) : List Char :=
  lowercase (typedText text)

/-- What follows the first word of the text in lower case, trimmed. -/
def reasonText (text : String) : List Char :=
  trim ((normalText text).dropWhile fun c => !isBlank c)

/-- What follows the first word of the text as it was typed. -/
def afterWord (text : String) : List Char :=
  (typedText text).dropWhile fun c => !isBlank c

/-- The whole text is the word help, up to the case of ASCII letters. -/
def AsksForHelp (text : String) : Prop :=
  (typedText text).map Char.toLower = "help".toList

/-- The text is blank, or its first word is in dice notation as it was typed. -/
def AsksForRoll (text : String) : Prop :=
  typedText text = [] ∨ ∃ token, Token.Typed (typedWord text) token

theorem parse_eq_parseNormal (text : String) : parse text = parseNormal (normalText text) :=
  rfl

theorem parse_of_blank (blank : typedText text = []) : parse text = .ok (.roll Roll.bare) := by
  rw [parse_eq_parseNormal, normalText, blank, lowercase_nil, parseNormal_nil]

theorem asksForHelp_iff : AsksForHelp text ↔ normalText text = helpWord := by
  have all : helpWord.all (fun d => d.toNat < 0x80 ∧ d ≠ 'k') = true := by decide
  have plain : ∀ d ∈ helpWord, d.toNat < 0x80 ∧ d ≠ 'k' := fun d member =>
    of_decide_eq_true (List.all_eq_true.mp all d member)
  exact (lowercase_eq_iff plain).symm

theorem parse_of_asksForHelp (help : AsksForHelp text) : parse text = .ok .help := by
  rw [parse_eq_parseNormal, asksForHelp_iff.mp help, parseNormal_helpWord]

theorem scan?_firstWord_eq_some_iff :
    Token.scan? (splitFirstWord (normalText text)).1 = some token ↔
      Token.Typed (typedWord text) token := by
  rw [splitFirstWord, normalText, takeWhile_lowercase]
  exact Token.scan?_lowercase_eq_some_iff

theorem parse_of_typed (typed : Token.Typed (typedWord text) token) :
    parse text = .ok (.roll (token.toRoll (String.ofList (reasonText text)))) := by
  have scanned := scan?_firstWord_eq_some_iff.mpr typed
  -- Neither the empty text nor the help word can be scanned.
  have nonempty : normalText text ≠ [] := by
    intro empty
    rw [empty] at scanned
    cases scanned
  have noHelp : normalText text ≠ helpWord := by
    intro help
    rw [help] at scanned
    cases scanned
  rw [parse_eq_parseNormal, parseNormal, if_neg nonempty, if_neg noHelp, scanned]
  rfl

theorem parse_of_neither (noHelp : ¬ AsksForHelp text) (noRoll : ¬ AsksForRoll text) :
    parse text = .error (.malformed (String.ofList (normalText text))) := by
  have nonempty : normalText text ≠ [] := by
    intro empty
    exact noRoll (.inl (lowercase_eq_nil_iff.mp empty))
  have otherWord : normalText text ≠ helpWord := by
    intro lowered
    exact noHelp (asksForHelp_iff.mpr lowered)
  have notScanned : Token.scan? (splitFirstWord (normalText text)).1 = none := by
    rw [Option.eq_none_iff_forall_ne_some]
    intro token scanned
    exact noRoll (.inr ⟨token, scan?_firstWord_eq_some_iff.mp scanned⟩)
  rw [parse_eq_parseNormal, parseNormal, if_neg nonempty, if_neg otherWord, notScanned]

/-- A text asks for help, for a roll or for nothing that is known, and the answer of
the parser is of that kind. -/
theorem parse_cases (text : String) :
    (AsksForHelp text ∧ parse text = .ok .help) ∨
      (AsksForRoll text ∧ ∃ roll, parse text = .ok (.roll roll)) ∨
      (¬ AsksForHelp text ∧ ¬ AsksForRoll text ∧
        parse text = .error (.malformed (String.ofList (normalText text)))) := by
  by_cases help : AsksForHelp text
  · exact .inl ⟨help, parse_of_asksForHelp help⟩
  by_cases roll : AsksForRoll text
  · refine .inr (.inl ⟨roll, ?_⟩)
    rcases roll with blank | ⟨token, typed⟩
    · exact ⟨_, parse_of_blank blank⟩
    · exact ⟨_, parse_of_typed typed⟩
  · exact .inr (.inr ⟨help, roll, parse_of_neither help roll⟩)

theorem reason_toRoll (token : Token) (text : String) :
    (token.toRoll (String.ofList (reasonText text))).reason =
      if reasonText text = [] then none else some (String.ofList (reasonText text)) := by
  have trimmed : trim (reasonText text) = reasonText text := trim_trim _
  simp only [Token.toRoll, Roll.withReason, String.toList_ofList, trimmed]

theorem reasonText_eq_nil_iff : reasonText text = [] ↔ ∀ c ∈ afterWord text, isBlank c = true := by
  rw [reasonText, trim_eq_nil_iff, normalText, forall_isBlank_dropWhile_lowercase_iff, afterWord]

/-- A text that is not blank and asks for a roll begins with a word in dice notation,
whose digit strings denote the roll. -/
theorem exists_typed_of_parse {roll : Roll} (parsed : parse text = .ok (.roll roll))
    (nonblank : typedText text ≠ []) :
    ∃ token, Token.Typed (typedWord text) token ∧ token.Denotes roll := by
  rcases parse_cases text with ⟨-, other⟩ | ⟨asked, -⟩ | ⟨-, -, other⟩
  case inr.inl =>
    obtain ⟨token, typed⟩ := asked.resolve_left nonblank
    have same : token.toRoll (String.ofList (reasonText text)) = roll := by
      rw [parse_of_typed typed] at parsed
      cases parsed
      rfl
    refine ⟨token, typed, ?_⟩
    rw [← same]
    exact Token.denotes_toRoll (Token.typed_iff.mp typed).2 _
  all_goals
    rw [other] at parsed
    cases parsed

theorem reason_of_parse {roll : Roll} (parsed : parse text = .ok (.roll roll)) :
    roll.reason =
      if reasonText text = [] then none else some (String.ofList (reasonText text)) := by
  rcases parse_cases text with ⟨-, other⟩ | ⟨blank | ⟨token, typed⟩, -⟩ | ⟨-, -, other⟩
  case inr.inl.inl =>
    rw [parse_of_blank blank] at parsed
    cases parsed
    rw [reasonText, normalText, blank]
    rfl
  case inr.inl.inr =>
    rw [parse_of_typed typed] at parsed
    cases parsed
    exact reason_toRoll token text
  all_goals
    rw [other] at parsed
    cases parsed

theorem reason_eq_none_iff {roll : Roll} (parsed : parse text = .ok (.roll roll)) :
    roll.reason = none ↔ ∀ c ∈ afterWord text, isBlank c = true := by
  rw [reason_of_parse parsed, ← reasonText_eq_nil_iff]
  simp

/-- The parser decides the grammar of commands on the text as it was typed, and the
roll of a text in dice notation is the one that its digit strings denote. -/
theorem parse_decides_grammar (text : String) :
    (parse text = .ok .help ↔ AsksForHelp text) ∧
    ((∃ roll, parse text = .ok (.roll roll)) ↔ AsksForRoll text) ∧
    (∀ refusal, parse text = .error refusal ↔
      ¬ AsksForHelp text ∧ ¬ AsksForRoll text ∧
        refusal = .malformed (String.ofList (normalText text))) ∧
    (typedText text = [] → parse text = .ok (.roll ⟨1, 20, 0, none⟩)) ∧
    (∀ token, Token.Typed (typedWord text) token →
      ∃ roll, parse text = .ok (.roll roll) ∧ token.Denotes roll ∧
        roll.reason =
          if reasonText text = [] then none else some (String.ofList (reasonText text))) := by
  refine ⟨⟨?_, parse_of_asksForHelp⟩, ⟨?_, ?_⟩, fun refusal => ⟨?_, ?_⟩, parse_of_blank, ?_⟩
  · intro parsed
    rcases parse_cases text with ⟨help, -⟩ | ⟨-, roll, other⟩ | ⟨-, -, other⟩
    · exact help
    all_goals
      rw [other] at parsed
      cases parsed
  · rintro ⟨roll, parsed⟩
    rcases parse_cases text with ⟨-, other⟩ | ⟨roll, -⟩ | ⟨-, -, other⟩
    case inr.inl => exact roll
    all_goals
      rw [other] at parsed
      cases parsed
  · rintro (blank | ⟨token, typed⟩)
    · exact ⟨_, parse_of_blank blank⟩
    · exact ⟨_, parse_of_typed typed⟩
  · intro parsed
    rcases parse_cases text with ⟨-, other⟩ | ⟨-, roll, other⟩ | ⟨noHelp, noRoll, other⟩
    case inr.inr =>
      rw [other] at parsed
      cases parsed
      exact ⟨noHelp, noRoll, rfl⟩
    all_goals
      rw [other] at parsed
      cases parsed
  · rintro ⟨noHelp, noRoll, rfl⟩
    exact parse_of_neither noHelp noRoll
  · intro token typed
    have wellFormed := (Token.typed_iff.mp typed).2
    exact ⟨_, parse_of_typed typed, Token.denotes_toRoll wellFormed _, reason_toRoll token text⟩

/-- The three rules for numbers that are too large, and a reason with a final sigma. -/
example : parse "4294967296D4294967296-2147483648  Für ΟΔΟΣ " =
    .ok (.roll ⟨1, 4294967295, 0, some "für οδος"⟩) := by
  decide +kernel

end Command
end SlashDice
