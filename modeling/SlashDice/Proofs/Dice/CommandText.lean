import SlashDice.Proofs.Dice.Expression

/-!
# Rolls that are typed again

A roll that a command asks for can be typed as a command itself, with its expression
first and its reason after a space.  Such rolls never have the least modifier, and their
reasons are trimmed and in lower case; these are all the rolls that come back when they
are typed again.
-/

namespace SlashDice

open Text

namespace Roll

/-- The roll as a player may type it: its expression and, after a space, its reason. -/
def commandText (roll : Roll) : String :=
  match roll.reason with
  | none => roll.expression
  | some reason => roll.expression ++ " " ++ reason

/-- The reasons that a parsed roll can have. -/
structure TidyReason (reason : String) : Prop where
  nonblank : ∃ c ∈ reason.toList, isBlank c = false
  head_nonblank : ∀ c ∈ reason.toList.head?, isBlank c = false
  last_nonblank : ∀ c ∈ reason.toList.getLast?, isBlank c = false
  lowercase_eq : lowercase reason.toList = reason.toList

/-- The rolls that commands can ask for. -/
structure Canonical (roll : Roll) : Prop where
  modifier_ne : roll.modifier ≠ Int32.minValue
  reason_tidy : ∀ reason ∈ roll.reason, TidyReason reason

variable {reason : String}

theorem TidyReason.trim_eq (tidy : TidyReason reason) : trim reason.toList = reason.toList :=
  trim_eq_self_iff.mpr ⟨tidy.head_nonblank, tidy.last_nonblank⟩

theorem TidyReason.ne_nil (tidy : TidyReason reason) : reason.toList ≠ [] := by
  obtain ⟨c, member, -⟩ := tidy.nonblank
  exact List.ne_nil_of_mem member

theorem tidyReason_of_trim {text : List Char} (trimmed : trim text = text) (nonempty : text ≠ [])
    (lower : lowercase text = text) : TidyReason (String.ofList text) := by
  obtain ⟨head, last⟩ := trim_eq_self_iff.mp trimmed
  constructor <;> rw [String.toList_ofList]
  case nonblank =>
    exact ⟨_, List.head_mem nonempty, head _ (List.head_mem_head? nonempty)⟩
  case head_nonblank => exact head
  case last_nonblank => exact last
  case lowercase_eq => exact lower

end Roll

namespace Command

variable {text : String} {roll : Roll}

theorem tidyReason_reasonText (nonempty : reasonText text ≠ []) :
    Roll.TidyReason (String.ofList (reasonText text)) := by
  refine Roll.tidyReason_of_trim (trim_trim _) nonempty (lowercase_eq_self_iff.mpr ?_)
  intro c member
  have inNormal : c ∈ normalText text := (List.dropWhile_suffix _).subset (mem_of_mem_trim member)
  exact LetterCase.isLower_of_mem_lowerFrom inNormal

theorem modifier_ne_of_denotes {token : Token} (denotes : token.Denotes roll) :
    roll.modifier ≠ Int32.minValue := by
  intro least
  have value := denotes.modifier_eq
  have low : roll.modifier.toInt = -0x80000000 := by rw [least]; rfl
  rw [low] at value
  cases given : token.modifier with
  | none => simp [given] at value
  | some modifier =>
      simp only [given, SignedDigits.toInt] at value
      split_ifs at value
      all_goals omega

theorem canonical_of_parse (parsed : parse text = .ok (.roll roll)) : roll.Canonical := by
  by_cases blank : typedText text = []
  · rw [parse_of_blank blank] at parsed
    cases parsed
    exact ⟨by decide, nofun⟩
  · obtain ⟨token, typed, denotes⟩ := exists_typed_of_parse parsed blank
    rw [parse_of_typed typed] at parsed
    cases parsed
    refine ⟨modifier_ne_of_denotes denotes, fun reason given => ?_⟩
    rw [Option.mem_def, reason_toRoll, Option.ite_none_left_eq_some] at given
    obtain ⟨nonempty, same⟩ := given
    rw [← Option.some.inj same]
    exact tidyReason_reasonText nonempty

theorem toList_commandText {reason : String} (given : roll.reason = some reason) :
    roll.commandText.toList = roll.token.text ++ ' ' :: reason.toList := by
  simp [Roll.commandText, given, Roll.toList_expression]

theorem parse_commandText (canonical : roll.Canonical) :
    parse roll.commandText = .ok (.roll roll) := by
  obtain ⟨count, sides, modifier, reason⟩ := roll
  have modifier_ne := canonical.modifier_ne
  cases reason with
  | none => rw [Roll.commandText, parse_expression, if_neg modifier_ne]
  | some reason =>
      have tidy := canonical.reason_tidy reason rfl
      have space : isBlank ' ' = true := rfl
      have last : ∀ c ∈ (' ' :: reason.toList).getLast?, isBlank c = false := by
        rw [List.getLast?_cons_of_ne_nil tidy.ne_nil]
        exact tidy.last_nonblank
      have lower : ∀ c ∈ ' ' :: reason.toList, LetterCase.IsLower c :=
        List.forall_mem_cons.mpr
          ⟨⟨by decide, rfl⟩, lowercase_eq_self_iff.mp tidy.lowercase_eq⟩
      have read := parse_text_append (Roll.wellFormed_token ⟨count, sides, modifier, some reason⟩)
        (endsWord_cons space _) last lower
      rw [← toList_commandText rfl, String.ofList_toList, trim_cons_of_isBlank space,
        tidy.trim_eq, String.ofList_toList, Roll.toRoll_token, if_neg modifier_ne] at read
      rw [read, Roll.withReason, tidy.trim_eq, if_neg tidy.ne_nil]

theorem exists_parse_iff_canonical : (∃ text, parse text = .ok (.roll roll)) ↔ roll.Canonical :=
  ⟨fun ⟨_, parsed⟩ => canonical_of_parse parsed,
    fun canonical => ⟨roll.commandText, parse_commandText canonical⟩⟩

/-- A roll that a command asks for is asked for again when its text is typed, with the
same dice, modifier and reason.  Its reason is not blank, has no blank character at its
ends and is in lower case, and its expression alone keeps the dice and the modifier. -/
theorem parse_again (parsed : parse text = .ok (.roll roll)) :
    parse roll.commandText = .ok (.roll roll) ∧
      (∀ reason ∈ roll.reason, Roll.TidyReason reason) ∧
      parse roll.expression = .ok (.roll { roll with reason := none }) := by
  have canonical := canonical_of_parse parsed
  refine ⟨parse_commandText canonical, canonical.reason_tidy, ?_⟩
  rw [parse_expression, if_neg canonical.modifier_ne]

/-- Numbers that fall back to other numbers, and a reason with a final sigma. -/
theorem parse_again_fallbacks :
    let roll : Roll := ⟨1, 4294967295, -2147483647, some "für  οδος"⟩
    parse "4294967296D4294967296-2147483647  Für  ΟΔΟΣ " = .ok (.roll roll) ∧
      parse "1d4294967295-2147483647 für  οδος" = .ok (.roll roll) ∧
      Roll.TidyReason "für  οδος" ∧
      parse "1d4294967295-2147483647" = .ok (.roll { roll with reason := none }) := by
  intro roll
  have parsed : parse "4294967296D4294967296-2147483647  Für  ΟΔΟΣ " = .ok (.roll roll) := by
    decide +kernel
  have written : roll.commandText = "1d4294967295-2147483647 für  οδος" := by decide +kernel
  have short : roll.expression = "1d4294967295-2147483647" := by decide +kernel
  obtain ⟨again, tidy, alone⟩ := parse_again parsed
  rw [written] at again
  rw [short] at alone
  exact ⟨parsed, again, tidy _ rfl, alone⟩

end Command
end SlashDice
