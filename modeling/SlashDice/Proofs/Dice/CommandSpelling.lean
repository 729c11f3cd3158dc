import SlashDice.Proofs.Dice.Command
import SlashDice.Proofs.Text.Recasing

/-!
# One command in several spellings

A command is read from its text in lower case without the blank characters around it.
So it may be typed with its letters in the other case and with more blank characters,
and the text that it is read from is a spelling of it, too.
-/

namespace SlashDice
namespace Command

open Text

theorem normalText_of_sameLetters {text other before after : String}
    (same : List.Forall₂ Ascii.SameLetter text.toList other.toList)
    (blankBefore : ∀ c ∈ before.toList, isBlank c = true)
    (blankAfter : ∀ c ∈ after.toList, isBlank c = true) :
    normalText (before ++ other ++ after) = normalText text := by
  have typed : typedText (before ++ other ++ after) = typedText other := by
    simp only [typedText, String.toList_append]
    exact trim_append_of_blank _ blankBefore blankAfter
  calc
    normalText (before ++ other ++ after) = lowercase (trim other.toList) := by
      rw [normalText, typed, typedText]
    _ = lowercase (trim (other.toList.map Char.toLower)) := by
      rw [trim_map_toLower, lowercase_map_toLower]
    _ = lowercase (trim (text.toList.map Char.toLower)) := by
      rw [Ascii.map_toLower_eq_of_sameLetters same]
    _ = normalText text := by
      rw [trim_map_toLower, lowercase_map_toLower, normalText, typedText]

theorem normalText_normalText (text : String) :
    normalText (String.ofList (normalText text)) = normalText text := by
  have trimmed : trim (normalText text) = normalText text := trim_lowercase (trim_trim _)
  rw [normalText, typedText, String.toList_ofList, trimmed]
  exact lowercase_lowercase _

theorem parse_congr {text other : String} (same : normalText text = normalText other) :
    parse text = parse other := by
  rw [parse_eq_parseNormal, parse_eq_parseNormal, same]

/-- A command is read in the same way when ASCII letters of its text are typed in the other
case, with any blank characters before it and after it: it asks for the same help or the
same roll with the same reason, or it is refused with the same text.  So is the text that is
trimmed and then brought to lower case. -/
theorem parse_ignores_case_and_blanks :
    (∀ text other before after : String,
      List.Forall₂ Ascii.SameLetter text.toList other.toList →
      (∀ c ∈ before.toList, isBlank c = true) → (∀ c ∈ after.toList, isBlank c = true) →
        parse (before ++ other ++ after) = parse text) ∧
    ∀ text : String, parse (String.ofList (lowercase (trim text.toList))) = parse text := by
  constructor
  · intro text other before after same blankBefore blankAfter
    exact parse_congr (normalText_of_sameLetters same blankBefore blankAfter)
  · exact fun text => parse_congr (normalText_normalText text)

/-- Blank characters outside ASCII around a roll whose reason has a final sigma after letters
in either case. -/
theorem parse_ignores_case_and_blanks_final_sigma :
    List.Forall₂ Ascii.SameLetter "2d6 Zeta ABΣ İx".toList "2D6 zETA abΣ İX".toList ∧
      (∀ c ∈ "\u2003\n".toList, isBlank c = true) ∧ (∀ c ∈ "\u00a0".toList, isBlank c = true) ∧
      parse ("\u2003\n" ++ "2D6 zETA abΣ İX" ++ "\u00a0") =
        .ok (.roll ⟨2, 6, 0, some "zeta abς i\u0307x"⟩) := by
  have same : List.Forall₂ Ascii.SameLetter "2d6 Zeta ABΣ İx".toList "2D6 zETA abΣ İX".toList := by
    decide +kernel
  have blankBefore : ∀ c ∈ "\u2003\n".toList, isBlank c = true :=
    List.all_eq_true.mp (by decide)
  have blankAfter : ∀ c ∈ "\u00a0".toList, isBlank c = true :=
    List.all_eq_true.mp (by decide)
  refine ⟨same, blankBefore, blankAfter, ?_⟩
  rw [parse_ignores_case_and_blanks.1 _ _ _ _ same blankBefore blankAfter]
  decide +kernel

end Command
end SlashDice
