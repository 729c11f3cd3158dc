import SlashDice.Proofs.Text.LetterCase

/-!
# Texts with letters in the other case

Changing the case of ASCII letters changes neither the lower-case form of a text nor
where it is blank: the rule for the final sigma takes both cases of a letter alike.
A trimmed text is trimmed in lower case, too.
-/

namespace SlashDice
namespace Text
namespace Ascii

/-- The same character, or the same ASCII letter in the other case. -/
def SameLetter (c d : Char) : Prop :=
  d = c ∨ d = c.toLower ∨ d = c.toUpper

instance (c d : Char) : Decidable (SameLetter c d) :=
  inferInstanceAs (Decidable (d = c ∨ d = c.toLower ∨ d = c.toUpper))

theorem toUpper_of_not_ascii {c : Char} (outside : 0x80 ≤ c.toNat) : c.toUpper = c := by
  unfold Char.toUpper
  rw [dif_neg]
  rintro ⟨-, high⟩
  have bound : c.toNat ≤ 'z'.toNat := UInt32.le_iff_toNat_le.mp high
  have last : 'z'.toNat = 122 := rfl
  omega

theorem toLower_eq_of_sameLetter {c d : Char} (same : SameLetter c d) : d.toLower = c.toLower := by
  have either : c.toLower.toLower = c.toLower ∧ c.toUpper.toLower = c.toLower := by
    by_cases ascii : c.toNat < 0x80
    · exact of_code_points
        (p := fun c => c.toLower.toLower = c.toLower ∧ c.toUpper.toLower = c.toLower)
        (by decide +kernel) ascii
    · have outside := Nat.le_of_not_lt ascii
      simp only [toLower_of_not_ascii outside, toUpper_of_not_ascii outside, and_self]
  rcases same with rfl | rfl | rfl
  · rfl
  · exact either.1
  · exact either.2

theorem map_toLower_eq_of_sameLetters {text other : List Char}
    (same : List.Forall₂ SameLetter text other) :
    other.map Char.toLower = text.map Char.toLower := by
  induction same with
  | nil => rfl
  | cons first rest induction =>
      rw [List.map_cons, List.map_cons, toLower_eq_of_sameLetter first, induction]

end Ascii

namespace LetterCase

/-- Neither the lower-case form nor the kind of a character depends on the case of an
ASCII letter. -/
theorem toLower_facts (c : Char) :
    lowerChar c.toLower = lowerChar c ∧ isIgnorable c.toLower = isIgnorable c ∧
      isCased c.toLower = isCased c ∧ isBlank c.toLower = isBlank c := by
  by_cases ascii : c.toNat < 0x80
  · exact Ascii.of_code_points
      (p := fun c => lowerChar c.toLower = lowerChar c ∧ isIgnorable c.toLower = isIgnorable c ∧
        isCased c.toLower = isCased c ∧ isBlank c.toLower = isBlank c) (by decide +kernel) ascii
  · rw [Ascii.toLower_of_not_ascii (Nat.le_of_not_lt ascii)]
    exact ⟨rfl, rfl, rfl, rfl⟩

theorem startsCased_map_toLower (text : List Char) :
    startsCased (text.map Char.toLower) = startsCased text := by
  have sameKind : (fun c => !isIgnorable c) ∘ Char.toLower = fun c => !isIgnorable c := by
    funext c
    simp [(toLower_facts c).2.1]
  rw [startsCased, List.find?_map, sameKind, startsCased, Option.any_map]
  congr 1
  funext c
  exact (toLower_facts c).2.2.1

theorem lowerFrom_map_toLower (afterCased : Bool) (text : List Char) :
    lowerFrom afterCased (text.map Char.toLower) = lowerFrom afterCased text := by
  induction text generalizing afterCased with
  | nil => rfl
  | cons first rest induction =>
      obtain ⟨lowered, ignorable, cased, -⟩ := toLower_facts first
      have sigma : first.toLower = 'Σ' ↔ first = 'Σ' := Ascii.toLower_eq_iff rfl
      rw [List.map_cons, lowerFrom_cons, lowerFrom_cons, induction, ignorable, cased]
      simp only [lowerHead, sigma, startsCased_map_toLower, lowered]

/-- The lower-case form of a text starts and ends with a blank character only if the
text does. -/
theorem isBlank_head?_lowerFrom {afterCased : Bool} {text : List Char} {d : Char}
    (here : d ∈ (lowerFrom afterCased text).head?) (blank : isBlank d = true) :
    ∃ c ∈ text.head?, isBlank c = true := by
  cases text with
  | nil => cases here
  | cons first rest =>
      rw [lowerFrom_cons, List.head?_append_of_ne_nil _ (lowerHead_ne_nil _ _ _)] at here
      exact ⟨first, rfl, isBlank_of_mem_lowerHead (List.mem_of_mem_head? here) blank⟩

theorem isBlank_getLast?_lowerFrom {afterCased : Bool} {text : List Char} {d : Char}
    (last : d ∈ (lowerFrom afterCased text).getLast?) (blank : isBlank d = true) :
    ∃ c ∈ text.getLast?, isBlank c = true := by
  induction text generalizing afterCased with
  | nil => cases last
  | cons first rest induction =>
      rw [lowerFrom_cons] at last
      cases rest with
      | nil =>
          rw [lowerFrom, List.append_nil] at last
          exact ⟨first, rfl, isBlank_of_mem_lowerHead (List.mem_of_getLast? last) blank⟩
      | cons second rest =>
          rw [lowerFrom_cons, List.getLast?_append_of_ne_nil] at last
          · rw [List.getLast?_cons_cons]
            exact induction last
          · simp [lowerHead_ne_nil]

end LetterCase

open LetterCase

@[simp]
theorem lowercase_map_toLower (text : List Char) :
    lowercase (text.map Char.toLower) = lowercase text :=
  lowerFrom_map_toLower false text

theorem trim_map_toLower (text : List Char) :
    trim (text.map Char.toLower) = (trim text).map Char.toLower := by
  have sameKind : isBlank ∘ Char.toLower = isBlank := by
    funext c
    exact (toLower_facts c).2.2.2
  rw [trim, trimEnd, trimStart, List.dropWhile_map, sameKind, ← List.map_reverse,
    List.dropWhile_map, sameKind, ← List.map_reverse, trim, trimEnd, trimStart]

/-- The lower-case form of a trimmed text has no blank character at its ends. -/
theorem trim_lowercase {text : List Char} (trimmed : trim text = text) :
    trim (lowercase text) = lowercase text := by
  obtain ⟨head, last⟩ := trim_eq_self_iff.mp trimmed
  rw [trim_eq_self_iff]
  constructor
  · intro d here
    by_contra blank
    obtain ⟨c, first, isBlank⟩ := isBlank_head?_lowerFrom here (by simpa using blank)
    simp [head c first] at isBlank
  · intro d here
    by_contra blank
    obtain ⟨c, final, isBlank⟩ := isBlank_getLast?_lowerFrom here (by simpa using blank)
    simp [last c final] at isBlank

end Text
end SlashDice
