/-!
# ASCII characters and letter case

A fact about the ASCII characters is checked code point by code point.  Changing
the case of ASCII letters neither makes an ASCII character nor removes one, and it
changes letters only.
-/

namespace SlashDice
namespace Text
namespace Ascii

/-- What holds of the first hundred and twenty-eight code points holds of every
ASCII character. -/
theorem of_code_points {p : Char → Prop} (all : ∀ n < 0x80, p (Char.ofNat n)) {c : Char}
    (ascii : c.toNat < 0x80) : p c := by
  have here := all c.toNat ascii
  rwa [Char.ofNat_toNat] at here

theorem ascii_of_isDigit {c : Char} (digit : c.isDigit = true) : c.toNat < 0x80 := by
  rw [Char.isDigit, Bool.and_eq_true, decide_eq_true_eq, decide_eq_true_eq] at digit
  exact Nat.lt_of_le_of_lt (UInt32.le_iff_toNat_le.mp digit.2) (by decide)

theorem isAlpha_of_isDigit {c : Char} (digit : c.isDigit = true) :
    c.toNat < 0x80 ∧ c.isAlpha = false := by
  have ascii := ascii_of_isDigit digit
  refine ⟨ascii, ?_⟩
  exact of_code_points (p := fun c => c.isDigit = true → c.isAlpha = false)
    (by decide +kernel) ascii digit

theorem toLower_of_not_ascii {c : Char} (outside : 0x80 ≤ c.toNat) : c.toLower = c := by
  unfold Char.toLower
  rw [dif_neg]
  rintro ⟨-, high⟩
  have bound : c.toNat ≤ 'Z'.toNat := UInt32.le_iff_toNat_le.mp high
  have last : 'Z'.toNat = 90 := rfl
  omega

theorem toNat_toLower_lt_iff {c : Char} : c.toLower.toNat < 0x80 ↔ c.toNat < 0x80 := by
  by_cases ascii : c.toNat < 0x80
  · have lowered : c.toLower.toNat < 0x80 :=
      of_code_points (p := fun c => c.toLower.toNat < 0x80) (by decide +kernel) ascii
    exact iff_of_true lowered ascii
  · rw [toLower_of_not_ascii (Nat.le_of_not_lt ascii)]

/-- Only letters have another case, and the other case of a letter is a letter. -/
theorem toLower_eq_self_or_isAlpha (c : Char) :
    c.toLower = c ∨ c.isAlpha = true ∧ c.toLower.isAlpha = true := by
  by_cases ascii : c.toNat < 0x80
  · exact of_code_points
      (p := fun c => c.toLower = c ∨ c.isAlpha = true ∧ c.toLower.isAlpha = true)
      (by decide +kernel) ascii
  · exact .inl (toLower_of_not_ascii (Nat.le_of_not_lt ascii))

/-- A character that is no letter is the lower-case form of itself only. -/
theorem toLower_eq_iff {c d : Char} (noLetter : d.isAlpha = false) : c.toLower = d ↔ c = d := by
  rcases toLower_eq_self_or_isAlpha c with same | ⟨letter, lowered⟩
  · rw [same]
  · constructor
    · rintro rfl
      rw [noLetter] at lowered
      cases lowered
    · rintro rfl
      rw [noLetter] at letter
      cases letter

theorem toLower_eq_d_iff {c : Char} : c.toLower = 'd' ↔ c = 'd' ∨ c = 'D' := by
  by_cases ascii : c.toNat < 0x80
  · exact of_code_points (p := fun c => c.toLower = 'd' ↔ c = 'd' ∨ c = 'D')
      (by decide +kernel) ascii
  · rw [toLower_of_not_ascii (Nat.le_of_not_lt ascii), eq_comm (a := c) (b := 'D')]
    refine ⟨.inl, fun either => either.elim id fun capital => ?_⟩
    exact absurd (by rw [← capital]; decide) ascii

theorem map_toLower_eq_iff {text caseless : List Char}
    (noLetters : ∀ d ∈ caseless, d.isAlpha = false) :
    text.map Char.toLower = caseless ↔ text = caseless := by
  induction caseless generalizing text with
  | nil => exact List.map_eq_nil_iff
  | cons first rest induction =>
      rw [List.forall_mem_cons] at noLetters
      cases text with
      | nil => exact ⟨nofun, nofun⟩
      | cons c text =>
          rw [List.map_cons, List.cons.injEq, List.cons.injEq, toLower_eq_iff noLetters.1,
            induction noLetters.2]

end Ascii
end Text
end SlashDice
