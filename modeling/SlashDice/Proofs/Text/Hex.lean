import SlashDice.Proofs.Text.Ascii
import SlashDice.Text.Hex

/-!
# Hexadecimal spellings and letter case

A text spells some bytes exactly if it is their hexadecimal text with any of its
letters in upper case.
-/

namespace SlashDice
namespace Text
namespace Hex

theorem value?_of_not_ascii {c : Char} (outside : 0x80 ≤ c.toNat) : value? c = none := by
  have beyond : ∀ {last : Char}, last.toNat < 0x80 → ¬ c ≤ last := by
    intro last small within
    have bound : c.toNat ≤ last.toNat := UInt32.le_iff_toNat_le.mp within
    omega
  unfold value?
  rw [if_neg fun both => beyond (by decide) both.2, if_neg fun both => beyond (by decide) both.2,
    if_neg fun both => beyond (by decide) both.2]

theorem toNat_digit_lt {value : Nat} (small : value < 16) : (digit value).toNat < 0x80 := by
  have all : ∀ value < 16, (digit value).toNat < 0x80 := by decide
  exact all value small

/-- A character has a value below sixteen exactly if it is the digit of that
value in either letter case. -/
theorem value?_eq_some_iff {c : Char} {value : Nat} :
    value? c = some value ↔ value < 16 ∧ c.toLower = digit value := by
  by_cases ascii : c.toNat < 0x80
  · constructor
    · intro found
      have digits : (value? c).all fun value =>
          value < 16 && c.toLower == digit value :=
        Ascii.of_code_points (p := fun c => (value? c).all fun value =>
          value < 16 && c.toLower == digit value) (by decide +kernel) ascii
      simpa [found] using digits
    · rintro ⟨small, lowered⟩
      have values : ∀ value < 16, c.toLower = digit value → value? c = some value :=
        Ascii.of_code_points (p := fun c =>
          ∀ value < 16, c.toLower = digit value → value? c = some value) (by decide +kernel) ascii
      exact values value small lowered
  · have outside := Nat.le_of_not_lt ascii
    rw [value?_of_not_ascii outside, Ascii.toLower_of_not_ascii outside]
    constructor
    · intro found
      cases found
    · rintro ⟨small, same⟩
      exact absurd (same ▸ toNat_digit_lt small) ascii

theorem spells_iff {text : List Char} {bytes : List UInt8} :
    Spells text bytes ↔ text.map Char.toLower = encode bytes := by
  constructor
  · intro spelling
    induction spelling with
    | nil => rfl
    | @cons high low h l rest bytes highValue lowValue _ induction =>
        obtain ⟨highSmall, highDigit⟩ := value?_eq_some_iff.mp highValue
        obtain ⟨lowSmall, lowDigit⟩ := value?_eq_some_iff.mp lowValue
        have small : 16 * h + l < 256 := by omega
        have byte : (UInt8.ofNat (16 * h + l)).toNat = 16 * h + l :=
          UInt8.toNat_ofNat_of_lt' small
        have highHalf : (16 * h + l) / 16 = h := by omega
        have lowHalf : (16 * h + l) % 16 = l := by omega
        simp only [List.map_cons, highDigit, lowDigit, induction, encode_cons, byte, highHalf,
          lowHalf]
  · intro lowered
    induction bytes generalizing text with
    | nil =>
        rw [List.map_eq_nil_iff.mp lowered]
        exact .nil
    | cons byte bytes induction =>
        have size := byte.toNat_lt
        rw [encode_cons] at lowered
        obtain ⟨high, tail, rfl, highDigit, tailLowered⟩ := List.map_eq_cons_iff.mp lowered
        obtain ⟨low, rest, rfl, lowDigit, restLowered⟩ := List.map_eq_cons_iff.mp tailLowered
        have highValue := value?_eq_some_iff.mpr ⟨by omega, highDigit⟩
        have lowValue := value?_eq_some_iff.mpr ⟨by omega, lowDigit⟩
        have whole : 16 * (byte.toNat / 16) + byte.toNat % 16 = byte.toNat := by omega
        have spelling := Spells.cons highValue lowValue (induction restLowered)
        rwa [whole, UInt8.ofNat_toNat] at spelling

@[simp]
theorem length_encode (bytes : List UInt8) : (encode bytes).length = 2 * bytes.length := by
  induction bytes with
  | nil => rfl
  | cons byte rest induction =>
      simp only [encode_cons, List.length_cons, induction]
      omega

end Hex
end Text
end SlashDice
