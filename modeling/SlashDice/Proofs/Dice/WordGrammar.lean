import Mathlib.Computability.Language
import SlashDice.Proofs.Dice.Token

/-!
# The grammar of dice words

The words in dice notation as a language: digits for the count, the letter d, at least one
digit for the sides, and perhaps a sign with at least one digit for the modifier.
Scanning accepts the words of the language and no others, and what it gives is the only
way to put the word together from digit strings.
-/

namespace SlashDice

open Text
open scoped Computability

namespace DiceWord

def digit : Language Char :=
  {word | ∃ c, '0' ≤ c ∧ c ≤ '9' ∧ word = [c]}

def digits : Language Char :=
  digit * digit∗

def modifier : Language Char :=
  {['+'], ['-']} * digits

def words : Language Char :=
  digit∗ * {['d']} * digits * (1 + modifier)

theorem mem_digit_iff {word : List Char} :
    word ∈ digit ↔ ∃ c : Char, c.isDigit = true ∧ word = [c] := by
  simp only [Char.isDigit, Bool.and_eq_true, decide_eq_true_eq, and_assoc]
  exact Iff.rfl

theorem mem_digit_kstar_iff {word : List Char} :
    word ∈ digit∗ ↔ ∀ c ∈ word, c.isDigit = true := by
  constructor
  · rintro ⟨pieces, rfl, inDigit⟩ c member
    obtain ⟨piece, here, inPiece⟩ := List.mem_flatten.mp member
    obtain ⟨d, isDigit, rfl⟩ := mem_digit_iff.mp (inDigit piece here)
    rwa [List.mem_singleton.mp inPiece]
  · intro isDigits
    refine ⟨word.map fun c => [c], (List.flatMap_singleton' word).symm, fun piece member => ?_⟩
    obtain ⟨c, here, rfl⟩ := List.mem_map.mp member
    exact mem_digit_iff.mpr ⟨c, isDigits c here, rfl⟩

theorem mem_digits_iff {word : List Char} : word ∈ digits ↔ Numeral.IsDigits word := by
  rw [digits, Language.mem_mul]
  simp only [mem_digit_iff, mem_digit_kstar_iff]
  constructor
  · rintro ⟨_, ⟨c, isDigit, rfl⟩, rest, isDigits, rfl⟩
    exact ⟨List.cons_ne_nil c rest, List.forall_mem_cons.mpr ⟨isDigit, isDigits⟩⟩
  · rintro ⟨nonempty, isDigits⟩
    obtain ⟨c, rest, rfl⟩ := List.exists_cons_of_ne_nil nonempty
    rw [List.forall_mem_cons] at isDigits
    exact ⟨[c], ⟨c, isDigits.1, rfl⟩, rest, isDigits.2, rfl⟩

end DiceWord

namespace Token

/-- A word is put together from the digit strings: the count, the letter d, the sides, and
the sign and the digits of the modifier if there is one. -/
inductive Decomposes : List Char → Token → Prop
  | bare {count sides : List Char} : (∀ c ∈ count, c.isDigit = true) → Numeral.IsDigits sides →
      Decomposes (count ++ 'd' :: sides) ⟨count, sides, none⟩
  | plus {count sides digits : List Char} : (∀ c ∈ count, c.isDigit = true) →
      Numeral.IsDigits sides → Numeral.IsDigits digits →
        Decomposes (count ++ 'd' :: (sides ++ '+' :: digits)) ⟨count, sides, some ⟨false, digits⟩⟩
  | minus {count sides digits : List Char} : (∀ c ∈ count, c.isDigit = true) →
      Numeral.IsDigits sides → Numeral.IsDigits digits →
        Decomposes (count ++ 'd' :: (sides ++ '-' :: digits)) ⟨count, sides, some ⟨true, digits⟩⟩

variable {word : List Char} {token : Token}

theorem decomposes_iff : Decomposes word token ↔ word = token.text ∧ token.WellFormed := by
  rw [wellFormed_iff]
  constructor
  · intro decomposes
    cases decomposes with
    | bare countDigits sidesDigits =>
        exact ⟨by simp [text], countDigits, sidesDigits, nofun⟩
    | plus countDigits sidesDigits digits =>
        refine ⟨rfl, countDigits, sidesDigits, ?_⟩
        rintro modifier ⟨⟩
        exact digits
    | minus countDigits sidesDigits digits =>
        refine ⟨rfl, countDigits, sidesDigits, ?_⟩
        rintro modifier ⟨⟩
        exact digits
  · rintro ⟨rfl, countDigits, sidesDigits, modifierDigits⟩
    obtain ⟨count, sides, modifier⟩ := token
    cases modifier with
    | none =>
        rw [text, Option.map_none, Option.getD_none, List.append_nil]
        exact .bare countDigits sidesDigits
    | some modifier =>
        obtain ⟨negative, digits⟩ := modifier
        have isDigits := modifierDigits ⟨negative, digits⟩ rfl
        cases negative with
        | false => exact .plus countDigits sidesDigits isDigits
        | true => exact .minus countDigits sidesDigits isDigits

theorem scan?_eq_some_iff_decomposes : scan? word = some token ↔ Decomposes word token :=
  scan?_eq_some_iff.trans decomposes_iff.symm

theorem mem_words_iff : word ∈ DiceWord.words ↔ ∃ token, Decomposes word token := by
  simp only [DiceWord.words, DiceWord.modifier, Language.mem_mul, Language.mem_add,
    Language.mem_one, DiceWord.mem_digit_kstar_iff, DiceWord.mem_digits_iff]
  constructor
  · rintro ⟨_, ⟨_, ⟨count, countDigits, letter, rfl, rfl⟩, sides, sidesDigits, rfl⟩, tail, ending,
      rfl⟩
    rw [List.append_assoc, List.append_assoc, List.singleton_append]
    rcases ending with rfl | ⟨sign, rfl | rfl, digits, isDigits, rfl⟩
    · rw [List.append_nil]
      exact ⟨_, .bare countDigits sidesDigits⟩
    · exact ⟨_, .plus countDigits sidesDigits isDigits⟩
    · exact ⟨_, .minus countDigits sidesDigits isDigits⟩
  · rintro ⟨token, decomposes⟩
    cases decomposes with
    | bare countDigits sidesDigits =>
        exact ⟨_, ⟨_, ⟨_, countDigits, ['d'], rfl, rfl⟩, _, sidesDigits, rfl⟩, [], .inl rfl, by simp⟩
    | plus countDigits sidesDigits isDigits =>
        exact ⟨_, ⟨_, ⟨_, countDigits, ['d'], rfl, rfl⟩, _, sidesDigits, rfl⟩, _,
          .inr ⟨['+'], .inl rfl, _, isDigits, rfl⟩, by simp⟩
    | minus countDigits sidesDigits isDigits =>
        exact ⟨_, ⟨_, ⟨_, countDigits, ['d'], rfl, rfl⟩, _, sidesDigits, rfl⟩, _,
          .inr ⟨['-'], .inr rfl, _, isDigits, rfl⟩, by simp⟩

/-- Scanning accepts exactly the words in dice notation, and it gives the one way in which
such a word is put together from digit strings. -/
theorem scan_accepts_grammar (word : List Char) :
    ((∃ token, scan? word = some token) ↔ word ∈ DiceWord.words) ∧
    ∀ token, scan? word = some token ↔
      Decomposes word token ∧ ∀ other, Decomposes word other → other = token := by
  simp only [mem_words_iff, ← scan?_eq_some_iff_decomposes, true_and]
  intro token
  refine ⟨fun scanned => ⟨scanned, fun other again => ?_⟩, And.left⟩
  exact Option.some.inj (again.symm.trans scanned)

end Token
end SlashDice
