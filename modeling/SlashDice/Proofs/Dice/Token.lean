import Mathlib.Data.List.TakeWhile
import SlashDice.Dice.Token
import SlashDice.Proofs.Text.LetterCase
import SlashDice.Proofs.Text.Numeral
import SlashDice.Proofs.Text.Runs

/-!
# Which words are in dice notation

Scanning accepts the words that are put together from digit strings of dice
notation, and gives these digit strings back.  Players may also type the letter in
upper case; lower-casing the word is what brings it to the form that is scanned.
The numbers that the digit strings stand for are described without the reader.
-/

namespace SlashDice

open Text

namespace SignedDigits

theorem scanDigits?_eq_some_iff {negative : Bool} {digits : List Char}
    {modifier : SignedDigits} :
    scanDigits? negative digits = some modifier ↔
      modifier = ⟨negative, digits⟩ ∧ Numeral.IsDigits digits := by
  rw [scanDigits?, Option.ite_none_right_eq_some, List.all_eq_true, Option.some.injEq]
  constructor
  · rintro ⟨isDigits, rfl⟩
    exact ⟨rfl, isDigits⟩
  · rintro ⟨rfl, isDigits⟩
    exact ⟨isDigits, rfl⟩

/-- Scanning a modifier accepts a sign with digits after it. -/
theorem scan?_eq_some_iff {text : List Char} {modifier : SignedDigits} :
    scan? text = some modifier ↔ text = modifier.text ∧ Numeral.IsDigits modifier.digits := by
  constructor
  · intro scanned
    unfold scan? at scanned
    split at scanned
    case h_3 => cases scanned
    all_goals
      obtain ⟨rfl, isDigits⟩ := scanDigits?_eq_some_iff.mp scanned
      exact ⟨rfl, isDigits⟩
  · rintro ⟨rfl, isDigits⟩
    obtain ⟨negative, digits⟩ := modifier
    cases negative with
    | false => exact scanDigits?_eq_some_iff.mpr ⟨rfl, isDigits⟩
    | true => exact scanDigits?_eq_some_iff.mpr ⟨rfl, isDigits⟩

/-- The number that a sign with digits after it stands for. -/
def toInt (modifier : SignedDigits) : Int :=
  if modifier.negative then
    -(Numeral.decimal modifier.digits : Int)
  else
    Numeral.decimal modifier.digits

/-- A modifier is read as its value if the magnitude is below half of the range, and
otherwise as nothing. -/
theorem value?_of_isDigits {modifier : SignedDigits}
    (isDigits : Numeral.IsDigits modifier.digits) :
    modifier.value?.map Int32.toInt =
      if Numeral.decimal modifier.digits < 0x80000000 then some modifier.toInt else none := by
  rw [value?, Numeral.int32?_of_isDigits isDigits]
  by_cases fits : Numeral.decimal modifier.digits < 0x80000000
  · rw [if_pos fits, if_pos fits, Option.map_some, Option.map_some, toInt]
    by_cases negative : modifier.negative = true
    · rw [if_pos negative, if_pos negative, ← Int32.ofInt_neg,
        Int32.toInt_ofInt_of_le (by omega) (by omega)]
    · rw [if_neg negative, if_neg negative, Int32.toInt_ofInt_of_le (by omega) (by omega)]
  · rw [if_neg fits, if_neg fits]
    rfl

end SignedDigits

namespace Token

variable {token : Token}

def modifierText (token : Token) : List Char :=
  (token.modifier.map SignedDigits.text).getD []

theorem text_eq : token.text = token.count ++ 'd' :: (token.sides ++ token.modifierText) :=
  rfl

theorem endsRun_modifierText : EndsRun Char.isDigit token.modifierText := by
  unfold modifierText
  cases token.modifier with
  | none => exact endsRun_nil
  | some modifier =>
      refine endsRun_cons ?_ modifier.digits
      cases modifier.negative <;> rfl

theorem scanSides?_eq_some_iff {count rest : List Char} :
    scanSides? count rest = some token ↔
      token.count = count ∧ rest = token.sides ++ token.modifierText ∧
        Numeral.IsDigits token.sides ∧
        ∀ modifier ∈ token.modifier, Numeral.IsDigits modifier.digits := by
  have split := (List.takeWhile_append_dropWhile (p := Char.isDigit) (l := rest)).symm
  have inSides : ∀ c ∈ rest.takeWhile Char.isDigit, c.isDigit = true :=
    fun c => List.mem_takeWhile_imp
  constructor
  · intro scanned
    rw [scanSides?] at scanned
    split at scanned
    case isTrue => cases scanned
    case isFalse nonempty =>
      split at scanned
      case h_1 done =>
        cases scanned
        rw [done] at split
        exact ⟨rfl, split, ⟨nonempty, inSides⟩, nofun⟩
      case h_2 tail =>
        obtain ⟨modifier, found, rfl⟩ := Option.map_eq_some_iff.mp scanned
        obtain ⟨text, isDigits⟩ := SignedDigits.scan?_eq_some_iff.mp found
        rw [text] at split
        refine ⟨rfl, split, ⟨nonempty, inSides⟩, ?_⟩
        rintro other ⟨⟩
        exact isDigits
  · rintro ⟨rfl, rfl, isDigits, modifierDigits⟩
    have sides := takeWhile_append_of_endsRun isDigits.2 token.endsRun_modifierText
    have tail := dropWhile_append_of_endsRun isDigits.2 token.endsRun_modifierText
    rw [scanSides?, sides, tail, if_neg isDigits.1]
    obtain ⟨count, sides, modifier⟩ := token
    cases modifier with
    | none => rfl
    | some modifier =>
        have found : SignedDigits.scan? modifier.text = some modifier :=
          SignedDigits.scan?_eq_some_iff.mpr ⟨rfl, modifierDigits modifier rfl⟩
        change (SignedDigits.scan? modifier.text).map _ = _
        rw [found]
        rfl

theorem wellFormed_iff :
    token.WellFormed ↔ (∀ c ∈ token.count, c.isDigit = true) ∧ Numeral.IsDigits token.sides ∧
      ∀ modifier ∈ token.modifier, Numeral.IsDigits modifier.digits := by
  simp only [Numeral.IsDigits, ← List.all_eq_true]
  constructor
  · intro wellFormed
    exact ⟨wellFormed.count_digits, ⟨wellFormed.sides_nonempty, wellFormed.sides_digits⟩,
      wellFormed.modifier_digits⟩
  · rintro ⟨countDigits, sidesDigits, modifierDigits⟩
    exact ⟨countDigits, sidesDigits.2, sidesDigits.1, modifierDigits⟩

/-- Scanning accepts the words in dice notation and gives their digit strings. -/
theorem scan?_eq_some_iff {word : List Char} :
    scan? word = some token ↔ word = token.text ∧ token.WellFormed := by
  rw [wellFormed_iff]
  constructor
  · intro scanned
    have split := (List.takeWhile_append_dropWhile (p := Char.isDigit) (l := word)).symm
    unfold scan? at scanned
    split at scanned
    case h_2 => cases scanned
    case h_1 rest found =>
      obtain ⟨count, rfl, sidesDigits, modifierDigits⟩ := scanSides?_eq_some_iff.mp scanned
      rw [found, ← count] at split
      refine ⟨split, ?_, sidesDigits, modifierDigits⟩
      rw [count]
      exact fun c => List.mem_takeWhile_imp
  · rintro ⟨rfl, countDigits, sidesDigits, modifierDigits⟩
    have ends : EndsRun Char.isDigit ('d' :: (token.sides ++ token.modifierText)) :=
      endsRun_cons (by decide) _
    rw [scan?, text_eq, dropWhile_append_of_endsRun countDigits ends,
      takeWhile_append_of_endsRun countDigits ends]
    exact scanSides?_eq_some_iff.mpr ⟨rfl, rfl, sidesDigits, modifierDigits⟩

/-- The words in dice notation as players type them, with the letter in either case,
and their digit strings. -/
inductive Typed : List Char → Token → Prop
  | intro {token : Token} {letter : Char} : token.WellFormed → letter = 'd' ∨ letter = 'D' →
      Typed (token.count ++ letter :: (token.sides ++ token.modifierText)) token

theorem isAlpha_of_mem_tail (wellFormed : token.WellFormed) :
    ∀ c ∈ token.sides ++ token.modifierText, c.toNat < 0x80 ∧ c.isAlpha = false := by
  obtain ⟨-, sidesDigits, modifierDigits⟩ := wellFormed_iff.mp wellFormed
  rw [List.forall_mem_append]
  refine ⟨fun c member => Ascii.isAlpha_of_isDigit (sidesDigits.2 c member), ?_⟩
  unfold modifierText
  cases modifier : token.modifier with
  | none => exact List.forall_mem_nil _
  | some signed =>
      have digits := (modifierDigits signed modifier).2
      refine List.forall_mem_cons.mpr ⟨?_, fun c member => Ascii.isAlpha_of_isDigit (digits c member)⟩
      cases signed.negative <;> decide

theorem plain_of_mem_text (wellFormed : token.WellFormed) :
    ∀ c ∈ token.text, c.toNat < 0x80 ∧ c ≠ 'k' := by
  have noK : ∀ {c : Char}, c.toNat < 0x80 ∧ c.isAlpha = false → c.toNat < 0x80 ∧ c ≠ 'k' := by
    rintro c ⟨ascii, noLetter⟩
    refine ⟨ascii, ?_⟩
    rintro rfl
    cases noLetter
  have countDigits := (wellFormed_iff.mp wellFormed).1
  rw [text_eq, List.forall_mem_append, List.forall_mem_cons]
  exact ⟨fun c member => noK (Ascii.isAlpha_of_isDigit (countDigits c member)), by decide,
    fun c member => noK (isAlpha_of_mem_tail wellFormed c member)⟩

theorem typed_iff {word : List Char} :
    Typed word token ↔ word.map Char.toLower = token.text ∧ token.WellFormed := by
  have inCount : token.WellFormed → ∀ c ∈ token.count, c.isAlpha = false :=
    fun wellFormed c member =>
      (Ascii.isAlpha_of_isDigit ((wellFormed_iff.mp wellFormed).1 c member)).2
  have inTail : token.WellFormed → ∀ c ∈ token.sides ++ token.modifierText, c.isAlpha = false :=
    fun wellFormed c member => (isAlpha_of_mem_tail wellFormed c member).2
  constructor
  · rintro ⟨wellFormed, letter⟩
    refine ⟨?_, wellFormed⟩
    rw [List.map_append, List.map_cons, Ascii.toLower_eq_d_iff.mpr letter,
      (Ascii.map_toLower_eq_iff (inCount wellFormed)).mpr rfl,
      (Ascii.map_toLower_eq_iff (inTail wellFormed)).mpr rfl, text_eq]
  · rintro ⟨lowered, wellFormed⟩
    rw [text_eq, List.map_eq_append_iff] at lowered
    obtain ⟨count, rest, rfl, countLowered, restLowered⟩ := lowered
    obtain ⟨letter, tail, rfl, letterLowered, tailLowered⟩ := List.map_eq_cons_iff.mp restLowered
    rw [(Ascii.map_toLower_eq_iff (inCount wellFormed)).mp countLowered,
      (Ascii.map_toLower_eq_iff (inTail wellFormed)).mp tailLowered]
    exact .intro wellFormed (Ascii.toLower_eq_d_iff.mp letterLowered)

/-- Lower-casing a word and scanning it accepts the typed words in dice notation:
full lower-casing makes no other word look like one, and hides none. -/
theorem scan?_lowercase_eq_some_iff {word : List Char} :
    scan? (lowercase word) = some token ↔ Typed word token := by
  rw [scan?_eq_some_iff, typed_iff]
  exact and_congr_left fun wellFormed => lowercase_eq_iff (plain_of_mem_text wellFormed)

/-- The roll that digit strings of dice notation ask for, its reason apart. -/
structure Denotes (token : Token) (roll : Roll) : Prop where
  count_eq : roll.count.toNat =
    if token.count ≠ [] ∧ Numeral.decimal token.count < UInt32.size then
      Numeral.decimal token.count
    else 1
  sides_eq : roll.sides.toNat =
    if Numeral.decimal token.sides < UInt32.size then Numeral.decimal token.sides else UInt32.size - 1
  modifier_eq : roll.modifier.toInt =
    match token.modifier with
    | none => 0
    | some modifier =>
      if Numeral.decimal modifier.digits ≤ 0x7FFFFFFF then modifier.toInt else 0

theorem denotes_toRoll (wellFormed : token.WellFormed) (reason : String) :
    token.Denotes (token.toRoll reason) := by
  obtain ⟨countDigits, sidesDigits, modifierDigits⟩ := wellFormed_iff.mp wellFormed
  constructor
  case count_eq =>
    rw [toRoll, Roll.count_withReason, Numeral.uint32?_of_all_isDigit countDigits]
    split
    case isTrue fits => exact UInt32.toNat_ofNat_of_lt' fits.2
    case isFalse => rfl
  case sides_eq =>
    rw [toRoll, Roll.sides_withReason, Numeral.uint32?_of_all_isDigit sidesDigits.2]
    simp only [sidesDigits.1, ne_eq, not_false_eq_true, true_and]
    split
    case isTrue fits => exact UInt32.toNat_ofNat_of_lt' fits
    case isFalse => rfl
  case modifier_eq =>
    rw [toRoll, Roll.modifier_withReason]
    cases modifier : token.modifier with
    | none => rfl
    | some signed =>
        have read := SignedDigits.value?_of_isDigits (modifierDigits signed modifier)
        rw [Option.bind_some]
        by_cases fits : Numeral.decimal signed.digits < 0x80000000
        · rw [if_pos fits] at read
          obtain ⟨value, found, same⟩ := Option.map_eq_some_iff.mp read
          rw [found, Option.getD_some, same]
          exact (if_pos (Nat.le_pred_of_lt fits)).symm
        · rw [if_neg fits] at read
          rw [Option.map_eq_none_iff.mp read, Option.getD_none]
          exact (if_neg (by omega)).symm

end Token
end SlashDice
