import Mathlib.Data.Nat.Digits.Defs
import SlashDice.Text.Numeral

/-!
# Which texts are numerals

The texts that are read as a number, described without the reader: a run of
decimal digits, perhaps with a sign before it, and a value in the range of the
word that is asked for.
-/

namespace SlashDice
namespace Text
namespace Numeral

def IsDigits (text : List Char) : Prop :=
  text ≠ [] ∧ ∀ c ∈ text, c.isDigit = true

def decimal (digits : List Char) : Nat :=
  Nat.ofDigitChars 10 digits 0

/-- The spellings of an integer: digits, with or without a sign before them. -/
inductive Spells : List Char → Int → Prop
  | unsigned {digits : List Char} : IsDigits digits → Spells digits (decimal digits)
  | plus {digits : List Char} : IsDigits digits → Spells ('+' :: digits) (decimal digits)
  | minus {digits : List Char} : IsDigits digits → Spells ('-' :: digits) (-(decimal digits : Int))

theorem ofDigits?_eq_some_iff {text : List Char} {value : Nat} :
    ofDigits? text = some value ↔ IsDigits text ∧ decimal text = value := by
  rw [ofDigits?, Option.ite_none_right_eq_some, List.all_eq_true, Option.some.injEq]
  rfl

theorem ofDigits?_of_isDigits {digits : List Char} (isDigits : IsDigits digits) :
    ofDigits? digits = some (decimal digits) :=
  ofDigits?_eq_some_iff.mpr ⟨isDigits, rfl⟩

theorem ne_cons_of_all_isDigit {digits : List Char} (isDigits : ∀ c ∈ digits, c.isDigit = true)
    {sign : Char} (noDigit : sign.isDigit = false) (rest : List Char) :
    digits ≠ sign :: rest := by
  rintro rfl
  rw [isDigits sign List.mem_cons_self] at noDigit
  cases noDigit

theorem natural?_of_all_isDigit {digits : List Char} (isDigits : ∀ c ∈ digits, c.isDigit = true) :
    natural? digits = ofDigits? digits := by
  unfold natural?
  split
  case h_1 rest => exact absurd rfl (ne_cons_of_all_isDigit isDigits (by decide) rest)
  case h_2 => rfl

theorem integer?_of_all_isDigit {digits : List Char} (isDigits : ∀ c ∈ digits, c.isDigit = true) :
    integer? digits = (ofDigits? digits).map Int.ofNat := by
  unfold integer?
  split
  case h_1 rest => exact absurd rfl (ne_cons_of_all_isDigit isDigits (by decide) rest)
  case h_2 => rw [natural?_of_all_isDigit isDigits]

/-- The reader takes exactly the spellings of an integer. -/
theorem integer?_eq_some_iff {text : List Char} {value : Int} :
    integer? text = some value ↔ Spells text value := by
  constructor
  · intro read
    unfold integer? natural? at read
    split at read
    case h_1 digits =>
      obtain ⟨magnitude, found, rfl⟩ := Option.map_eq_some_iff.mp read
      obtain ⟨isDigits, rfl⟩ := ofDigits?_eq_some_iff.mp found
      exact .minus isDigits
    split at read
    all_goals
      obtain ⟨magnitude, found, rfl⟩ := Option.map_eq_some_iff.mp read
      obtain ⟨isDigits, rfl⟩ := ofDigits?_eq_some_iff.mp found
    · exact .plus isDigits
    · exact .unsigned isDigits
  · intro spelling
    cases spelling with
    | unsigned isDigits =>
        simp [integer?_of_all_isDigit isDigits.2, ofDigits?_of_isDigits isDigits]
    | plus isDigits => simp [ofDigits?_of_isDigits isDigits]
    | minus isDigits => simp [ofDigits?_of_isDigits isDigits]

theorem isDigit_or_sign_of_spells {text : List Char} {value : Int} (spelling : Spells text value)
    {c : Char} (member : c ∈ text) : c.isDigit = true ∨ c = '+' ∨ c = '-' := by
  cases spelling with
  | unsigned isDigits => exact .inl (isDigits.2 c member)
  | plus isDigits =>
      rcases List.mem_cons.mp member with sign | digit
      · exact .inr (.inl sign)
      · exact .inl (isDigits.2 c digit)
  | minus isDigits =>
      rcases List.mem_cons.mp member with sign | digit
      · exact .inr (.inr sign)
      · exact .inl (isDigits.2 c digit)

theorem integerBetween?_eq_some_iff {least bound value : Int} {text : List Char} :
    integerBetween? least bound text = some value ↔
      Spells text value ∧ least ≤ value ∧ value < bound := by
  rw [integerBetween?, Option.filter_eq_some_iff, integer?_eq_some_iff]
  simp

/-- A text is read as a number of 64 bits exactly if it spells that number. -/
theorem int64?_eq_some_iff {text : List Char} {value : Int64} :
    int64? text = some value ↔ Spells text value.toInt := by
  rw [int64?, Option.map_eq_some_iff]
  constructor
  · rintro ⟨number, read, rfl⟩
    obtain ⟨spelling, low, high⟩ := integerBetween?_eq_some_iff.mp read
    rwa [Int64.toInt_ofInt_of_le low high]
  · intro spelling
    have low := value.minValue_le_toInt
    have high := value.toInt_lt
    exact ⟨value.toInt, integerBetween?_eq_some_iff.mpr ⟨spelling, low, high⟩,
      Int64.ofInt_toInt value⟩

/-- Digits are read as a number of 32 bits if there are some and their value fits. -/
theorem uint32?_of_all_isDigit {digits : List Char} (isDigits : ∀ c ∈ digits, c.isDigit = true) :
    uint32? digits =
      if digits ≠ [] ∧ decimal digits < UInt32.size then
        some (UInt32.ofNat (decimal digits))
      else
        none := by
  rw [uint32?, naturalBelow?, natural?_of_all_isDigit isDigits]
  by_cases empty : digits = []
  · rw [if_neg (fun both => both.1 empty), empty]
    rfl
  rw [ofDigits?_of_isDigits ⟨empty, isDigits⟩, Option.filter_some]
  by_cases fits : decimal digits < UInt32.size
  · rw [if_pos (decide_eq_true fits), if_pos ⟨empty, fits⟩]
    rfl
  · rw [if_neg (mt of_decide_eq_true fits), if_neg (fun both => fits both.2)]
    rfl

/-- Digits are read as a number of 32 bits with a sign if their value is below half
of the range. -/
theorem int32?_of_isDigits {digits : List Char} (isDigits : IsDigits digits) :
    int32? digits =
      if decimal digits < 0x80000000 then some (Int32.ofInt (decimal digits)) else none := by
  rw [int32?, integerBetween?, integer?_of_all_isDigit isDigits.2, ofDigits?_of_isDigits isDigits,
    Option.map_some, Option.filter_some]
  by_cases fits : decimal digits < 0x80000000
  · rw [if_pos, if_pos fits]
    · rfl
    · simp only [Int.ofNat_eq_natCast, Bool.and_eq_true, decide_eq_true_eq]
      omega
  · rw [if_neg, if_neg fits]
    · rfl
    · simp only [Int.ofNat_eq_natCast, Bool.and_eq_true, decide_eq_true_eq]
      omega

theorem isDigits_ofNat (value : Nat) : IsDigits (ofNat value) :=
  (ofDigits?_eq_some_iff.mp (ofDigits?_ofNat value)).1

@[simp]
theorem decimal_ofNat (value : Nat) : decimal (ofNat value) = value :=
  (ofDigits?_eq_some_iff.mp (ofDigits?_ofNat value)).2

theorem not_mem_ofNat {c : Char} (noDigit : c.isDigit = false) (value : Nat) :
    c ∉ ofNat value := by
  intro member
  rw [(isDigits_ofNat value).2 c member] at noDigit
  cases noDigit

@[simp]
theorem uint32?_ofNat (value : UInt32) : uint32? (ofNat value.toNat) = some value := by
  have digits := isDigits_ofNat value.toNat
  have size := value.toNat_lt
  rw [uint32?_of_all_isDigit digits.2, decimal_ofNat, if_pos ⟨digits.1, size⟩,
    UInt32.ofNat_toNat]

@[simp]
theorem mapM_uint32?_ofNat (values : List UInt32) :
    (values.map fun value => ofNat value.toNat).mapM uint32? = some values := by
  induction values with
  | nil => rfl
  | cons value rest induction => simp [uint32?_ofNat, induction]

/-- The numeral of an integer spells it. -/
theorem spells_ofInt (value : Int) : Spells (ofInt value) value := by
  have isDigits := isDigits_ofNat value.natAbs
  have magnitude := decimal_ofNat value.natAbs
  unfold ofInt
  split
  case isTrue negative =>
    have spelling := Spells.minus isDigits
    have same : -(value.natAbs : Int) = value := by omega
    rwa [magnitude, same] at spelling
  case isFalse =>
    have spelling := Spells.unsigned isDigits
    have same : (value.natAbs : Int) = value := by omega
    rwa [magnitude, same] at spelling

@[simp]
theorem integer?_ofInt (value : Int) : integer? (ofInt value) = some value :=
  integer?_eq_some_iff.mpr (spells_ofInt value)

theorem ofInt_natCast (value : Nat) : ofInt value = ofNat value := by
  rw [ofInt, if_neg (by omega), Int.natAbs_natCast]

theorem isDigit_or_minus_of_mem_ofInt {value : Int} {c : Char} (member : c ∈ ofInt value) :
    c.isDigit = true ∨ c = '-' := by
  have digits : c ∈ ofNat value.natAbs → c.isDigit = true :=
    Nat.isDigit_of_mem_toDigits (by decide) (by decide)
  unfold ofInt at member
  split at member
  · exact (List.mem_cons.mp member).symm.imp_left digits
  · exact .inl (digits member)

/-- A number of 64 bits is written with twenty characters at most. -/
theorem length_ofInt_toInt_le (value : Int64) : (ofInt value.toInt).length ≤ 20 := by
  have low : -2 ^ 63 ≤ value.toInt := value.minValue_le_toInt
  have high := value.toInt_lt
  have digits : (ofNat value.toInt.natAbs).length ≤ 19 :=
    Nat.toDigits_length 10 _ 19 (by decide) (by omega)
  unfold ofInt
  split
  · rw [List.length_cons]
    omega
  · omega

end Numeral
end Text
end SlashDice
