/-!
# Decimal numerals

Reading accepts the ASCII digits only, any number of leading zeros, and one
leading sign; it refuses an empty run of digits and a value outside the range
asked for.  Writing gives the shortest numeral.
-/

namespace SlashDice
namespace Text
namespace Numeral

/-- The value of a non-empty run of decimal digits. -/
def ofDigits? (text : List Char) : Option Nat :=
  if text ≠ [] ∧ text.all Char.isDigit = true then
    some (Nat.ofDigitChars 10 text 0)
  else
    none

/-- A natural number: digits, with or without a plus sign before them. -/
def natural? : List Char → Option Nat
  | '+' :: digits => ofDigits? digits
  | digits => ofDigits? digits

/-- An integer: a natural number, or digits after a minus sign. -/
def integer? : List Char → Option Int
  | '-' :: digits => (ofDigits? digits).map fun magnitude : Nat => -(magnitude : Int)
  | text => (natural? text).map Int.ofNat

def naturalBelow? (bound : Nat) (text : List Char) : Option Nat :=
  (natural? text).filter (· < bound)

/-- An integer from the least value up to, but not including, the bound. -/
def integerBetween? (least bound : Int) (text : List Char) : Option Int :=
  (integer? text).filter fun value => least ≤ value && value < bound

def uint32? (text : List Char) : Option UInt32 :=
  (naturalBelow? UInt32.size text).map UInt32.ofNat

def int32? (text : List Char) : Option Int32 :=
  (integerBetween? (-0x80000000) 0x80000000 text).map Int32.ofInt

def int64? (text : List Char) : Option Int64 :=
  (integerBetween? (-0x8000000000000000) 0x8000000000000000 text).map Int64.ofInt

@[simp]
theorem integer?_plus (digits : List Char) :
    integer? ('+' :: digits) = (ofDigits? digits).map Int.ofNat :=
  rfl

@[simp]
theorem integer?_minus (digits : List Char) :
    integer? ('-' :: digits) = (ofDigits? digits).map fun magnitude : Nat => -(magnitude : Int) :=
  rfl

def ofNat (value : Nat) : List Char :=
  Nat.toDigits 10 value

def ofInt (value : Int) : List Char :=
  if value < 0 then '-' :: ofNat value.natAbs else ofNat value.natAbs

/-- The numeral of an integer with its sign always written. -/
def ofIntSigned (value : Int) : List Char :=
  (if value < 0 then '-' else '+') :: ofNat value.natAbs

/-- A numeral filled up with zeros on the left to a least width. -/
def ofNatPadded (width value : Nat) : List Char :=
  let digits := ofNat value
  List.replicate (width - digits.length) '0' ++ digits

@[simp]
theorem ofDigits?_ofNat (value : Nat) : ofDigits? (ofNat value) = some value := by
  have digits : (ofNat value).all Char.isDigit = true :=
    List.all_eq_true.mpr fun _ mem =>
      Nat.isDigit_of_mem_toDigits (by decide) (by decide) mem
  have nonempty : ofNat value ≠ [] := Nat.toDigits_ne_nil
  rw [ofDigits?, if_pos ⟨nonempty, digits⟩, ofNat, Nat.ofDigitChars_ten_toDigits]

end Numeral
end Text
end SlashDice
