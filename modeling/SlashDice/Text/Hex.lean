/-!
# Hexadecimal text

Two digits for each byte, the high half first.  Writing uses the lower-case
letters; reading takes either case and refuses an odd number of digits.
Reading accepts exactly the spellings of a list of bytes.
-/

namespace SlashDice
namespace Text
namespace Hex

/-- The lower-case digit of a value below sixteen. -/
def digit (value : Nat) : Char :=
  Nat.digitChar value

/-- The value of a hexadecimal digit in either letter case. -/
def value? (c : Char) : Option Nat :=
  if '0' ≤ c ∧ c ≤ '9' then some (c.toNat - 48)
  else if 'a' ≤ c ∧ c ≤ 'f' then some (c.toNat - 87)
  else if 'A' ≤ c ∧ c ≤ 'F' then some (c.toNat - 55)
  else none

def ofByte (byte : UInt8) : List Char :=
  [digit (byte.toNat / 16), digit (byte.toNat % 16)]

def encode (bytes : List UInt8) : List Char :=
  bytes.flatMap ofByte

@[simp]
theorem encode_cons (byte : UInt8) (rest : List UInt8) :
    encode (byte :: rest) =
      digit (byte.toNat / 16) :: digit (byte.toNat % 16) :: encode rest :=
  rfl

def decode : List Char → Option (List UInt8)
  | [] => some []
  | [_] => none
  | high :: low :: rest =>
    match value? high, value? low, decode rest with
    | some h, some l, some bytes => some (UInt8.ofNat (16 * h + l) :: bytes)
    | _, _, _ => none

/-- The spellings of a list of bytes: each byte as two digits, each digit in
either letter case. -/
inductive Spells : List Char → List UInt8 → Prop
  | nil : Spells [] []
  | cons {high low : Char} {h l : Nat} {rest : List Char} {bytes : List UInt8} :
      value? high = some h → value? low = some l → Spells rest bytes →
        Spells (high :: low :: rest) (UInt8.ofNat (16 * h + l) :: bytes)

/-- The sixteen lower-case digits of a 64-bit word, leading zeros included. -/
def ofWord (word : UInt64) : List Char :=
  (List.range 16).map fun place => digit (word.toNat / Nat.pow 16 (15 - place) % 16)

theorem decode_eq_some_iff {text : List Char} {bytes : List UInt8} :
    decode text = some bytes ↔ Spells text bytes := by
  constructor
  · intro decoded
    fun_induction decode text generalizing bytes with
    | case1 =>
        cases decoded
        exact .nil
    | case2 => simp at decoded
    | case3 high low rest h l tail lowValue highValue restBytes induction =>
        cases decoded
        exact .cons ‹_› ‹_› (induction ‹_›)
    | case4 => simp at decoded
  · intro spelling
    induction spelling with
    | nil => rfl
    | cons highValue lowValue _ induction =>
        simp [decode, highValue, lowValue, induction]

theorem value?_digit : ∀ {value : Nat}, value < 16 → value? (digit value) = some value
  | 0, _ | 1, _ | 2, _ | 3, _ | 4, _ | 5, _ | 6, _ | 7, _ | 8, _ | 9, _ | 10, _ | 11, _
  | 12, _ | 13, _ | 14, _ | 15, _ => by decide
  | _ + 16, small => absurd small (by omega)

@[simp]
theorem decode_encode (bytes : List UInt8) : decode (encode bytes) = some bytes := by
  induction bytes with
  | nil => rfl
  | cons byte rest induction =>
      have size := byte.toNat_lt
      have whole : 16 * (byte.toNat / 16) + byte.toNat % 16 = byte.toNat := by omega
      simp only [encode_cons, decode, value?_digit (show byte.toNat / 16 < 16 by omega),
        value?_digit (show byte.toNat % 16 < 16 by omega), induction, whole,
        UInt8.ofNat_toNat]

end Hex
end Text
end SlashDice
