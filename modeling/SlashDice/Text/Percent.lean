import SlashDice.Text.Hex
import SlashDice.Text.Utf8

/-!
# Percent escapes

A byte that may not stand in a text is written as a percent sign with two
upper-case digits.  Reading takes any bytes and digits of either letter case; an
escape that is not complete stands for itself.
-/

namespace SlashDice
namespace Text
namespace Percent

/-- The upper-case digit of a value below sixteen. -/
def digit (value : Nat) : Char :=
  (Hex.digit value).toUpper

def ofByte (byte : UInt8) : List Char :=
  ['%', digit (byte.toNat / 16), digit (byte.toNat % 16)]

def ofChar (c : Char) : List Char :=
  (Utf8.encodeChar c).flatMap ofByte

/-- A text with escapes for control characters, characters outside ASCII and the
characters of a set. -/
def encode (escaped : List Char) (text : List Char) : List Char :=
  text.flatMap fun c =>
    if c.toNat < 0x20 ∨ 0x7E < c.toNat ∨ c ∈ escaped then ofChar c else [c]

def digitValue? (byte : UInt8) : Option Nat :=
  if byte < 0x80 then Hex.value? (Char.ofNat byte.toNat) else none

def decode : List UInt8 → List UInt8
  | [] => []
  | 0x25 :: high :: low :: rest =>
    match digitValue? high, digitValue? low with
    | some h, some l => UInt8.ofNat (16 * h + l) :: decode rest
    | _, _ => 0x25 :: decode (high :: low :: rest)
  | byte :: rest => byte :: decode rest

def bytes (text : List Char) : List UInt8 :=
  decode (Utf8.encode text)

theorem digitValue?_digit {value : Nat} (small : value < 16) :
    digitValue? (UInt8.ofNat (digit value).toNat) = some value := by
  have all : ∀ n < 16, digitValue? (UInt8.ofNat (digit n).toNat) = some n := by
    decide +kernel
  exact all value small

/-- A byte other than a percent sign is read as itself, whatever follows. -/
theorem decode_cons {byte : UInt8} (noPercent : byte ≠ 0x25) (rest : List UInt8) :
    decode (byte :: rest) = byte :: decode rest := by
  rw [decode]
  exact fun _ _ _ percent => absurd percent noPercent

theorem decode_ofByte (byte : UInt8) (rest : List UInt8) :
    decode ((ofByte byte).map (fun c => UInt8.ofNat c.toNat) ++ rest) = byte :: decode rest := by
  have size := byte.toNat_lt
  have whole : 16 * (byte.toNat / 16) + byte.toNat % 16 = byte.toNat := by omega
  have percent : UInt8.ofNat '%'.toNat = 0x25 := rfl
  simp only [ofByte, List.map_cons, List.map_nil, List.cons_append, List.nil_append, percent]
  simp only [decode, digitValue?_digit (show byte.toNat / 16 < 16 by omega),
    digitValue?_digit (show byte.toNat % 16 < 16 by omega), whole, UInt8.ofNat_toNat]

end Percent
end Text
end SlashDice
