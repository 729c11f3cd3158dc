import SlashDice.Text.Hex
import SlashDice.Text.Numeral
import SlashDice.Text.Pieces

/-!
# Addresses of 32 bits

In an address on the web, up to four numbers stand for the four bytes: the last
one fills all the bytes that are left.  A number is decimal, octal after a zero,
or hexadecimal after a zero and an x.  Elsewhere there are exactly four decimal
numbers without leading zeros.  The text has four decimal numbers.
-/

namespace SlashDice
namespace Web
namespace Ipv4

open Text

/-- The number that digits of a base stand for, if all of them are such digits; no
digits stand for zero. -/
def ofDigits? (base : Nat) (digits : List Char) : Option Nat :=
  digits.foldlM (fun value digit =>
    ((Hex.value? digit).filter (· < base)).map fun d => base * value + d) 0

def number? : List Char → Option Nat
  | [] => none
  | '0' :: 'x' :: digits => ofDigits? 16 digits
  | '0' :: 'X' :: digits => ofDigits? 16 digits
  | '0' :: digit :: digits => ofDigits? 8 (digit :: digits)
  | digits => ofDigits? 10 digits

/-- The parts between full stops, without an empty last one after a full stop. -/
def parts (text : List Char) : List (List Char) :=
  match (pieces '.' text).reverse with
  | [] :: first :: rest => (first :: rest).reverse
  | reversed => reversed.reverse

/-- Whether a host is to be read as numbers: its last part is one, or has digits
only. -/
def endsInNumber (text : List Char) : Bool :=
  match (parts text).getLast? with
  | some last => (last ≠ [] && last.all Char.isDigit) || (number? last).isSome
  | none => false

def ofText? (text : List Char) : Option Nat := do
  let numbers ← (parts text).mapM number?
  match numbers.reverse with
  | [] => none
  | last :: firsts =>
    let places := Nat.pow 256 (4 - firsts.length)
    if 3 < firsts.length ∨ places ≤ last ∨ firsts.any (256 ≤ ·) = true then
      none
    else
      some (firsts.reverse.foldl (fun value byte => 256 * value + byte) 0 * places + last)

/-- Reads a byte in decimal digits without leading zeros. -/
def byte? (text : List Char) : Option Nat :=
  (Numeral.ofDigits? text).filter fun value =>
    value < 256 && (text.head? != some '0' || text.length == 1)

def ofBytes? (text : List Char) : Option Nat := do
  match ← (pieces '.' text).mapM byte? with
  | [a, b, c, d] => some (((a * 256 + b) * 256 + c) * 256 + d)
  | _ => none

def text (value : Nat) : List Char :=
  List.intercalate ['.']
    ([value / 16777216, value / 65536 % 256, value / 256 % 256, value % 256].map Numeral.ofNat)

end Ipv4
end Web
end SlashDice
