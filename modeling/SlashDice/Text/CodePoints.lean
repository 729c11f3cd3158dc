import SlashDice.Text.Hex
import SlashDice.Text.Pieces

/-!
# Sets of code points

A set of code points is a list of ranges in ascending order.  A long list is
written down as lines of text: hexadecimal numbers with single blanks between
them, and two numbers with a hyphen for a range.
-/

namespace SlashDice
namespace Text

/-- Whether a code point lies in one of the ranges, which stand in ascending
order and include both their ends. -/
def inRanges (point : Nat) : List (Nat × Nat) → Bool
  | [] => false
  | (first, last) :: rest =>
    if point < first then false
    else if point ≤ last then true
    else inRanges point rest

namespace CodePoints

def number (digits : List Char) : Nat :=
  digits.foldl (fun value digit => 16 * value + (Hex.value? digit).getD 0) 0

/-- The range that is written as two numbers or as one. -/
def range (entry : List Char) : Nat × Nat :=
  match cutFirst? '-' entry with
  | some (first, last) => (number first, number last)
  | none => (number entry, number entry)

def entries (lines : List String) : List (List Char) :=
  lines.flatMap fun line => pieces ' ' line.toList

def ranges (lines : List String) : List (Nat × Nat) :=
  (entries lines).map range

end CodePoints
end Text
end SlashDice
