import SlashDice.Text.Pieces

/-!
# Letters and digits for any characters

A label with any characters is written in ASCII: first its ASCII characters, then
a hyphen, if there are any, and then, in the order of their code points, where the
other characters stand.  Each place is a number of steps from the one before, in
digits of base thirty-six of which the last one is recognised by its size; the
sizes follow the numbers before.
-/

namespace SlashDice
namespace Web
namespace Punycode

open Text

def digit (value : Nat) : Char :=
  Char.ofNat (if value < 26 then 97 + value else 22 + value)

def value? (c : Char) : Option Nat :=
  if 'a' ≤ c ∧ c ≤ 'z' then some (c.toNat - 97)
  else if '0' ≤ c ∧ c ≤ '9' then some (c.toNat - 22)
  else none

theorem value?_digit {value : Nat} (small : value < 36) : value? (digit value) = some value := by
  have all : ∀ n < 36, value? (digit n) = some n := by decide +kernel
  exact all value small

/-- The size at which the last digit of a number is recognised; places count from
thirty-six in steps of thirty-six. -/
def threshold (bias place : Nat) : Nat :=
  if place ≤ bias then 1 else if bias + 26 ≤ place then 26 else place - bias

theorem threshold_bounds (bias place : Nat) :
    1 ≤ threshold bias place ∧ threshold bias place ≤ 26 := by
  unfold threshold
  split
  · omega
  · split <;> omega

/-- The bias for a number of that size, in the place reached so far. -/
def biasOf (steps place : Nat) : Nat :=
  if 455 < steps then biasOf (steps / 35) (place + 36) else place + 36 * steps / (steps + 38)
termination_by steps
decreasing_by exact Nat.div_lt_self (by omega) (by omega)

/-- The bias after a number, when so many characters are placed. -/
def adapt (steps placed : Nat) (isFirst : Bool) : Nat :=
  let scaled := if isFirst then steps / 700 else steps / 2
  biasOf (scaled + scaled / placed) 0

def numberFrom (bias place value : Nat) : List Char :=
  let least := threshold bias place
  if value < least then
    [digit value]
  else
    digit (least + (value - least) % (36 - least)) ::
      numberFrom bias (place + 36) ((value - least) / (36 - least))
termination_by value
decreasing_by
  have bounds := threshold_bounds bias place
  exact Nat.lt_of_le_of_lt (Nat.div_le_self _ _) (by omega)

/-- How far the places are written: the steps since the last one, the bias, how
many characters are placed, and the digits. -/
structure Writing where
  steps : Nat
  bias : Nat
  placed : Nat
  digits : List Char
  deriving DecidableEq, Repr

/-- Goes by one character of the label when the characters with a code point are
placed; a number of characters is in ASCII. -/
def Writing.pass (ascii point : Nat) (writing : Writing) (c : Char) : Writing :=
  if c.toNat < point then
    { writing with steps := writing.steps + 1 }
  else if c.toNat = point then
    { steps := 0
      bias := adapt writing.steps (writing.placed + 1) (writing.placed == ascii)
      placed := writing.placed + 1
      digits := writing.digits ++ numberFrom writing.bias 36 writing.steps }
  else
    writing

/-- Places the characters of each code point, given in ascending order, after the
code points below one. -/
def Writing.run (label : List Char) (ascii : Nat) : Nat → List Nat → Writing → Writing
  | _, [], writing => writing
  | next, point :: rest, writing =>
    let reached :=
      { writing with steps := writing.steps + (point - next) * (writing.placed + 1) }
    let passed := label.foldl (Writing.pass ascii point) reached
    Writing.run label ascii (point + 1) rest { passed with steps := passed.steps + 1 }

def encode (label : List Char) : List Char :=
  let ascii := label.filter fun c => c.toNat < 0x80
  let others := ((label.map Char.toNat).filter fun point => 0x80 ≤ point).eraseDups.mergeSort
  let writing := Writing.run label ascii.length 0x80 others ⟨0, 72, ascii.length, []⟩
  (if ascii = [] then [] else ascii ++ ['-']) ++ writing.digits

/-- How far the places are read: the code point and the place reached, the bias,
the characters placed, and of the number that is being read its value, the weight
of its next digit, the place of that digit, and whether it has begun. -/
structure Reading where
  point : Nat
  index : Nat
  bias : Nat
  placed : List Char
  steps : Nat := 0
  weight : Nat := 1
  place : Nat := 36
  begun : Bool := false
  deriving DecidableEq, Repr

/-- Places a character when a number is complete; it may be none. -/
def Reading.complete? (reading : Reading) (steps : Nat) : Option Reading :=
  let count := reading.placed.length + 1
  let reached := reading.index + steps
  let point := reading.point + reached / count
  let index := reached % count
  if point.isValidChar then
    some
      { point
        index := index + 1
        bias := adapt steps count (reading.index == 0)
        placed := reading.placed.insertIdx index (Char.ofNat point) }
  else
    none

def Reading.next? (reading : Reading) (c : Char) : Option Reading := do
  let digit ← value? c
  let steps := reading.steps + digit * reading.weight
  let least := threshold reading.bias reading.place
  if digit < least then
    reading.complete? steps
  else
    some { reading with
      steps
      weight := reading.weight * (36 - least)
      place := reading.place + 36
      begun := true }

/-- The label behind written characters.  A hyphen at the very beginning follows no
character and is no digit either. -/
def decode? (written : List Char) : Option (List Char) := do
  let (ascii, digits) := match cutLast? '-' written with
    | some ([], _) | none => ([], written)
    | some parts => parts
  if ascii.any fun c => 0x80 ≤ c.toNat then
    none
  else
    let reading ← digits.foldlM Reading.next?
      { point := 0x80, index := 0, bias := 72, placed := ascii }
    if reading.begun then none else some reading.placed

end Punycode
end Web
end SlashDice
