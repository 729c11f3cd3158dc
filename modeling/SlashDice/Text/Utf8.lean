/-!
# UTF-8

Writing gives the bytes of each character.  Reading takes any bytes: each
longest run that begins a character but does not complete one, and each byte
that can begin none, stands for one replacement character.
-/

namespace SlashDice
namespace Text
namespace Utf8

def encodePoint (point : Nat) : List UInt8 :=
  if point < 0x80 then
    [UInt8.ofNat point]
  else if point < 0x800 then
    [UInt8.ofNat (0xC0 + point / 64), UInt8.ofNat (0x80 + point % 64)]
  else if point < 0x10000 then
    [UInt8.ofNat (0xE0 + point / 4096), UInt8.ofNat (0x80 + point / 64 % 64),
      UInt8.ofNat (0x80 + point % 64)]
  else
    [UInt8.ofNat (0xF0 + point / 262144), UInt8.ofNat (0x80 + point / 4096 % 64),
      UInt8.ofNat (0x80 + point / 64 % 64), UInt8.ofNat (0x80 + point % 64)]

def encodeChar (c : Char) : List UInt8 :=
  encodePoint c.toNat

def encode (text : List Char) : List UInt8 :=
  text.flatMap encodeChar

/-- The character that stands for bytes which are not UTF-8. -/
def replacement : Char := '\ufffd'

/-- A character begun and not completed: its bits so far, how many bytes are
still to come, and the range in which the next one has to lie. -/
structure Unfinished where
  bits : Nat
  owed : Nat
  least : Nat
  greatest : Nat
  deriving DecidableEq, Repr

/-- The least byte that may follow a first one: below it, the character would
have a shorter form. -/
def leastAfter (byte : Nat) : Nat :=
  if byte = 0xE0 then 0xA0 else if byte = 0xF0 then 0x90 else 0x80

/-- The greatest byte that may follow a first one: above it, there would be no
character. -/
def greatestAfter (byte : Nat) : Nat :=
  if byte = 0xED then 0x9F else if byte = 0xF4 then 0x8F else 0xBF

def beginWith (byte bits owed : Nat) : List Char × Option Unfinished :=
  ([], some ⟨bits, owed, leastAfter byte, greatestAfter byte⟩)

/-- A first byte completes a character, begins one, or can do neither. -/
def start (byte : Nat) : List Char × Option Unfinished :=
  if byte < 0x80 then ([Char.ofNat byte], none)
  else if byte < 0xC2 then ([replacement], none)
  else if byte < 0xE0 then beginWith byte (byte - 0xC0) 1
  else if byte < 0xF0 then beginWith byte (byte - 0xE0) 2
  else if byte < 0xF5 then beginWith byte (byte - 0xF0) 3
  else ([replacement], none)

/-- One more byte after an unfinished character.  A byte out of range leaves
the unfinished one as a replacement character and is a first byte itself. -/
def Unfinished.next (unfinished : Unfinished) (byte : Nat) :
    List Char × Option Unfinished :=
  if unfinished.least ≤ byte ∧ byte ≤ unfinished.greatest then
    let bits := unfinished.bits * 64 + (byte - 0x80)
    if unfinished.owed ≤ 1 then
      ([Char.ofNat bits], none)
    else
      ([], some ⟨bits, unfinished.owed - 1, 0x80, 0xBF⟩)
  else
    (replacement :: (start byte).1, (start byte).2)

def step : Option Unfinished → Nat → List Char × Option Unfinished
  | none, byte => start byte
  | some unfinished, byte => unfinished.next byte

def decodeFrom : Option Unfinished → List UInt8 → List Char
  | none, [] => []
  | some _, [] => [replacement]
  | pending, byte :: rest =>
    (step pending byte.toNat).1 ++ decodeFrom (step pending byte.toNat).2 rest

def decode (bytes : List UInt8) : List Char :=
  decodeFrom none bytes

/-- The text that bytes are the UTF-8 of, if they are that of any. -/
def text? (bytes : List UInt8) : Option (List Char) :=
  if encode (decode bytes) = bytes then some (decode bytes) else none

end Utf8
end Text
end SlashDice
