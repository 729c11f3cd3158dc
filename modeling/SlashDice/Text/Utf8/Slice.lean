import SlashDice.Text.Blank
import SlashDice.Text.Utf8

/-!
# Cutting UTF-8 at byte offsets

A text that is kept as bytes is cut at offsets, and a cut within a character is
refused.  The offsets are found by going through the characters of the text from
either end.  In this way a text is trimmed, and its first word is cut off.
-/

namespace SlashDice
namespace Text
namespace Utf8

/-- Whether a byte goes on with a character that an earlier one began. -/
def isContinuation (byte : UInt8) : Bool :=
  0x80 ≤ byte.toNat && byte.toNat < 0xC0

/-- Whether an offset lies between characters: before a byte that begins one, or
at the end of the bytes. -/
def isBoundary (bytes : List UInt8) (offset : Nat) : Bool :=
  match bytes[offset]? with
  | some byte => !isContinuation byte
  | none => offset == bytes.length

/-- The bytes between two offsets, which have to lie between characters and in
this order. -/
def slice? (bytes : List UInt8) (start stop : Nat) : Option (List UInt8) :=
  if start ≤ stop ∧ isBoundary bytes start ∧ isBoundary bytes stop then
    some ((bytes.take stop).drop start)
  else
    none

/-- The characters of a text that begins at an offset, each with the offset of its
first byte. -/
def placed (offset : Nat) : List Char → List (Nat × Char)
  | [] => []
  | c :: rest => (offset, c) :: placed (offset + (encodeChar c).length) rest

def blankOffset? (text : List Char) : Option Nat :=
  ((placed 0 text).find? fun item => isBlank item.2).map Prod.fst

/-- The offset of the first character that is not blank, and the offset where the
last one ends; both are zero for a blank text. -/
def trimOffsets (text : List Char) : Nat × Nat :=
  match (placed 0 text).find? fun item => !isBlank item.2,
      (placed 0 text).reverse.find? fun item => !isBlank item.2 with
  | some (start, _), some (last, c) => (start, last + (encodeChar c).length)
  | _, _ => (0, 0)

def trim? (bytes : List UInt8) : Option (List UInt8) :=
  slice? bytes (trimOffsets (decode bytes)).1 (trimOffsets (decode bytes)).2

/-- The bytes of the first word of a text, and the bytes of the rest of it trimmed. -/
def splitFirstWord? (bytes : List UInt8) : Option (List UInt8 × List UInt8) :=
  match blankOffset? (decode bytes) with
  | none => some (bytes, [])
  | some offset => do
    let word ← slice? bytes 0 offset
    let after ← slice? bytes offset bytes.length
    let rest ← trim? after
    return (word, rest)

end Utf8
end Text
end SlashDice
