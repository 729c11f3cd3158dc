import SlashDice.Text.Quoted.Table

/-!
# Quoted text

A text between double quotes, for a message: quotes, backslashes and the
characters without a picture of their own are written as escapes.
-/

namespace SlashDice
namespace Text
namespace Quoted

def isHidden (c : Char) : Bool :=
  if c.toNat < 0x80 then c.toNat < 0x20 || c.toNat == 0x7F
  else inRanges c.toNat hiddenRanges

/-- The escape that names a character by its number. -/
def numbered (c : Char) : List Char :=
  '\\' :: 'u' :: '\x7b' :: (Nat.toDigits 16 c.toNat ++ ['\x7d'])

def ofChar (c : Char) : List Char :=
  if c = '\x00' then ['\\', '0']
  else if c = '\t' then ['\\', 't']
  else if c = '\n' then ['\\', 'n']
  else if c = '\r' then ['\\', 'r']
  else if c = '"' ∨ c = '\\' then ['\\', c]
  else if isHidden c then numbered c
  else [c]

end Quoted

def quoted (text : List Char) : List Char :=
  '"' :: (text.flatMap Quoted.ofChar ++ ['"'])

end Text
end SlashDice
