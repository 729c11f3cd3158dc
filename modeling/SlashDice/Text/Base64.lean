/-!
# Base64

Three bytes become four characters of the standard alphabet; a last group of
one or two bytes is filled up with equals signs.
-/

namespace SlashDice
namespace Text
namespace Base64

/-- The character of a value below sixty-four. -/
def letter (value : Nat) : Char :=
  if value < 26 then Char.ofNat (65 + value)
  else if value < 52 then Char.ofNat (71 + value)
  else if value < 62 then Char.ofNat (value - 4)
  else if value = 62 then '+'
  else '/'

def encode : List UInt8 → List Char
  | [] => []
  | [a] =>
    let group := a.toNat * 65536
    [letter (group / 262144), letter (group / 4096 % 64), '=', '=']
  | [a, b] =>
    let group := a.toNat * 65536 + b.toNat * 256
    [letter (group / 262144), letter (group / 4096 % 64), letter (group / 64 % 64), '=']
  | a :: b :: c :: rest =>
    let group := a.toNat * 65536 + b.toNat * 256 + c.toNat
    letter (group / 262144) :: letter (group / 4096 % 64) ::
      letter (group / 64 % 64) :: letter (group % 64) :: encode rest

end Base64
end Text
end SlashDice
