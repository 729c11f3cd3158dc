import SlashDice.Digest.Sha256

/-!
# Message authentication

The keyed digest of a message: the digest is taken twice, each time behind a
block made from the key.
-/

namespace SlashDice
namespace Hmac

/-- A key as one block of sixty-four bytes: its digest if it is longer, and
zeros after it. -/
def keyBlock (key : List UInt8) : List UInt8 :=
  let short := if 64 < key.length then Sha256.digest key else key
  short ++ List.replicate (64 - short.length) 0

def mac (key message : List UInt8) : List UInt8 :=
  let inner := Sha256.digest ((keyBlock key).map (· ^^^ 0x36) ++ message)
  Sha256.digest ((keyBlock key).map (· ^^^ 0x5c) ++ inner)

@[simp]
theorem length_mac (key message : List UInt8) : (mac key message).length = 32 :=
  Sha256.length_digest _

end Hmac
end SlashDice
