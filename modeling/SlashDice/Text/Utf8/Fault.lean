import SlashDice.Text.Utf8

/-!
# Bytes that are no text

The first place where bytes stop being UTF-8: a run that begins a character and
goes on with a byte that does not belong to it, a byte that begins none, or an end
within a character.
-/

namespace SlashDice
namespace Text
namespace Utf8

/-- Where bytes are no text, and how many of them are to blame; at the end of the
bytes it is not known how many. -/
structure Fault where
  index : Nat
  length : Option Nat
  deriving DecidableEq, Repr

def Fault.message (fault : Fault) : String :=
  let index := Nat.repr fault.index
  match fault.length with
  | some length =>
    "invalid utf-8 sequence of " ++ Nat.repr length ++ " bytes from index " ++ index
  | none => "incomplete utf-8 byte sequence from index " ++ index

/-- The first fault of the bytes from an index on, with an unfinished character that
begins at another one. -/
def faultFrom (begun index : Nat) : Option Unfinished → List UInt8 → Option Fault
  | none, [] => none
  | some _, [] => some ⟨begun, none⟩
  | none, byte :: rest =>
    match start byte.toNat with
    | ([], pending) => faultFrom index (index + 1) pending rest
    | ([c], _) =>
      if c = replacement then some ⟨index, some 1⟩ else faultFrom index (index + 1) none rest
    | _ => some ⟨index, some 1⟩
  | some unfinished, byte :: rest =>
    if unfinished.least ≤ byte.toNat ∧ byte.toNat ≤ unfinished.greatest then
      faultFrom begun (index + 1) (unfinished.next byte.toNat).2 rest
    else
      some ⟨begun, some (index - begun)⟩

def fault? (bytes : List UInt8) : Option Fault :=
  faultFrom 0 0 none bytes

def isText (bytes : List UInt8) : Bool :=
  (fault? bytes).isNone

end Utf8
end Text
end SlashDice
