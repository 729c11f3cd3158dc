import SlashDice.Signature

/-!
# Installation states

The state that goes through an installation and comes back: the time it was
issued, a random number, and a keyed digest of both, with dots between them.  It
is accepted for ten minutes, as long as the digest is the expected one.
-/

namespace SlashDice
namespace InstallState

open Text

def maxAge : UInt64 := 600

def payload (issuedAt : Int64) (nonce : UInt64) : List Char :=
  Numeral.ofInt issuedAt.toInt ++ '.' :: Hex.ofWord nonce

def mac (secret : String) (payload : List Char) : List UInt8 :=
  Hmac.mac (bytesOfString secret) (Utf8.encode payload)

def issue (secret : String) (issuedAt : Int64) (nonce : UInt64) : String :=
  let payload := payload issuedAt nonce
  String.ofList (payload ++ '.' :: Hex.encode (mac secret payload))

inductive Fault
  | missing
  | mismatch
  | expired
  deriving DecidableEq, Repr

def Fault.message : Fault → String
  | missing => "Missing OAuth state parameter"
  | mismatch => "OAuth state mismatch"
  | expired => "OAuth state has expired"

/-- The time at which a payload says that it was issued. -/
def issuedAt? (payload : List Char) : Option Int64 :=
  Numeral.int64? (beforeFirst '.' payload)

/-- The payload of a state and the bytes that its last part spells. -/
def parts? (state : List Char) : Option (List Char × List UInt8) :=
  match cutLast? '.' state with
  | some (payload, signature) => (Hex.decode signature).map fun bytes => (payload, bytes)
  | none => none

def checkText (secret : String) (state : List Char) (now : Int64) : Except Fault Unit :=
  match parts? state with
  | none => .error .mismatch
  | some (payload, provided) =>
    if provided ≠ mac secret payload then
      .error .mismatch
    else
      match issuedAt? payload with
      | none => .error .mismatch
      | some issuedAt =>
        if maxAge < secondsApart now issuedAt then .error .expired else .ok ()

/-- Checks a state that came back, at a time in unix seconds. -/
def check (secret : String) (received : Option String) (now : Int64) : Except Fault Unit :=
  match received with
  | none => .error .missing
  | some state => if state = "" then .error .missing else checkText secret state.toList now

end InstallState
end SlashDice
