import SlashDice.Calendar
import SlashDice.Digest.Hmac
import SlashDice.Settings.Mode
import SlashDice.Text.Blank
import SlashDice.Text.Hex
import SlashDice.Text.Numeral
import SlashDice.Text.Pieces
import SlashDice.Text.Utf8

/-!
# Request signatures

A command is signed with a secret that the sender shares: the signature is a
keyed digest of the time of sending and the body.  A command is accepted if its
time is close enough to the present and its signature is the expected one, in
either letter case of its digits.  In development every command is accepted.
-/

namespace SlashDice

open Text

def bytesOfString (text : String) : List UInt8 :=
  Utf8.encode text.toList

namespace Signature

def signatureHeader : String := "x-slack-signature"

def timestampHeader : String := "x-slack-request-timestamp"

def opening : List Char := "v0=".toList

/-- The bytes that are signed: the version, the time of sending and the body,
with colons between them. -/
def signedMessage (timestamp : List Char) (body : List UInt8) : List UInt8 :=
  bytesOfString "v0:" ++ Utf8.encode timestamp ++ bytesOfString ":" ++ body

def mac (secret : String) (timestamp : List Char) (body : List UInt8) : List UInt8 :=
  Hmac.mac (bytesOfString secret) (signedMessage timestamp body)

def sign (secret timestamp : String) (body : List UInt8) : String :=
  String.ofList (opening ++ Hex.encode (mac secret timestamp.toList body))

inductive Fault
  | missingSecret
  | missingHeader (name : String)
  | malformedTimestamp
  | staleTimestamp
  | malformedSignature
  | mismatch
  deriving DecidableEq, Repr

def Fault.message : Fault → String
  | missingSecret => "no signing secret configured"
  | missingHeader name => "missing " ++ name ++ " header"
  | malformedTimestamp => "request timestamp is not a unix time"
  | staleTimestamp => "request timestamp is outside the allowed window"
  | malformedSignature => "signature is not in v0=<hex> form"
  | mismatch => "signature does not match"

def decode? (signature : String) : Option (List UInt8) :=
  (dropOpening? opening signature.toList).bind Hex.decode

/-- What signatures are checked with: the shared secret, the mode, and how many
seconds the time of sending may differ from the present. -/
structure Verifier where
  secret : Option String
  mode : Mode
  tolerance : UInt64
  deriving DecidableEq, Repr

namespace Verifier

def verifyWith (verifier : Verifier) (secret timestamp signature : String)
    (body : List UInt8) (now : Int64) : Except Fault Unit :=
  match Numeral.int64? (trim timestamp.toList) with
  | none => .error .malformedTimestamp
  | some sentAt =>
    if verifier.tolerance < secondsApart now sentAt then
      .error .staleTimestamp
    else
      match decode? signature with
      | none => .error .malformedSignature
      | some provided =>
        if provided = mac secret (trim timestamp.toList) body then .ok ()
        else .error .mismatch

/-- Checks a command at a time in unix seconds.  The first thing that is wrong
is reported. -/
def verify (verifier : Verifier) (timestamp signature : Option String)
    (body : List UInt8) (now : Int64) : Except Fault Unit :=
  if verifier.mode.verifiesSignatures = false then
    .ok ()
  else
    match verifier.secret, timestamp, signature with
    | none, _, _ => .error .missingSecret
    | some _, none, _ => .error (.missingHeader timestampHeader)
    | some _, some _, none => .error (.missingHeader signatureHeader)
    | some secret, some timestamp, some signature =>
      verifier.verifyWith secret timestamp signature body now

end Verifier
end Signature
end SlashDice
