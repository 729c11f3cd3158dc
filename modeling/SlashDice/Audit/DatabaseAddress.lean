import SlashDice.Text.Numeral.Fault
import SlashDice.Text.Quoted
import SlashDice.Text.Utf8.Fault
import SlashDice.Web.Address.Reader
import SlashDice.Web.Form

/-!
# Addresses of databases

The address of the database of the audit log names its host, the user, the
password and the database, and its query gives further options.  All of them are
looked at before anything is connected.
-/

namespace SlashDice

open Text Web

/-- Why a text is no address of a database. -/
inductive DatabaseAddressFault
  | noAddress (fault : AddressFault)
  | noText (fault : Utf8.Fault)
  | unknownEncryption (word : String)
  | noNumber (fault : Numeral.Fault)
  | noHostNumber
  deriving DecidableEq, Repr

def DatabaseAddressFault.message (fault : DatabaseAddressFault) : String :=
  "error with configuration: " ++
    match fault with
    | noAddress fault => fault.message
    | noText fault => fault.message
    | unknownEncryption word =>
      "error with configuration: unknown value " ++ String.ofList (quoted word.toList) ++
        " for `ssl_mode`"
    | noNumber fault => fault.message
    | noHostNumber => "invalid IP address syntax"

namespace DatabaseAddress

/-- The ways in which a connection may be encrypted. -/
def encryptionWords : List String :=
  ["disable", "allow", "prefer", "require", "verify-ca", "verify-full"]

def checkText (part : List Char) : Except DatabaseAddressFault Unit :=
  match Utf8.fault? (Percent.bytes part) with
  | some fault => .error (.noText fault)
  | none => .ok ()

def checkNumber (bound : Nat) (text : String) : Except DatabaseAddressFault Unit :=
  match Numeral.readBelow bound text.toList with
  | .ok _ => .ok ()
  | .error fault => .error (.noNumber fault)

def isHostNumber (text : List Char) : Bool :=
  (Ipv4.ofBytes? text).isSome || (Ipv6.ofText? text).isSome

/-- Checks an option.  Options that are not known are not looked at. -/
def checkOption (option : String × String) : Except DatabaseAddressFault Unit :=
  let (name, value) := option
  if name = "sslmode" ∨ name = "ssl-mode" then
    if encryptionWords.contains value.toLower then .ok () else .error (.unknownEncryption value)
  else if name = "statement-cache-capacity" then
    checkNumber UInt64.size value
  else if name = "hostaddr" then
    if isHostNumber value.toList then .ok () else .error .noHostNumber
  else if name = "port" then
    checkNumber UInt16.size value
  else
    .ok ()

/-- Checks the host: if it is the path of a socket, that has to be a text. -/
def checkHost (host : List Char) : Except DatabaseAddressFault Unit :=
  if (Percent.bytes host).head? = some 0x2F then checkText host else .ok ()

/-- Checks what an address says before its path. -/
def checkAuthority (authority : Authority) : Except DatabaseAddressFault Unit := do
  checkHost authority.host.text
  checkText authority.username
  checkText (authority.password.getD [])

def check (text : String) : Except DatabaseAddressFault Unit := do
  match Address.ofText text with
  | .error fault => throw (.noAddress fault)
  | .ok address =>
    if let some authority := address.authority then
      checkAuthority authority
    checkText (address.path.dropWhile (· == '/'))
    (Form.decode (Utf8.encode (address.query.getD []))).forM checkOption

end DatabaseAddress
end SlashDice
