import SlashDice.Text.Numeral
import SlashDice.Text.Percent
import SlashDice.Text.Utf8.Fault
import SlashDice.Web.Address.Host

/-!
# Web addresses

An address has a scheme, perhaps an authority, which names a host and whoever
calls it, a path, and perhaps a query and a fragment.  Its text puts the parts
together with their marks.
-/

namespace SlashDice
namespace Web

open Text

/-- The schemes that are read by rules of their own: that of files, those of the
web with the port they stand for, and all others. -/
inductive SchemeKind
  | file
  | network (standardPort : Nat)
  | other
  deriving DecidableEq, Repr

namespace SchemeKind

def ofName (scheme : List Char) : SchemeKind :=
  match String.ofList scheme with
  | "file" => file
  | "http" | "ws" => network 80
  | "https" | "wss" => network 443
  | "ftp" => network 21
  | _ => other

def takesBackslash : SchemeKind → Bool
  | other => false
  | _ => true

def standsFor (kind : SchemeKind) (port : Nat) : Bool :=
  kind == network port

end SchemeKind

/-- Whoever calls a host, the host, and its port. -/
structure Authority where
  username : List Char := []
  password : Option (List Char) := none
  host : Host
  port : Option Nat := none
  deriving DecidableEq, Repr

namespace Authority

def userText (authority : Authority) : List Char :=
  let password := match authority.password with
    | some password => ':' :: password
    | none => []
  if authority.username = [] ∧ authority.password = none then []
  else authority.username ++ password ++ ['@']

def portText (authority : Authority) : List Char :=
  match authority.port with
  | some port => ':' :: Numeral.ofNat port
  | none => []

def text (authority : Authority) : List Char :=
  '/' :: '/' :: (authority.userText ++ authority.host.text ++ authority.portText)

def hasHost (authority : Authority) : Bool :=
  authority.host != .name []

/-- The name of whoever calls the host, unless its bytes are no text. -/
def userIsText (authority : Authority) : Bool :=
  Utf8.isText (Percent.bytes authority.username)

def hasCredentials (authority : Authority) : Bool :=
  authority.userIsText && (authority.username ≠ [] ||
    authority.password.any fun password => Utf8.isText (Percent.bytes password))

/-- The authority without credentials that are told to the host in another way. -/
def withoutCredentials (authority : Authority) : Authority :=
  if authority.hasCredentials then { authority with username := [], password := none }
  else authority

end Authority

/-- An address in normal form. -/
structure Address where
  scheme : List Char
  authority : Option Authority
  path : List Char
  query : Option (List Char)
  fragment : Option (List Char)
  deriving DecidableEq, Repr

namespace Address

/-- What stands where there is no authority: without it, a path with an empty first
folder would be taken for one. -/
def emptyAuthority (path : List Char) : List Char :=
  if ['/', '/'].isPrefixOf path then ['/', '.'] else []

def marked (mark : Char) : Option (List Char) → List Char
  | some part => mark :: part
  | none => []

def text (address : Address) : List Char :=
  address.scheme ++ ':' ::
    ((match address.authority with
      | some authority => authority.text
      | none => emptyAuthority address.path) ++
    address.path ++ marked '?' address.query ++ marked '#' address.fragment)

def hasHost (address : Address) : Bool :=
  address.authority.any Authority.hasHost

def isOfPage (address : Address) : Bool :=
  address.scheme == "http".toList || address.scheme == "https".toList

/-- The address without credentials that are told to the host in another way. -/
def withoutCredentials (address : Address) : Address :=
  { address with authority := address.authority.map Authority.withoutCredentials }

end Address
end Web
end SlashDice
