import SlashDice.Settings.Basic
import SlashDice.Web.Form

/-!
# Registration with the chat service

What the service needs to be installed into a workspace: the identifier and the
secret that it is registered with, the address to come back to, the address of
the Web API, and the scopes to ask for.
-/

namespace SlashDice

open Text Web

structure Registration where
  clientId : String
  clientSecret : String
  redirectUri : Option String := none
  apiBaseUrl : String := "https://slack.com/api"
  scopes : List String := ["commands"]
  deriving DecidableEq, Repr

def approvalPage : String :=
  "https://slack.com/oauth/v2/authorize"

def approvalParameters (clientId : String) (scopes : List String)
    (redirectUri state : Option String) : List (String × String) :=
  [("client_id", clientId), ("scope", String.intercalate "," scopes)] ++
    (redirectUri.map fun uri => ("redirect_uri", uri)).toList ++
    (state.map fun value => ("state", value)).toList

def approvalUrl (clientId : String) (scopes : List String)
    (redirectUri state : Option String) : String :=
  approvalPage ++ "?" ++
    String.ofList (Form.encode (approvalParameters clientId scopes redirectUri state))

namespace Registration

def trimSlashes (address : String) : String :=
  String.ofList (address.toList.reverse.dropWhile (· == '/')).reverse

def withRedirectUri (registration : Registration) (uri : String) : Registration :=
  { registration with redirectUri := some uri }

def withApiBaseUrl (registration : Registration) (address : String) : Registration :=
  { registration with apiBaseUrl := trimSlashes address }

/-- The registration in the settings, if both credentials are set. -/
def ofSettings? (settings : Settings) : Option Registration :=
  match settings.clientId, settings.clientSecret with
  | some clientId, some clientSecret =>
    some
      { clientId
        clientSecret
        redirectUri := settings.redirectUri
        apiBaseUrl := trimSlashes settings.apiBaseUrl
        scopes := settings.scopeList }
  | _, _ => none

def approvalUrl (registration : Registration) (state : String) : String :=
  SlashDice.approvalUrl registration.clientId registration.scopes registration.redirectUri
    (some state)

end Registration
end SlashDice
