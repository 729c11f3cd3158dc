import SlashDice.Install.Registration
import SlashDice.Json.Members
import SlashDice.Json.Reader
import SlashDice.Text.Base64
import SlashDice.Web.Address.Reader
import SlashDice.Web.Exchange
import SlashDice.Web.Status

/-!
# Calls of the Web API

An installation makes two calls: one exchanges the code for an access token, the
other asks whose token it is.  A call names its address, how it is authorised
and its body; it is made by a client, which follows redirects by itself.  What the
client hands back in the end is decided by the world outside.
-/

namespace SlashDice
namespace WebApi

open Text Json Json.Members Web

inductive Step
  | exchange
  | identify
  deriving DecidableEq, Repr

def Step.path : Step → String
  | exchange => "/oauth.v2.access"
  | identify => "/auth.test"

def Step.label : Step → String
  | exchange => "OAuth"
  | identify => "auth.test"

/-- A call as the client is told to make it. -/
structure Call where
  step : Step
  url : String
  authorization : String
  contentType : Option String
  body : String
  deriving DecidableEq, Repr

/-- What the client hands back for a call: that nobody answers; in its own words, that it
gives up for another reason (redirects that do not end, say); a response whose body breaks
off; or a response with its body, and the text that the client makes of the body in the
encoding that the headers name. -/
inductive Reply
  | unreachable
  | failed (detail : String)
  | brokenOff (status : Nat) (detail : String)
  | answered (status : Nat) (body : List UInt8) (text : String)
  deriving DecidableEq, Repr

/-- The client with the world outside.  A response that redirects to an address is
followed by the client, so the reply to a call is what the redirects end with. -/
abbrev Transport := Call → Reply

/-- Why a call does not go out or is not answered. -/
inductive SendFault
  | noAddress
  | noPageAddress (url : String)
  | badToken
  | unreachable (url : String)
  | failed (detail : String)
  deriving DecidableEq, Repr

def SendFault.message : SendFault → String
  | noAddress => "builder error"
  | noPageAddress url => "builder error for url (" ++ url ++ ")"
  | badToken => "builder error"
  | unreachable url => "error sending request for url (" ++ url ++ ")"
  | failed detail => detail

/-- Why an installation does not come about. -/
inductive Fault
  | notSent (step : Step) (fault : SendFault)
  | badStatus (step : Step) (status : Nat) (body : String)
  | brokenOff (step : Step) (detail : String)
  | undecodable (step : Step)
  | refused (step : Step) (reason : Option String)
  | noToken
  deriving DecidableEq, Repr

/-- The sentence that tells why.  Only the first call's answer is quoted. -/
def Fault.message : Fault → String
  | notSent step fault => "Slack " ++ step.label ++ " request failed: " ++ fault.message
  | badStatus .exchange status body =>
    "Slack OAuth HTTP error " ++ statusText status ++ ": " ++ body
  | badStatus .identify status _ => "Slack auth.test HTTP error " ++ statusText status
  | brokenOff step detail => "Failed to parse Slack " ++ step.label ++ " response: " ++ detail
  | undecodable step =>
    "Failed to parse Slack " ++ step.label ++ " response: error decoding response body"
  | refused step reason => "Slack " ++ step.label ++ " error: " ++ reason.getD "unknown"
  | noToken => "Slack OAuth response missing access_token"

/-- The workspace that a token belongs to, as the first call names it. -/
structure Team where
  id : String
  name : String
  deriving DecidableEq, Repr

/-- The answer to the exchange of a code. -/
structure ExchangeAnswer where
  ok : Bool
  error : Option String
  accessToken : Option String
  scope : Option String
  team : Option Team
  deriving DecidableEq, Repr

/-- The answer to the question whose token it is. -/
structure IdentityAnswer where
  ok : Bool
  error : Option String
  url : Option String
  team : Option String
  teamId : Option String
  deriving DecidableEq, Repr

def Team.ofValue? (value : Value) : Option Team := do
  let members ← Members.ofValue? ["id", "name"] value
  return {
    id := ← required "id" Value.asText? members
    name := ← required "name" Value.asText? members }

def ExchangeAnswer.ofValue? (value : Value) : Option ExchangeAnswer := do
  let members ← Members.ofValue? ["ok", "error", "access_token", "scope", "team"] value
  return {
    ok := ← required "ok" Value.asBool? members
    error := ← optional "error" Value.asText? members
    accessToken := ← optional "access_token" Value.asText? members
    scope := ← optional "scope" Value.asText? members
    team := ← optional "team" Team.ofValue? members }

def IdentityAnswer.ofValue? (value : Value) : Option IdentityAnswer := do
  let members ← Members.ofValue? ["ok", "error", "url", "team", "team_id"] value
  return {
    ok := ← required "ok" Value.asBool? members
    error := ← optional "error" Value.asText? members
    url := ← optional "url" Value.asText? members
    team := ← optional "team" Value.asText? members
    teamId := ← optional "team_id" Value.asText? members }

def exchangeCall (registration : Registration) (url code : String) : Call where
  step := .exchange
  url := url
  authorization :=
    "Basic " ++ String.ofList (Base64.encode
      (Utf8.encode (registration.clientId.toList ++ ':' :: registration.clientSecret.toList)))
  contentType := some "application/x-www-form-urlencoded"
  body := String.ofList (Form.encode
    (("code", code) ::
      (registration.redirectUri.map fun uri => ("redirect_uri", uri)).toList))

def identifyCall (url token : String) : Call where
  step := .identify
  url := url
  authorization := "Bearer " ++ token
  contentType := none
  body := ""

/-- The text of an address to which a call may go: one of a page at a host, which
may also be the target of a request.  Credentials are told in another way. -/
def callable (address : Address) : Except SendFault String :=
  let shown := if address.hasHost then address.withoutCredentials else address
  let url := String.ofList shown.text
  if shown.hasHost ∧ shown.isOfPage = true ∧ (Target.ofText? shown.text).isSome = true then
    .ok url
  else
    .error (.noPageAddress url)

def address (registration : Registration) (step : Step) : Except SendFault String :=
  match Address.ofText (registration.apiBaseUrl ++ step.path) with
  | .error _ => .error .noAddress
  | .ok address => callable address

/-- What is called and what comes of it. -/
structure Trace (α : Type) where
  calls : List Call
  result : Except Fault α

namespace Trace

variable {α β : Type}

def fail (fault : Fault) : Trace α :=
  ⟨[], .error fault⟩

def andThen (trace : Trace α) (next : α → Trace β) : Trace β :=
  match trace.result with
  | .error fault => ⟨trace.calls, .error fault⟩
  | .ok value => ⟨trace.calls ++ (next value).calls, (next value).result⟩

theorem andThen_of_error {trace : Trace α} {fault : Fault} (failed : trace.result = .error fault)
    (next : α → Trace β) : trace.andThen next = ⟨trace.calls, .error fault⟩ := by
  rw [andThen, failed]

theorem andThen_of_ok {trace : Trace α} {value : α} (found : trace.result = .ok value)
    (next : α → Trace β) :
    trace.andThen next = ⟨trace.calls ++ (next value).calls, (next value).result⟩ := by
  rw [andThen, found]

end Trace

/-- Reads the reply to a call, which has to be a success.  Of the body of another
response, what breaks off counts as empty. -/
def readReply {α : Type} (decode : Value → Option α) (call : Call) : Reply → Except Fault α
  | .unreachable => .error (.notSent call.step (.unreachable call.url))
  | .failed detail => .error (.notSent call.step (.failed detail))
  | .brokenOff status detail =>
    if isSuccess status then .error (.brokenOff call.step detail)
    else .error (.badStatus call.step status "")
  | .answered status body text =>
    if isSuccess status then
      match (Value.ofBytes? body).bind decode with
      | some answer => .ok answer
      | none => .error (.undecodable call.step)
    else
      .error (.badStatus call.step status text)

/-- Makes a call, unless its authorization cannot be sent. -/
def send {α : Type} (transport : Transport) (decode : Value → Option α) (call : Call) :
    Trace α :=
  if isLegalHeader call.authorization then
    ⟨[call], readReply decode call (transport call)⟩
  else
    .fail (.notSent call.step .badToken)

def callMethod {α : Type} (transport : Transport) (registration : Registration) (step : Step)
    (decode : Value → Option α) (call : String → Call) : Trace α :=
  match address registration step with
  | .error fault => .fail (.notSent step fault)
  | .ok url => send transport decode (call url)

/-- Exchanges a code; the answer has to say that it is in order. -/
def obtainToken (transport : Transport) (registration : Registration) (code : String) :
    Trace ExchangeAnswer :=
  (callMethod transport registration .exchange ExchangeAnswer.ofValue?
    fun url => exchangeCall registration url code).andThen fun answer =>
      if answer.ok then ⟨[], .ok answer⟩ else .fail (.refused .exchange answer.error)

/-- Asks whose token it is; the answer has to say that it is in order. -/
def identify (transport : Transport) (registration : Registration) (token : String) :
    Trace IdentityAnswer :=
  (callMethod transport registration .identify IdentityAnswer.ofValue?
    fun url => identifyCall url token).andThen fun answer =>
      if answer.ok then ⟨[], .ok answer⟩ else .fail (.refused .identify answer.error)

end WebApi
end SlashDice
