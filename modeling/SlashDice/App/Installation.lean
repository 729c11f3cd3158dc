import SlashDice.App.Basic
import SlashDice.App.CallbackQuery
import SlashDice.Install.State

/-!
# The installation endpoints

An installation starts with a redirect to the page of its approval.  The
callback is checked here before the world outside is called: first for an error,
then for its code, then for the registration, and last for its state.
-/

namespace SlashDice
namespace App

open Web

def requireRegistration (app : App) : Except Failure Registration :=
  match app.registration? with
  | some registration => .ok registration
  | none =>
    .error (.misconfigured
      "SLACK_CLIENT_ID and SLACK_CLIENT_SECRET must be set for installation")

def newState (registration : Registration) (world : World) : String :=
  InstallState.issue registration.clientSecret world.now world.nonce

def startInstallation (app : App) (world : World) : Response :=
  match app.requireRegistration with
  | .error failure => failure.response
  | .ok registration => .redirect (registration.approvalUrl (newState registration world))

/-- The code of a callback that tells of an approval. -/
def approvedCode (callback : CallbackQuery) : Except Failure String :=
  match callback.error, callback.code with
  | some error, _ => .error (.external ("Slack OAuth error: " ++ error))
  | none, some code =>
    if code = "" then .error (.invalid "Missing 'code' parameter from Slack OAuth callback")
    else .ok code
  | none, none => .error (.invalid "Missing 'code' parameter from Slack OAuth callback")

def checkState (registration : Registration) (world : World) (callback : CallbackQuery) :
    Except Failure Unit :=
  match InstallState.check registration.clientSecret callback.state world.now with
  | .ok () => .ok ()
  | .error fault => .error (.invalid fault.message)

/-- What has to be in order before the state of a callback is checked: the code and
the registration. -/
def admitCallback (app : App) (callback : CallbackQuery) :
    Except Failure (String × Registration) := do
  let code ← approvedCode callback
  let registration ← app.requireRegistration
  return (code, registration)

def installed (workspace : Workspace) : Response :=
  match workspace.url with
  | some url => .redirect url
  | none => .html workspace.page

/-- The response to the calls of an installation. -/
def installationResponse : Except WebApi.Fault Workspace → Response
  | .ok workspace => installed workspace
  | .error fault => (Failure.external fault.message).response

def completeInstallation (world : World) (registration : Registration) (code : String)
    (callback : CallbackQuery) : List WebApi.Call × Response :=
  match checkState registration world callback with
  | .error failure => ([], failure.response)
  | .ok () =>
    let trace := Workspace.install world.transport registration code
    (trace.calls, installationResponse trace.result)

variable {σ : Type}

def install (app : App) (world : World) (source : σ) : Effect σ :=
  { response := app.startInstallation world, readsClock := app.registration?.isSome, source }

/-- Answers a callback.  The clock is read for the age of its state. -/
def callback (app : App) (world : World) (request : Request) (source : σ) : Effect σ :=
  match CallbackQuery.ofPairs (Form.decode request.query) with
  | .error field =>
    { response := .plain 400
        ("Failed to deserialize query string: duplicate field `" ++ field ++ "`")
      source }
  | .ok query =>
    match app.admitCallback query with
    | .error failure => { response := failure.response, source }
    | .ok (code, registration) =>
      let (calls, response) := completeInstallation world registration code query
      { response, calls, readsClock := true, source }

end App
end SlashDice
