import SlashDice.App.Command
import SlashDice.App.Installation
import SlashDice.App.Landing

/-!
# Routing

A request that announces too long a body is turned away before anything else.
Then the path decides, and then the method; a request for the head of a page is
answered like one for the page, without the body.
-/

namespace SlashDice
namespace App

open Web

variable {σ : Type} [Randomness σ]

inductive Route
  | root
  | install
  | callback
  | health
  deriving DecidableEq, Repr

def Route.ofPath? : String → Option Route
  | "/" => some root
  | "/install" => some install
  | "/oauth" => some callback
  | "/health" => some health
  | _ => none

def Route.allowed : Route → String
  | root => "GET,HEAD,POST"
  | _ => "GET,HEAD"

def release : String := "0.1.0"

def health (app : App) : Response :=
  .json 200 (.record
    [("status", .text "ok"),
      ("version", .text release),
      ("mode", .text app.settings.mode.name),
      ("audit", .text app.auditLog.label),
      ("oauth", .bool app.registration?.isSome)])

def get (app : App) (world : World) (request : Request) (source : σ) : Route → Effect σ
  | .root => { response := .html landingPage, source }
  | .install => app.install world source
  | .callback => app.callback world request source
  | .health => { response := app.health, source }

def route (app : App) (world : World) (request : Request) (source : σ) (place : Route) :
    Effect σ :=
  if request.method = "GET" then
    app.get world request source place
  else if request.method = "HEAD" then
    let effect := app.get world request source place
    { effect with response := effect.response.withoutBody }
  else if request.method = "POST" ∧ place = .root then
    app.command world request source
  else
    { response := { status := 405, allow := some place.allowed }, source }

/-- Whether a request announces a body that is too long. -/
def announcesTooMuch (request : Request) : Bool :=
  match request.contentLength? with
  | some length => maxBodyBytes < length
  | none => false

def handle (app : App) (world : World) (request : Request) (source : σ) : Effect σ :=
  if announcesTooMuch request then
    { response := .plain 413 "length limit exceeded", source }
  else
    match Route.ofPath? request.path with
    | some place => app.route world request source place
    | none => { response := .bare 404, source }

/-- Answers a request, unless the clock has to be read for it and does not tell the
time. -/
def serve? (app : App) (world : World) (request : Request) (source : σ) : Option (Effect σ) :=
  let effect := app.handle world request source
  if effect.readsClock && !isTold world.now.toInt then none else some effect

theorem serve?_of_isTold (app : App) {world : World} (told : isTold world.now.toInt = true)
    (request : Request) (source : σ) :
    app.serve? world request source = some (app.handle world request source) := by
  simp [serve?, told]

def handleAll (app : App) : List (World × Request) → σ → List (Effect σ)
  | [], _ => []
  | (world, request) :: rest, source =>
    let effect := app.handle world request source
    effect :: app.handleAll rest effect.source

@[simp]
theorem handleAll_cons (app : App) (sent : World × Request) (rest : List (World × Request))
    (source : σ) :
    app.handleAll (sent :: rest) source =
      app.handle sent.1 sent.2 source ::
        app.handleAll rest (app.handle sent.1 sent.2 source).source :=
  rfl

end App
end SlashDice
