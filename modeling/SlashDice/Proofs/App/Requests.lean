import SlashDice.App.Router

/-!
# Requests in sequence

Each request to the service is answered in the state of the source of numbers that
the ones before it leave.  A request for a page that announces no long body is
answered by the page, and a command that announces no length by the command endpoint.
-/

namespace SlashDice
namespace App

open Web

variable {σ : Type} [Randomness σ] {app : App}

/-- The state of the source when some requests have been answered. -/
def sourceAfter (app : App) (requests : List (World × Request)) (source : σ) : σ :=
  requests.foldl (fun source sent => (app.handle sent.1 sent.2 source).source) source

@[simp]
theorem sourceAfter_cons (app : App) (sent : World × Request) (rest : List (World × Request))
    (source : σ) :
    app.sourceAfter (sent :: rest) source =
      app.sourceAfter rest (app.handle sent.1 sent.2 source).source :=
  rfl

/-- Each request is answered in the state that the ones before it leave. -/
theorem getElem?_handleAll (requests : List (World × Request)) (place : Nat) (source : σ) :
    (app.handleAll requests source)[place]? = requests[place]?.map fun sent =>
      app.handle sent.1 sent.2 (app.sourceAfter (requests.take place) source) := by
  induction requests generalizing place source with
  | nil => rfl
  | cons first rest induction =>
      cases place with
      | zero => rfl
      | succ place => exact induction place _

theorem handle_of_get {request : Request} {place : Route}
    (quiet : announcesTooMuch request = false) (method_eq : request.method = "GET")
    (path_eq : Route.ofPath? request.path = some place) (world : World) (source : σ) :
    app.handle world request source = app.get world request source place := by
  simp [handle, quiet, path_eq, route, method_eq]

section Unannounced

variable {world : World} {request : Request}

/-- A command that announces no length. -/
structure SendsUnmeasured (request : Request) : Prop where
  method_eq : request.method = "POST"
  path_eq : request.path = "/"
  unannounced : request.headerBytes? "content-length" = none

variable (sends : SendsUnmeasured request)
include sends

theorem SendsUnmeasured.contentLength?_eq_none : request.contentLength? = none := by
  rw [Request.contentLength?, Request.header?, sends.unannounced]
  rfl

theorem SendsUnmeasured.bodyLimit_eq : bodyLimit request = 65536 := by
  rw [bodyLimit, sends.contentLength?_eq_none]
  rfl

theorem handle_of_sends (source : σ) :
    app.handle world request source = app.command world request source := by
  have quiet : announcesTooMuch request = false := by
    rw [announcesTooMuch, sends.contentLength?_eq_none]
  simp [handle, quiet, sends.path_eq, Route.ofPath?, route, sends.method_eq]

theorem handle_of_tooLong (tooLong : 65536 < request.body.length) (source : σ) :
    app.handle world request source = { response := .bare 413, source } := by
  rw [handle_of_sends sends, command, sends.bodyLimit_eq, if_pos tooLong]

variable (fits : request.body.length ≤ 65536)
include fits

theorem handle_of_unsigned (unsigned : app.checkSignature world request ≠ .ok ())
    (source : σ) :
    app.handle world request source =
      { response := rejection app.settings.mode, readsClock := true, source } := by
  rw [handle_of_sends sends, command, sends.bodyLimit_eq, if_neg (Nat.not_lt.mpr fits)]
  cases checked : app.checkSignature world request with
  | error fault => rfl
  | ok accepted => exact absurd checked unsigned

theorem handle_of_signed (signed : app.checkSignature world request = .ok ()) (source : σ) :
    app.handle world request source =
      { app.acceptCommand world request source with readsClock := true } := by
  rw [handle_of_sends sends, command, sends.bodyLimit_eq, if_neg (Nat.not_lt.mpr fits), signed]

end Unannounced

end App
end SlashDice
