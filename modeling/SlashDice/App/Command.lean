import SlashDice.App.Basic
import SlashDice.App.CommandForm

/-!
# The command endpoint

A command is measured, then its signature is checked by the clock, then it is
read, and only then played.  Its reply is always a message; the record of a throw is
also handed to the audit log.
-/

namespace SlashDice
namespace App

open Web

variable {σ : Type} [Randomness σ]

def maxBodyBytes : Nat := 65536

/-- What a sender learns whose command has no proper signature. -/
def rejectionText : String :=
  "Slack signature verification failed"

def rejection : Mode → Response
  | .staging => .plain 401 rejectionText
  | .production => .bare 401
  | .development => .bare 401

@[simp]
theorem status_rejection (mode : Mode) : (rejection mode).status = 401 := by
  cases mode <;> rfl

def formType : String := "application/x-www-form-urlencoded"

/-- The most bytes that the body of a request may have: no more than announced. -/
def bodyLimit (request : Request) : Nat :=
  min (request.contentLength?.getD maxBodyBytes) maxBodyBytes

def isForm (request : Request) : Bool :=
  match request.header? "content-type" with
  | some value => formType.toList.isPrefixOf value.toList
  | none => false

def checkSignature (app : App) (world : World) (request : Request) :
    Except Signature.Fault Unit :=
  app.verifier.verify (request.header? Signature.timestampHeader)
    (request.header? Signature.signatureHeader) request.body world.now

def recordsOf (form : CommandForm) (now : Int64) : Turn → List AuditRecord
  | .rolled roll outcome =>
    [AuditRecord.ofThrow form.userId form.teamId roll outcome ⟨now.toInt, 0⟩]
  | _ => []

def playForm (app : App) (world : World) (form : CommandForm) (source : σ) : Effect σ :=
  let (turn, next) := app.game.play form.text source
  let trail := app.auditLog.trailOf (recordsOf form world.now turn)
  { response := .json 200 (app.game.reply turn form.userId).toJson
    records := trail.given
    warnings := trail.warnings
    source := next }

@[simp]
theorem status_playForm (app : App) (world : World) (form : CommandForm) (source : σ) :
    (app.playForm world form source).response.status = 200 :=
  Response.status_json 200 _

def acceptCommand (app : App) (world : World) (request : Request) (source : σ) : Effect σ :=
  if isForm request then
    match CommandForm.ofPairs (Form.decode request.body) with
    | .ok form => app.playForm world form source
    | .error field =>
      { response := .plain 422
          ("Failed to deserialize form body: duplicate field `" ++ field ++ "`")
        source }
  else
    { response := .plain 415 ("Form requests must have `Content-Type: " ++ formType ++ "`")
      source }

def command (app : App) (world : World) (request : Request) (source : σ) : Effect σ :=
  if bodyLimit request < request.body.length then
    { response := .bare 413, source }
  else
    match app.checkSignature world request with
    | .error _ => { response := rejection app.settings.mode, readsClock := true, source }
    | .ok () => { app.acceptCommand world request source with readsClock := true }

end App
end SlashDice
