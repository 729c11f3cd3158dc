import SlashDice.Proofs.App.Requests
import SlashDice.Proofs.Signature
import SlashDice.Random.Script
import SlashDice.Random.Traced

/-!
# Commands without a proper signature

A command whose signature is not in order is turned away with a response that
depends on the mode alone.  It draws nothing, leaves nothing in the audit log, and
does not change what any other request meets: among the requests that are sent to
the service it can be replaced by another such command, or left out.
-/

namespace SlashDice
namespace App

open Web

variable {σ : Type} [Randomness σ] {app : App} {world : World} {request : Request}

/-- A command of proper length, which announces no length, and whose headers and
body are not accepted at the time it comes in. -/
structure LacksSignature (app : App) (world : World) (request : Request) : Prop where
  method_eq : request.method = "POST"
  path_eq : request.path = "/"
  unannounced : request.headerBytes? "content-length" = none
  length_le : request.body.length ≤ 65536
  unverified : app.verifier.verify (request.header? Signature.timestampHeader)
    (request.header? Signature.signatureHeader) request.body world.now ≠ .ok ()

theorem handle_of_lacksSignature (lacks : app.LacksSignature world request) (source : σ) :
    app.handle world request source =
      { response := rejection app.settings.mode, readsClock := true, source } :=
  handle_of_unsigned ⟨lacks.method_eq, lacks.path_eq, lacks.unannounced⟩ lacks.length_le
    lacks.unverified source

/-- Signatures are never out of order in development. -/
theorem mode_of_lacksSignature (lacks : app.LacksSignature world request) :
    app.settings.mode = .production ∨ app.settings.mode = .staging := by
  cases mode : app.settings.mode with
  | development =>
      exact absurd (Signature.Verifier.verify_of_development mode _ _ _ _) lacks.unverified
  | staging => exact .inr rfl
  | production => exact .inl rfl

theorem getElem?_handleAll_of_lacksSignature {requests : List (World × Request)} {place : Nat}
    (here : requests[place]? = some (world, request)) (lacks : app.LacksSignature world request)
    (source : σ) :
    (app.handleAll requests source)[place]? = some
      { response := rejection app.settings.mode, readsClock := true,
        source := app.sourceAfter (requests.take place) source } := by
  rw [getElem?_handleAll, here, Option.map_some, handle_of_lacksSignature lacks]

/-- One command without a proper signature is answered like another, and the
requests after them alike. -/
theorem handleAll_set_of_lacksSignature {requests : List (World × Request)} {place : Nat}
    {sent other : World × Request} (here : requests[place]? = some sent)
    (lacks : app.LacksSignature sent.1 sent.2) (otherLacks : app.LacksSignature other.1 other.2)
    (source : σ) :
    app.handleAll (requests.set place other) source = app.handleAll requests source := by
  induction requests generalizing place source with
  | nil => rfl
  | cons first rest induction =>
      cases place with
      | zero =>
          cases Option.some.inj here
          simp only [List.set_cons_zero, handleAll_cons, handle_of_lacksSignature lacks,
            handle_of_lacksSignature otherLacks]
      | succ place =>
          rw [List.set_cons_succ, handleAll_cons, handleAll_cons, induction here]

/-- Without the command the other requests are answered as with it. -/
theorem handleAll_eraseIdx_of_lacksSignature {requests : List (World × Request)} {place : Nat}
    {sent : World × Request} (here : requests[place]? = some sent)
    (lacks : app.LacksSignature sent.1 sent.2) (source : σ) :
    app.handleAll (requests.eraseIdx place) source =
      (app.handleAll requests source).eraseIdx place := by
  induction requests generalizing place source with
  | nil => rfl
  | cons first rest induction =>
      cases place with
      | zero =>
          cases Option.some.inj here
          simp only [List.eraseIdx_cons_zero, handleAll_cons, handle_of_lacksSignature lacks]
      | succ place =>
          rw [List.eraseIdx_cons_succ, handleAll_cons, handleAll_cons, List.eraseIdx_cons_succ,
            induction here]

/-- A command without a proper signature, anywhere among the requests to a service,
is answered with the status 401: without a body in production, and with a fixed text
in staging.  It is not recorded, it leaves the source of numbers as it was and asks
it for no draw.  Another such command in its place, or none, makes no difference to
any other response or record, nor the other command to this response. -/
theorem unsigned_commands_fail_closed (app : App) (requests : List (World × Request))
    (place : Nat) (world : World) (request : Request) (source : σ)
    (here : requests[place]? = some (world, request)) (lacks : app.LacksSignature world request) :
    (∃ effect, (app.handleAll requests source)[place]? = some effect ∧
      (app.settings.mode = .production ∧ effect.response = .bare 401 ∨
        app.settings.mode = .staging ∧
          effect.response = .plain 401 "Slack signature verification failed") ∧
      effect.records = [] ∧ effect.source = app.sourceAfter (requests.take place) source) ∧
    (∀ traced : Traced σ,
      (app.handle world request traced).source.requested = traced.requested) ∧
    (∀ otherWorld other, app.LacksSignature otherWorld other →
      app.handleAll (requests.set place (otherWorld, other)) source =
        app.handleAll requests source) ∧
    app.handleAll (requests.eraseIdx place) source =
      (app.handleAll requests source).eraseIdx place := by
  refine ⟨?_, ?_, ?_, handleAll_eraseIdx_of_lacksSignature here lacks source⟩
  · refine ⟨_, getElem?_handleAll_of_lacksSignature here lacks source, ?_, rfl, rfl⟩
    rcases mode_of_lacksSignature lacks with production | staging
    · exact .inl ⟨production, by rw [production]; rfl⟩
    · exact .inr ⟨staging, by rw [staging]; rfl⟩
  · intro traced
    rw [handle_of_lacksSignature lacks]
  · intro otherWorld other otherLacks
    exact handleAll_set_of_lacksSignature here lacks otherLacks source

theorem ne_ok_of_isOk_eq_false {result : Except Signature.Fault Unit}
    (refused : result.isOk = false) : result ≠ .ok () := by
  rintro rfl
  cases refused

/-- A stale command in staging, between two signed ones, can be replaced by one with a
wrong digest or left out: the signed ones throw the same dice. -/
theorem unsigned_commands_fail_closed_staging :
    let app : App :=
      ⟨{ Settings.standard with mode := .staging, signingSecret := some "secret" }, .disabled⟩
    let world : World := ⟨1000, 0, fun _ => .unreachable⟩
    let sent (time signature : String) : Request :=
      ⟨"POST", ⟨['/'], none⟩,
        [("Content-Type", bytesOfString "application/x-www-form-urlencoded"),
          ("X-Slack-Request-Timestamp", bytesOfString time),
          ("X-Slack-Signature", bytesOfString signature)],
        bytesOfString "text=2d6&user_id=U1"⟩
    let signed :=
      sent "1000" "v0=0c7aef1f95e79c8067110015d912012ae5568ccf46b72d6bf4b7357dea9e3c29"
    let stale := sent "699" "v0=00"
    let forged := sent "1000" "v0=00"
    let requests := [(world, signed), (world, stale), (world, signed)]
    let script := Script.mk [4, 6, 1, 3]
    requests[1]? = some (world, stale) ∧ app.LacksSignature world stale ∧
      app.LacksSignature world forged ∧
      ((app.handleAll requests script).map fun effect =>
        (effect.response.status, effect.records.map AuditRecord.rolls)) =
          [(200, [[4, 6]]), (401, []), (200, [[1, 3]])] ∧
      (∃ effect, (app.handleAll requests script)[1]? = some effect ∧
        effect.response = .plain 401 "Slack signature verification failed" ∧
        effect.records = [] ∧ effect.source = ⟨[1, 3, 4, 6]⟩) ∧
      (app.handle world stale (Traced.mk script [])).source.requested = [] ∧
      app.handleAll [(world, signed), (world, forged), (world, signed)] script =
        app.handleAll requests script ∧
      app.handleAll [(world, signed), (world, signed)] script =
        (app.handleAll requests script).eraseIdx 1 := by
  intro app world sent signed stale forged requests script
  have staleLacks : app.LacksSignature world stale :=
    ⟨rfl, rfl, by decide +kernel, by decide +kernel,
      ne_ok_of_isOk_eq_false (by decide +kernel)⟩
  have forgedLacks : app.LacksSignature world forged :=
    ⟨rfl, rfl, by decide +kernel, by decide +kernel,
      ne_ok_of_isOk_eq_false (by decide +kernel)⟩
  have answers : ((app.handleAll requests script).map fun effect =>
      (effect.response.status, effect.records.map AuditRecord.rolls)) =
        [(200, [[4, 6]]), (401, []), (200, [[1, 3]])] := by
    decide +kernel
  have before : app.sourceAfter (requests.take 1) script = ⟨[1, 3, 4, 6]⟩ := by decide +kernel
  obtain ⟨⟨effect, here, response, silent, kept⟩, undrawn, replaced, removed⟩ :=
    unsigned_commands_fail_closed app requests 1 world stale script rfl staleLacks
  have told : effect.response = .plain 401 "Slack signature verification failed" := by
    rcases response with ⟨production, -⟩ | ⟨-, told⟩
    · cases production
    · exact told
  exact ⟨rfl, staleLacks, forgedLacks, answers, ⟨effect, here, told, silent, kept.trans before⟩,
    undrawn ⟨script, []⟩, replaced world forged forgedLacks, removed⟩

end App
end SlashDice
