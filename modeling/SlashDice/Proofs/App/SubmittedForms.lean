import SlashDice.Proofs.App.Requests
import SlashDice.Proofs.Reply.Document
import SlashDice.Proofs.Settings
import SlashDice.Proofs.Web.FormFields
import SlashDice.Random.Script
import SlashDice.Web.Form.Lemmas

/-!
# Commands that are submitted as forms

A signed command whose body is a form is answered with the reply of the game to its
text and its user, whatever else the form gives; who reads the JSON of the answer finds
the whole reply in it.  With settings that pass their check no total in the reply
overflows.
-/

namespace SlashDice

open Web

/-- A form that gives no field of a command twice is read as a command with the text and
the user that it gives. -/
theorem CommandForm.ofPairs_of_gives {pairs : List (String × String)} {text user : String}
    (once : ∀ field ∈ fieldNames, Form.timesGiven pairs field ≤ 1)
    (givesText : Form.Gives pairs "text" text) (givesUser : Form.Gives pairs "user_id" user) :
    ∃ form, ofPairs pairs = .ok form ∧ form.text = text ∧ form.userId = user := by
  have single := Form.firstRepeated?_eq_none_iff.mpr once
  rw [ofPairs, single]
  exact ⟨_, rfl, Form.getD_lookup_of_gives (once _ (by decide)) givesText,
    Form.getD_lookup_of_gives (once _ (by decide)) givesUser⟩

namespace App

variable {σ : Type} [Randomness σ] {app : App} {world : World} {request : Request}
  {pairs : List (String × String)}

/-- A command with a proper signature, which announces no length, and whose body is no
longer than allowed and is the form of pairs that give no field of a command twice. -/
structure Submits (app : App) (world : World) (request : Request)
    (pairs : List (String × String)) : Prop where
  method_eq : request.method = "POST"
  path_eq : request.path = "/"
  unannounced : request.headerBytes? "content-length" = none
  type_eq : request.header? "content-type" = some "application/x-www-form-urlencoded"
  body_eq : request.body = Text.Utf8.encode (Form.encode pairs)
  length_le : request.body.length ≤ 65536
  verified : app.verifier.verify (request.header? Signature.timestampHeader)
    (request.header? Signature.signatureHeader) request.body world.now = .ok ()
  once : ∀ field ∈ CommandForm.fieldNames, Form.timesGiven pairs field ≤ 1

theorem handle_of_submits (submits : app.Submits world request pairs) {text user : String}
    (givesText : Form.Gives pairs "text" text) (givesUser : Form.Gives pairs "user_id" user)
    (source : σ) :
    ∃ form : CommandForm, form.text = text ∧ form.userId = user ∧
      app.handle world request source =
        { app.playForm world form source with readsClock := true } := by
  obtain ⟨form, read, text_eq, user_eq⟩ :=
    CommandForm.ofPairs_of_gives submits.once givesText givesUser
  have sends : SendsUnmeasured request :=
    ⟨submits.method_eq, submits.path_eq, submits.unannounced⟩
  have isForm : isForm request = true := by
    rw [App.isForm, submits.type_eq]
    decide
  refine ⟨form, text_eq, user_eq, ?_⟩
  rw [handle_of_signed sends submits.length_le submits.verified]
  simp only [acceptCommand, isForm, if_true, submits.body_eq, Form.decode_encode, read]

/-- A request is answered with the reply of the game to a text and a user, which is read
back from the JSON of the response, and the source is left as the game leaves it. -/
structure AnswersWith (app : App) (text user : String) (source : σ) (effect : Effect σ) :
    Prop where
  response_eq : effect.response = .json 200 (app.game.answer text user source).1.toJson
  reads_back : ∃ document, effect.response = .json 200 document ∧
    Message.ofValue? document = some (app.game.answer text user source).1
  source_eq : effect.source = (app.game.answer text user source).2
  calls_eq : effect.calls = []

theorem answersWith_of_submits (submits : app.Submits world request pairs) {text user : String}
    (givesText : Form.Gives pairs "text" text) (givesUser : Form.Gives pairs "user_id" user)
    (source : σ) : app.AnswersWith text user source (app.handle world request source) := by
  obtain ⟨form, rfl, rfl, handled⟩ := handle_of_submits submits givesText givesUser source
  rw [handled]
  exact ⟨rfl, ⟨_, rfl, Message.ofValue?_toJson _⟩, rfl, rfl⟩

/-- With settings that pass their check, a signed form is answered with the status 200
and the reply that the game gives to the text and the user of the form, in the state of
the source that the requests before it leave; the reply is read back from the JSON of the
response as a whole.  The form is always answered while the clock tells the time.
Whatever the source draws, no total of the reply overflows.  Another form with the same
text and user has the same response, whatever else it gives. -/
theorem submitted_forms_refine_answer (app : App) (accepted : app.settings.check = .ok ())
    (world : World) (request : Request) (pairs : List (String × String)) (text user : String)
    (submits : app.Submits world request pairs) (givesText : Form.Gives pairs "text" text)
    (givesUser : Form.Gives pairs "user_id" user) (source : σ) :
    app.AnswersWith text user source (app.handle world request source) ∧
      (∀ requests place, requests[place]? = some (world, request) →
        ∃ effect, (app.handleAll requests source)[place]? = some effect ∧
          app.AnswersWith text user (app.sourceAfter (requests.take place) source) effect) ∧
      (isTold world.now.toInt = true →
        app.serve? world request source = some (app.handle world request source)) ∧
      (∀ roll outcome, (app.game.play text source).1 = .rolled roll outcome →
        outcome.Exact roll.modifier) ∧
      (∀ otherWorld other otherPairs, app.Submits otherWorld other otherPairs →
        Form.Gives otherPairs "text" text → Form.Gives otherPairs "user_id" user →
          (app.handle otherWorld other source).response =
            (app.handle world request source).response) := by
  have answers := answersWith_of_submits submits givesText givesUser source
  refine ⟨answers, ?_, fun told => serve?_of_isTold app told request source, ?_, ?_⟩
  · intro requests place here
    refine ⟨_, ?_, answersWith_of_submits submits givesText givesUser _⟩
    rw [getElem?_handleAll, here, Option.map_some]
  · intro roll outcome rolled
    exact (Settings.check_eq_ok_iff.mp accepted).exact_of_rolled rolled
  · intro otherWorld other otherPairs otherSubmits otherText otherUser
    have otherAnswers := answersWith_of_submits otherSubmits otherText otherUser source
    rw [otherAnswers.response_eq, answers.response_eq]

theorem eq_ok_of_isOk {result : Except Signature.Fault Unit} (ok : result.isOk = true) :
    result = .ok () := by
  cases result with
  | error fault => cases ok
  | ok accepted => rfl

/-- A form with separators and a letter outside ASCII in its values, and with a field
that is none of a command and is given twice. -/
theorem submitted_forms_refine_answer_separators :
    let app : App := ⟨{ Settings.standard with signingSecret := some "secret" }, .disabled⟩
    let world : World := ⟨1700000000, 0, fun _ => .unreachable⟩
    let pairs := [("token", "a"), ("user_id", "U&=+ 7"), ("text", "2d6+1 Für"), ("token", "b")]
    let signature := "v0=2729b237f9d49d0b0c09d027834707dd33faf352497367199a1c51f6c1368509"
    let request : Request := ⟨"POST", ⟨['/'], none⟩,
      [("Content-Type", bytesOfString "application/x-www-form-urlencoded"),
        ("X-Slack-Request-Timestamp", bytesOfString "1700000000"),
        ("X-Slack-Signature", bytesOfString signature)],
      Text.Utf8.encode (Form.encode pairs)⟩
    app.settings.check = .ok () ∧ app.Submits world request pairs ∧
      Form.Gives pairs "text" "2d6+1 Für" ∧ Form.Gives pairs "user_id" "U&=+ 7" ∧
      app.AnswersWith "2d6+1 Für" "U&=+ 7" (Script.mk [3, 250])
        (app.handle world request (Script.mk [3, 250])) := by
  intro app world pairs signature request
  have submits : app.Submits world request pairs :=
    { method_eq := rfl
      path_eq := rfl
      unannounced := by decide +kernel
      type_eq := by decide +kernel
      body_eq := rfl
      length_le := by decide +kernel
      verified := eq_ok_of_isOk (by decide +kernel)
      once := by decide }
  have givesText : Form.Gives pairs "text" "2d6+1 Für" := .inl (by simp [pairs])
  have givesUser : Form.Gives pairs "user_id" "U&=+ 7" := .inl (by simp [pairs])
  exact ⟨rfl, submits, givesText, givesUser,
    (submitted_forms_refine_answer app rfl world request pairs _ _ submits givesText givesUser
      (Script.mk [3, 250])).1⟩

end App
end SlashDice
