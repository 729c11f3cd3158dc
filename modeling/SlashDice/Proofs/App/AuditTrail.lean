import SlashDice.Proofs.App.Requests
import SlashDice.Proofs.Dice.Session
import SlashDice.Proofs.Settings

/-!
# The audit trail

A request gives the log one record if it is answered with a message to the whole
channel, and none otherwise.  The record and the message are made from the same throw,
so they agree about it, and the dice of the throw are the next ones of the script.
What the log makes of its records is not seen from outside: a record that it does not
keep leads to a warning to the operator and to nothing else, and only the label of the
log is shown, on the page that tells of the health of the service.
-/

namespace SlashDice

open Web

namespace Web.Response

/-- A success message: it is shown to the whole channel. -/
def TellsChannel (response : Response) : Prop :=
  response.status = 200 ∧ ∃ entries, response.body = .json (.record entries) ∧
    entries.lookup "response_type" = some (.text "in_channel")

/-- The message in a response has one attachment, with this text. -/
def HasHeadline (response : Response) (headline : String) : Prop :=
  ∃ entries attachment, response.body = .json (.record entries) ∧
    entries.lookup "attachments" = some (.list [.record attachment]) ∧
    attachment.lookup "text" = some (.text headline)

variable {response : Response}

theorem not_tellsChannel_of_text {content : String} (body_eq : response.body = .text content) :
    ¬ response.TellsChannel := by
  rintro ⟨-, entries, json, -⟩
  rw [body_eq] at json
  cases json

@[simp]
theorem not_tellsChannel_bare (status : Nat) : ¬ (bare status).TellsChannel :=
  not_tellsChannel_of_text (body_bare status)

@[simp]
theorem not_tellsChannel_plain (status : Nat) (content : String) :
    ¬ (plain status content).TellsChannel :=
  not_tellsChannel_of_text (body_plain status content)

@[simp]
theorem not_tellsChannel_html (content : String) : ¬ (html content).TellsChannel :=
  not_tellsChannel_of_text (body_html content)

@[simp]
theorem not_tellsChannel_withoutBody : ¬ response.withoutBody.TellsChannel :=
  not_tellsChannel_of_text response.body_withoutBody

theorem not_tellsChannel_of_status (status_ne : response.status ≠ 200) :
    ¬ response.TellsChannel :=
  fun tells => status_ne tells.1

@[simp]
theorem tellsChannel_message_iff (message : Message) :
    (json 200 message.toJson).TellsChannel ↔ message.visibility = .channel := by
  obtain ⟨visibility, attachment⟩ := message
  constructor
  · rintro ⟨-, entries, body_eq, shown⟩
    cases body_eq
    cases visibility with
    | channel => rfl
    | sender =>
        have same : "ephemeral" = "in_channel" := Json.Value.text.inj (Option.some.inj shown)
        exact absurd same (by decide)
  · rintro rfl
    exact ⟨rfl, _, rfl, rfl⟩

@[simp]
theorem hasHeadline_message (message : Message) :
    (json 200 message.toJson).HasHeadline message.attachment.text := by
  obtain ⟨visibility, title, _⟩ := message
  cases title <;> exact ⟨_, _, rfl, rfl, rfl⟩

@[simp]
theorem not_tellsChannel_failure (failure : Failure) : ¬ failure.response.TellsChannel := by
  refine not_tellsChannel_of_status ?_
  cases failure <;> simp [Failure.status]

@[simp]
theorem not_tellsChannel_redirect (place : String) : ¬ (redirect place).TellsChannel := by
  by_cases legal : isLegalHeader place = true
  · rw [redirect_of_legal legal]
    exact not_tellsChannel_of_status (by simp)
  · rw [redirect, if_neg legal]
    exact not_tellsChannel_plain _ _

/-- The response with another label of an audit log in its document, if it has one. -/
def relabelled (response : Response) (label : String) : Response :=
  match response.body with
  | .json (.record entries) =>
    { response with
      body := .json (.record (entries.map fun entry =>
        if entry.1 = "audit" then (entry.1, .text label) else entry)) }
  | _ => response

end Web.Response

namespace App

section Effects

variable {σ : Type}

/-- Nothing is recorded, nothing is drawn, and no success message is sent. -/
structure Silent (source : σ) (effect : Effect σ) : Prop where
  records_eq : effect.records = []
  source_eq : effect.source = source
  not_tellsChannel : ¬ effect.response.TellsChannel

theorem not_tellsChannel_startInstallation (app : App) (world : World) :
    ¬ (app.startInstallation world).TellsChannel := by
  rw [startInstallation]
  split <;> simp

theorem not_tellsChannel_installationResponse (result : Except WebApi.Fault Workspace) :
    ¬ (installationResponse result).TellsChannel := by
  cases result with
  | error fault => exact Response.not_tellsChannel_failure _
  | ok workspace =>
      rw [installationResponse, installed]
      split <;> simp

theorem not_tellsChannel_completeInstallation (world : World) (registration : Registration)
    (code : String) (query : CallbackQuery) :
    ¬ (completeInstallation world registration code query).2.TellsChannel := by
  rw [completeInstallation]
  split
  · exact Response.not_tellsChannel_failure _
  · exact not_tellsChannel_installationResponse _

theorem silent_callback (app : App) (world : World) (request : Request) (source : σ) :
    Silent source (app.callback world request source) := by
  rw [callback]
  split
  · exact ⟨rfl, rfl, Response.not_tellsChannel_plain _ _⟩
  split
  · exact ⟨rfl, rfl, Response.not_tellsChannel_failure _⟩
  · exact ⟨rfl, rfl, not_tellsChannel_completeInstallation _ _ _ _⟩

theorem not_tellsChannel_health (app : App) : ¬ app.health.TellsChannel := by
  rintro ⟨-, entries, body_eq, shown⟩
  cases body_eq
  cases shown

theorem silent_get (app : App) (world : World) (request : Request) (source : σ)
    (place : Route) : Silent source (app.get world request source place) := by
  cases place with
  | root => exact ⟨rfl, rfl, Response.not_tellsChannel_html _⟩
  | install => exact ⟨rfl, rfl, not_tellsChannel_startInstallation app world⟩
  | callback => exact silent_callback app world request source
  | health => exact ⟨rfl, rfl, not_tellsChannel_health app⟩

theorem path_of_health {path : String} (found : Route.ofPath? path = some .health) :
    path = "/health" := by
  unfold Route.ofPath? at found
  split at found
  case h_4 => rfl
  all_goals cases found

/-- An effect with the warnings of another log, which is given the same records. -/
def withWarnings (other : AuditLog) (effect : Effect σ) : Effect σ :=
  { effect with warnings := (other.trailOf effect.records).warnings }

/-- What is left of an effect of one log if another takes its place: the warnings are
those of the other one, and the page of the health shows its label. -/
def underLog (other : AuditLog) (sent : World × Request) (effect : Effect σ) : Effect σ :=
  if sent.2.path = "/health" then
    withWarnings other { effect with response := effect.response.relabelled other.label }
  else
    withWarnings other effect

@[simp]
theorem source_underLog (other : AuditLog) (sent : World × Request) (effect : Effect σ) :
    (underLog other sent effect).source = effect.source := by
  unfold underLog
  split <;> rfl

theorem response_underLog (other : AuditLog) {sent : World × Request}
    (elsewhere : sent.2.path ≠ "/health") (effect : Effect σ) :
    (underLog other sent effect).response = effect.response := by
  rw [underLog, if_neg elsewhere, withWarnings]

@[simp]
theorem warnings_underLog (other : AuditLog) (sent : World × Request) (effect : Effect σ) :
    (underLog other sent effect).warnings = effect.records.filterMap other.loss? := by
  unfold underLog
  split <;> simp [withWarnings]

theorem callback_of_log (settings : Settings) (auditLog other : AuditLog) (world : World)
    (request : Request) (source : σ) :
    (App.mk settings other).callback world request source =
      withWarnings other ((App.mk settings auditLog).callback world request source) := by
  have admitted (query : CallbackQuery) : (App.mk settings other).admitCallback query =
      (App.mk settings auditLog).admitCallback query := rfl
  simp only [callback, admitted]
  split
  · rfl
  split <;> rfl

/-- How many dice the records of some effects tell of. -/
def diceRecorded (effects : List (Effect σ)) : Nat :=
  ((effects.flatMap Effect.records).map fun record => record.count.toNat).sum

theorem diceRecorded_cons (first : Effect σ) (rest : List (Effect σ)) :
    diceRecorded (first :: rest) = diceRecorded [first] + diceRecorded rest := by
  simp [diceRecorded]

end Effects

variable {σ : Type} [Randomness σ]

/-- What a request can bring about: a throw that is recorded and shown, or nothing
that concerns the audit log and the source. -/
inductive Leaves (app : App) (world : World) (request : Request) (source : σ) :
    Effect σ → Prop
  | record {form : CommandForm} {roll : Roll} {outcome : Outcome}
      {warnings : List AuditWarning} {readsClock : Bool} :
      CommandForm.ofPairs (Form.decode request.body) = .ok form →
      (app.game.play form.text source).1 = .rolled roll outcome →
      Leaves app world request source
        { response := .json 200 (app.game.style.success form.userId roll outcome).toJson
          records := [AuditRecord.ofThrow form.userId form.teamId roll outcome
            ⟨world.now.toInt, 0⟩]
          warnings
          readsClock
          source := (app.game.play form.text source).2 }
  | nothing {effect : Effect σ} : Silent source effect → Leaves app world request source effect

variable {app : App} {world : World} {request : Request}

/-- A command that is played is recorded exactly if it is rolled, and only the reply to
a throw is for the whole channel. -/
theorem leaves_playForm {form : CommandForm}
    (read : CommandForm.ofPairs (Form.decode request.body) = .ok form) (source : σ)
    (readsClock : Bool) :
    Leaves app world request source { app.playForm world form source with readsClock } := by
  have course := app.game.course_play form.text source
  simp only [playForm, AuditLog.given_trailOf]
  cases played : app.game.play form.text source with
  | mk turn next =>
      rw [played] at course
      have sender : ∀ message : Message, message.visibility = .sender →
          ¬ (Response.json 200 message.toJson).TellsChannel := by
        intro message hidden tells
        rw [Response.tellsChannel_message_iff, hidden] at tells
        cases tells
      cases course with
      | help => exact .nothing ⟨rfl, rfl, sender _ rfl⟩
      | malformed => exact .nothing ⟨rfl, rfl, sender _ rfl⟩
      | outOfLimits => exact .nothing ⟨rfl, rfl, sender _ rfl⟩
      | rolled =>
          have whole (warnings : List AuditWarning) := @Leaves.record σ _ app world request source
            form _ _ warnings readsClock read (congrArg Prod.fst played)
          rw [played] at whole
          exact whole _

theorem leaves_command (app : App) (world : World) (request : Request) (source : σ) :
    Leaves app world request source (app.command world request source) := by
  rw [command]
  split
  case isTrue => exact .nothing ⟨rfl, rfl, Response.not_tellsChannel_bare _⟩
  case isFalse =>
    split
    case h_1 => exact .nothing ⟨rfl, rfl, Response.not_tellsChannel_of_status (by simp)⟩
    case h_2 =>
      rw [acceptCommand]
      split
      case isFalse => exact .nothing ⟨rfl, rfl, Response.not_tellsChannel_plain _ _⟩
      case isTrue =>
        split
        case h_1 form read => exact leaves_playForm read source true
        case h_2 => exact .nothing ⟨rfl, rfl, Response.not_tellsChannel_plain _ _⟩

/-- Every request leaves a record of a throw or nothing. -/
theorem leaves_handle (app : App) (world : World) (request : Request) (source : σ) :
    Leaves app world request source (app.handle world request source) := by
  rw [handle]
  split
  · exact .nothing ⟨rfl, rfl, Response.not_tellsChannel_plain _ _⟩
  split
  case h_2 => exact .nothing ⟨rfl, rfl, Response.not_tellsChannel_bare _⟩
  case h_1 place _ =>
    have page := silent_get app world request source place
    rw [route]
    split
    · exact .nothing page
    split
    · exact .nothing ⟨page.records_eq, page.source_eq, Response.not_tellsChannel_withoutBody⟩
    split
    · exact leaves_command app world request source
    · exact .nothing ⟨rfl, rfl, Response.not_tellsChannel_of_status (by simp)⟩

section Logs

variable (settings : Settings) (auditLog other : AuditLog)

/-- Both logs are given the record of the throw, and what they answer is dropped. -/
theorem playForm_of_log (world : World) (form : CommandForm) (source : σ) :
    (App.mk settings other).playForm world form source =
      withWarnings other ((App.mk settings auditLog).playForm world form source) := by
  simp only [playForm, withWarnings, AuditLog.given_trailOf]
  rfl

theorem command_of_log (world : World) (request : Request) (source : σ) :
    (App.mk settings other).command world request source =
      withWarnings other ((App.mk settings auditLog).command world request source) := by
  have checked : (App.mk settings other).checkSignature world request =
      (App.mk settings auditLog).checkSignature world request := rfl
  simp only [command, acceptCommand, checked, playForm_of_log settings auditLog other]
  split
  · rfl
  split
  · rfl
  split
  · split <;> rfl
  · rfl

theorem route_of_log (world : World) (request : Request) (source : σ) {place : Route}
    (elsewhere : place ≠ .health) :
    (App.mk settings other).route world request source place =
      withWarnings other ((App.mk settings auditLog).route world request source place) := by
  have page : (App.mk settings other).get world request source place =
      withWarnings other ((App.mk settings auditLog).get world request source place) := by
    cases place with
    | root => rfl
    | install => rfl
    | callback => exact callback_of_log settings auditLog other world request source
    | health => exact absurd rfl elsewhere
  simp only [route, page, command_of_log settings auditLog other]
  split_ifs <;> rfl

theorem handle_of_log (sent : World × Request) (source : σ) :
    (App.mk settings other).handle sent.1 sent.2 source =
      underLog other sent ((App.mk settings auditLog).handle sent.1 sent.2 source) := by
  obtain ⟨world, request⟩ := sent
  unfold underLog
  split
  case isTrue here =>
    have place : Route.ofPath? request.path = some .health := by rw [here]; rfl
    simp only [handle, place, route, get]
    split_ifs with tooMuch isGet isHead isCommand
    · rfl
    · rfl
    · rfl
    · exact isCommand.2.elim
    · rfl
  case isFalse elsewhere =>
    unfold handle
    split
    · rfl
    split
    case h_1 place found =>
      refine route_of_log settings auditLog other world request source ?_
      rintro rfl
      exact elsewhere (path_of_health found)
    case h_2 => rfl

/-- Over a whole run, two logs make a difference for the warnings and for the page of the
health only. -/
theorem handleAll_of_log (requests : List (World × Request)) (source : σ) :
    (App.mk settings other).handleAll requests source =
      List.zipWith (underLog other) requests
        ((App.mk settings auditLog).handleAll requests source) := by
  induction requests generalizing source with
  | nil => rfl
  | cons first rest induction =>
      simp only [handleAll_cons, List.zipWith_cons_cons,
        handle_of_log settings auditLog other first, source_underLog, induction]

end Logs

/-- A request warns of exactly those of its records that the log does not keep. -/
theorem mem_warnings_handle_iff (app : App) (world : World) (request : Request) (source : σ)
    {warning : AuditWarning} :
    warning ∈ (app.handle world request source).warnings ↔
      ∃ record ∈ (app.handle world request source).records, ∃ fault,
        app.auditLog.write record = .error fault ∧
          warning = ⟨fault, record.userId, app.auditLog.label⟩ := by
  -- A log in its own place is as good as any other.
  have warned := congrArg Effect.warnings
    (handle_of_log app.settings app.auditLog app.auditLog (world, request) source)
  rw [warnings_underLog] at warned
  simp only [warned, List.mem_filterMap, AuditLog.loss?_eq_some_iff]

theorem records_eq_nil_of_not_tellsChannel (app : App) (world : World) (request : Request)
    (source : σ) (quiet : ¬ (app.handle world request source).response.TellsChannel) :
    (app.handle world request source).records = [] := by
  have left := leaves_handle app world request source
  generalize app.handle world request source = effect at left quiet ⊢
  cases left with
  | record => exact absurd ⟨rfl, _, rfl, rfl⟩ quiet
  | nothing silent => exact silent.records_eq

/-- A request leaves a script behind the dice that it records. -/
theorem source_handle_rotate (app : App) (world : World) (request : Request)
    (values : List UInt32) (offset : Nat) :
    let effect := app.handle world request (Script.mk (values.rotate offset))
    effect.source = ⟨values.rotate (offset + diceRecorded [effect])⟩ := by
  intro effect
  have left := leaves_handle app world request (Script.mk (values.rotate offset))
  change Leaves app world request _ effect at left
  generalize effect = result at left ⊢
  cases left with
  | @record form roll outcome _ _ read rolled =>
      have played := (app.game.play_rotate form.text values offset).2
      rw [rolled] at played
      exact played
  | nothing silent =>
      rw [silent.source_eq, diceRecorded, List.flatMap_singleton, silent.records_eq]
      rfl

theorem sourceAfter_rotate (app : App) (requests : List (World × Request))
    (values : List UInt32) (offset : Nat) :
    app.sourceAfter requests (Script.mk (values.rotate offset)) =
      ⟨values.rotate (offset +
        diceRecorded (app.handleAll requests (Script.mk (values.rotate offset))))⟩ := by
  -- The offset is free: the first request moves the script for the rest.
  induction requests generalizing offset with
  | nil => rfl
  | cons first rest induction =>
      have next := source_handle_rotate app first.1 first.2 values offset
      rw [sourceAfter_cons, handleAll_cons, diceRecorded_cons]
      simp only [next]
      refine (induction _).trans ?_
      rw [Nat.add_assoc]

end App

def AuditRecord.roll (record : AuditRecord) : Roll :=
  ⟨record.count, record.sides, record.modifier, record.reason⟩

namespace App

/-- A record agrees with the request that asked for the throw, with the script from
the place on where its dice are drawn, and with the message that answers the request. -/
structure Documents (app : App) (request : Request) (values : List UInt32) (offset : Nat)
    (response : Response) (record : AuditRecord) : Prop where
  asked : ∃ form, CommandForm.ofPairs (Form.decode request.body) = .ok form ∧
    record.userId = form.userId ∧ record.teamId = form.teamId ∧
    ∃ outcome, outcome.rolls = record.rolls ∧
      (app.game.play form.text (Script.mk (values.rotate offset))).1 =
        .rolled record.roll outcome
  drawn : record.rolls = (List.range record.count.toNat).map fun die =>
    Script.replayed values 1 record.sides (offset + die)
  total_eq : record.total.toInt =
    (record.rolls.map UInt32.toNat).sum + record.modifier.toInt
  answered : ∃ message : Message, response = .json 200 message.toJson ∧
    message.visibility = .channel ∧
    message.attachment.text =
      "<@" ++ record.userId ++ ">" ++ " rolled *" ++ numeral record.total.toInt ++ "*"
  shown : response.HasHeadline
    ("<@" ++ record.userId ++ ">" ++ " rolled *" ++ numeral record.total.toInt ++ "*")

theorem documents_of_tellsChannel {app : App} (usable : app.settings.Usable) (world : World)
    (request : Request) (values : List UInt32) (offset : Nat) :
    let effect := app.handle world request (Script.mk (values.rotate offset))
    effect.response.TellsChannel → ∃ record, effect.records = [record] ∧
      Documents app request values offset effect.response record := by
  intro effect
  have left := leaves_handle app world request (Script.mk (values.rotate offset))
  change Leaves app world request _ effect at left
  generalize effect = result at left ⊢
  cases left with
  | nothing silent => exact fun tells => absurd tells silent.not_tellsChannel
  | @record form roll outcome _ _ read rolled =>
      intro _
      have shows := (Game.shows_of_rolled usable.maxDice_mul_maxSides_lt rolled).2.2
      refine ⟨_, rfl, ?_⟩
      constructor
      case asked => exact ⟨form, read, rfl, rfl, outcome, rfl, rolled⟩
      case drawn => exact (app.game.play_rotate form.text values offset).1 roll outcome rolled
      case total_eq => exact shows.grandTotal_eq.trans (by rw [shows.baseTotal_eq]; rfl)
      case answered => exact ⟨_, rfl, rfl, rfl⟩
      case shown => exact Response.hasHeadline_message _

/-- With settings that pass their check, a request gives the log one record if it is
answered with a success message, and none otherwise.  The record tells of the user and
the workspace in the form, of the roll that was played, of the dice that come next in
the script, after those that are recorded before, and of their sum with the modifier,
which is the number in the headline of the message.  The operator is warned of exactly
the records that the log does not keep.  Another log in the place of the first one is
given the same records.  Whatever it answers, if it fails every write or none, it changes
the responses by its label on the page of the health alone. -/
theorem audit_agrees_with_replies (settings : Settings) (accepted : settings.check = .ok ())
    (values : List UInt32) (requests : List (World × Request)) :
    (∀ (auditLog : AuditLog) (place : Nat) (world : World) (request : Request),
      requests[place]? = some (world, request) →
      let app := App.mk settings auditLog
      ∃ effect, (app.handleAll requests (Script.mk values))[place]? = some effect ∧
        (effect.response.TellsChannel → ∃ record, effect.records = [record] ∧
          app.Documents request values
            (diceRecorded (app.handleAll (requests.take place) (Script.mk values)))
            effect.response record) ∧
        (¬ effect.response.TellsChannel → effect.records = []) ∧
        ∀ warning, warning ∈ effect.warnings ↔ ∃ record ∈ effect.records, ∃ fault,
          auditLog.write record = .error fault ∧
            warning = ⟨fault, record.userId, auditLog.label⟩) ∧
    ∀ auditLog other : AuditLog,
      (App.mk settings other).handleAll requests (Script.mk values) =
        List.zipWith (underLog other) requests
          ((App.mk settings auditLog).handleAll requests (Script.mk values)) := by
  have usable := Settings.check_eq_ok_iff.mp accepted
  refine ⟨?_, fun auditLog other => handleAll_of_log settings auditLog other requests _⟩
  intro auditLog place world request here app
  have start : Script.mk (values.rotate 0) = Script.mk values :=
    congrArg Script.mk values.rotate_zero
  have before := sourceAfter_rotate app (requests.take place) values 0
  rw [start, Nat.zero_add] at before
  refine ⟨_, by rw [getElem?_handleAll, here, Option.map_some], ?_, ?_, fun warning => ?_⟩
  · rw [before]
    exact documents_of_tellsChannel usable world request values _
  · exact records_eq_nil_of_not_tellsChannel app world request _
  · exact mem_warnings_handle_iff app world request _

/-- A throw after a request for help, with the values of the script from the start.  If
the log fails, the operator is warned, and the responses are the same. -/
theorem audit_agrees_with_replies_after_help :
    let settings : Settings := { Settings.standard with mode := .development }
    let keeping : AuditLog := ⟨"keeping", fun _ => .ok ()⟩
    let failing : AuditLog := ⟨"failing", fun _ => .error (.writeFailed "no connection")⟩
    let world : World := ⟨1000, 0, fun _ => .unreachable⟩
    let asking (body : String) : Request :=
      ⟨"POST", ⟨['/'], none⟩, [("Content-Type", bytesOfString "application/x-www-form-urlencoded")],
        bytesOfString body⟩
    let help := asking "text=help&user_id=U2"
    let throwing := asking "text=2d8%2B5+stealth&user_id=U1&team_id=T1"
    let effects (auditLog : AuditLog) :=
      (App.mk settings auditLog).handleAll [(world, help), (world, throwing)] (Script.mk [4, 6, 1])
    let record : AuditRecord :=
      ⟨"U1", some "T1", 2, 8, 5, [4, 6], 15, some "stealth", ⟨1000, 0⟩⟩
    settings.check = .ok () ∧
      (∃ effect, (effects keeping)[1]? = some effect ∧
        effect.response.TellsChannel ∧ effect.records = [record] ∧ effect.warnings = [] ∧
        (App.mk settings keeping).Documents throwing [4, 6, 1] 0 effect.response record) ∧
      (effects failing).map Effect.response = (effects keeping).map Effect.response ∧
      (effects failing)[1]?.map Effect.warnings =
        some [⟨.writeFailed "no connection", "U1", "failing"⟩] := by
  intro settings keeping failing world asking help throwing effects record
  have accepted : settings.check = .ok () := rfl
  have recorded : (effects keeping)[1]?.map Effect.records = some [record] := by decide +kernel
  have before : diceRecorded ((App.mk settings keeping).handleAll [(world, help)]
      (Script.mk [4, 6, 1])) = 0 := by decide +kernel
  obtain ⟨agrees, sameUnder⟩ := audit_agrees_with_replies settings accepted [4, 6, 1]
    [(world, help), (world, throwing)]
  obtain ⟨effect, here, told, silent, warned⟩ := agrees keeping 1 world throwing rfl
  rw [here] at recorded
  have only : effect.records = [record] := Option.some.inj recorded
  have tells : effect.response.TellsChannel := by
    by_contra quiet
    rw [silent quiet] at only
    cases only
  have unwarned : effect.warnings = [] := by
    refine List.eq_nil_iff_forall_not_mem.mpr fun warning member => ?_
    obtain ⟨_, _, _, lost, _⟩ := (warned warning).mp member
    cases lost
  obtain ⟨found, same, documents⟩ := told tells
  cases List.singleton_inj.mp (same.symm.trans only)
  change Documents _ throwing [4, 6, 1] (diceRecorded ((App.mk settings keeping).handleAll
    [(world, help)] (Script.mk [4, 6, 1]))) _ _ at documents
  rw [before] at documents
  have responses : (effects failing).map Effect.response =
      (effects keeping).map Effect.response := by
    have elsewhere : (asking "").path ≠ "/health" := by decide
    have under : effects failing = List.zipWith (underLog failing)
        [(world, help), (world, throwing)] (effects keeping) := sameUnder keeping failing
    obtain ⟨first, second, both⟩ : ∃ first second, effects keeping = [first, second] :=
      ⟨_, _, rfl⟩
    rw [under, both]
    exact congrArg₂ (fun one other => [one, other]) (response_underLog failing elsewhere first)
      (response_underLog failing elsewhere second)
  exact ⟨accepted, ⟨effect, here, tells, only, unwarned, documents⟩, responses,
    by decide +kernel⟩

end App
end SlashDice
