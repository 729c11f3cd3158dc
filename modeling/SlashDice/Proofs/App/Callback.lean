import SlashDice.Proofs.App.Requests
import SlashDice.Proofs.Install.State
import SlashDice.Proofs.Install.WebApi
import SlashDice.Proofs.OrderedChecks
import SlashDice.Random.Script

/-!
# The order of a callback

A callback is checked in four steps, and nobody is called before the last of them has
passed.  Then the code is exchanged, and only a token from there leads to the second
call, whose answer decides what is shown at the end.
-/

namespace SlashDice
namespace App

open Text Web WebApi

/-- What has to hold of a callback at some time, in order, with the statuses of the
responses that tell of a failure. -/
def callbackChecks (app : App) (query : CallbackQuery) (now : Int64) : List (Check Nat) :=
  [⟨502, query.error = none⟩,
    ⟨400, ∃ code, query.code = some code ∧ code ≠ ""⟩,
    ⟨500, ∃ registration, app.registration? = some registration⟩,
    ⟨400, ∃ registration, app.registration? = some registration ∧
      InstallState.check registration.clientSecret query.state now = .ok ()⟩]

/-- What is known of a callback that is in order: its code, and the registration. -/
def clearCallback (app : App) (query : CallbackQuery) (world : World) :
    Except Failure (String × Registration) :=
  match app.admitCallback query with
  | .error failure => .error failure
  | .ok (code, registration) =>
    match checkState registration world query with
    | .error failure => .error failure
    | .ok () => .ok (code, registration)

/-- A callback is cleared exactly if all its checks hold, and otherwise the first that
does not decides the status. -/
theorem clearCallback_decides (app : App) (query : CallbackQuery) (world : World) :
    Check.Decides (app.callbackChecks query world.now)
      ((app.clearCallback query world).mapError Failure.status) := by
  unfold callbackChecks
  cases failed : query.error with
  | some error =>
      have refused : app.clearCallback query world =
          .error (.external ("Slack OAuth error: " ++ error)) := by
        simp only [clearCallback, admitCallback, approvedCode, failed]
        rfl
      rw [refused]
      exact Check.decides_cons_of_not_holds nofun
  | none =>
  -- From here on the earlier checks hold, and each step of the clearance is the next one.
  refine Check.decides_cons_of_holds rfl ?_
  by_cases approved : ∃ code, query.code = some code ∧ code ≠ ""
  case neg =>
    have refused : app.clearCallback query world =
        .error (.invalid "Missing 'code' parameter from Slack OAuth callback") := by
      cases given : query.code with
      | none =>
          simp only [clearCallback, admitCallback, approvedCode, failed, given]
          rfl
      | some code =>
          have empty : code = "" := Classical.not_not.mp fun ne => approved ⟨code, given, ne⟩
          simp only [clearCallback, admitCallback, approvedCode, failed, given, empty, if_true]
          rfl
    rw [refused]
    exact Check.decides_cons_of_not_holds approved
  case pos =>
  obtain ⟨code, given, nonempty⟩ := approved
  refine Check.decides_cons_of_holds ⟨code, given, nonempty⟩ ?_
  cases registered : app.registration? with
  | none =>
      have refused : app.clearCallback query world = .error (.misconfigured
          "SLACK_CLIENT_ID and SLACK_CLIENT_SECRET must be set for installation") := by
        simp only [clearCallback, admitCallback, approvedCode, failed, given, nonempty, if_false,
          requireRegistration, registered]
        rfl
      rw [refused]
      exact Check.decides_cons_of_not_holds nofun
  | some registration =>
      refine Check.decides_cons_of_holds ⟨registration, rfl⟩ ?_
      have admitted : app.admitCallback query = .ok (code, registration) := by
        simp only [admitCallback, approvedCode, failed, given, nonempty, if_false,
          requireRegistration, registered]
        rfl
      simp only [clearCallback, admitted, checkState]
      cases checked : InstallState.check registration.clientSecret query.state world.now with
      | error fault => exact Check.decides_cons_of_not_holds (by simp [checked])
      | ok =>
          exact Check.decides_cons_of_holds ⟨registration, rfl, checked⟩ (Check.decides_nil _)

section Course

variable {app : App} {query : CallbackQuery} {world : World} {request : Request} {σ : Type}
  {source : σ}

/-- A callback that is not in order is refused without a call; the response to another
tells what came of the calls. -/
theorem callback_eq (read : CallbackQuery.ofPairs (Form.decode request.query) = .ok query) :
    ∃ readsClock, app.callback world request source =
      match app.clearCallback query world with
      | .error failure => { response := failure.response, readsClock, source }
      | .ok (code, registration) =>
        { response :=
            installationResponse (Workspace.install world.transport registration code).result
          calls := (Workspace.install world.transport registration code).calls
          readsClock
          source } := by
  simp only [callback, read, clearCallback]
  cases app.admitCallback query with
  | error failure => exact ⟨false, rfl⟩
  | ok both =>
      obtain ⟨code, registration⟩ := both
      simp only [completeInstallation]
      refine ⟨true, ?_⟩
      cases checkState registration world query with
      | error failure => rfl
      | ok => rfl

theorem callback_of_refused (read : CallbackQuery.ofPairs (Form.decode request.query) = .ok query)
    {failure : Failure} (refused : app.clearCallback query world = .error failure) :
    (app.callback world request source).response = failure.response ∧
      (app.callback world request source).calls = [] := by
  obtain ⟨readsClock, course⟩ := callback_eq read
  rw [course, refused]
  exact ⟨rfl, rfl⟩

theorem callback_of_clear (read : CallbackQuery.ofPairs (Form.decode request.query) = .ok query)
    {code : String} {registration : Registration}
    (clear : app.clearCallback query world = .ok (code, registration)) :
    (app.callback world request source).response =
        installationResponse (Workspace.install world.transport registration code).result ∧
      (app.callback world request source).calls =
        (Workspace.install world.transport registration code).calls := by
  obtain ⟨readsClock, course⟩ := callback_eq read
  rw [course, clear]
  exact ⟨rfl, rfl⟩

theorem facts_of_clear {code : String} {registration : Registration}
    (clear : app.clearCallback query world = .ok (code, registration)) :
    query.code = some code ∧ app.registration? = some registration := by
  have holds : Check.AllHold (app.callbackChecks query world.now) :=
    (clearCallback_decides app query world).ok_iff.mp ⟨_, by rw [clear]; rfl⟩
  simp only [callbackChecks, Check.allHold_cons] at holds
  obtain ⟨noError, ⟨given, here, nonempty⟩, ⟨found, registered⟩, -⟩ := holds
  simp only [clearCallback, admitCallback, approvedCode, noError, here, nonempty,
    requireRegistration, registered, if_false] at clear
  change (match checkState found world query with
    | .error failure => .error failure
    | .ok () => .ok (given, found)) = Except.ok (code, registration) at clear
  split at clear
  · cases clear
  · cases clear
    exact ⟨here, registered⟩

end Course

/-- How an installation goes on behind the checks, for every way that its calls may be
answered: the exchange comes first; without a token the response tells of a failure and
nothing else is called; with one the second method is called; and its answer decides. -/
structure CallsInOrder {σ : Type} (exchange : Call) (identify : String → Call)
    (effect : Transport → Effect σ) : Prop where
  exchange_first : ∀ transport, ∃ later, (effect transport).calls = exchange :: later
  of_no_token : ∀ transport,
    (¬ ∃ exchanged token, (transport exchange).Grants exchanged token) →
      (effect transport).response.status = 502 ∧ (effect transport).calls = [exchange] ∧
        ∀ other : Transport, other exchange = transport exchange →
          (effect other).response = (effect transport).response
  identify_second : ∀ transport exchanged token,
    (transport exchange).Grants exchanged token →
      (∀ c ∈ token.toList, isVisibleAscii c = true) →
        (effect transport).calls = [exchange, identify token]
  of_no_identity : ∀ transport exchanged token,
    (transport exchange).Grants exchanged token →
      (∀ c ∈ token.toList, isVisibleAscii c = true) →
        (¬ ∃ identity, (transport (identify token)).Identifies identity) →
          (effect transport).response.status = 502
  of_identity : ∀ transport exchanged token identity,
    (transport exchange).Grants exchanged token →
      (∀ c ∈ token.toList, isVisibleAscii c = true) →
        (transport (identify token)).Identifies identity →
          (∀ place, identity.url = some place → (∀ c ∈ place.toList, isVisibleAscii c = true) →
            (effect transport).response = { status := 302, location := some place }) ∧
          (identity.url = none →
            (effect transport).response =
              .html (Workspace.ofAnswers exchanged identity).page)

theorem callsInOrder_of_clear {σ : Type} {app : App} {query : CallbackQuery}
    {request : Request} (read : CallbackQuery.ofPairs (Form.decode request.query) = .ok query)
    {code : String} {registration : Registration} {now : Int64} {nonce : UInt64}
    (clear : ∀ transport, app.clearCallback query ⟨now, nonce, transport⟩ =
      .ok (code, registration))
    {url : Step → String} (addressed : Addressed registration url) (source : σ) :
    CallsInOrder (exchangeCall registration (url .exchange) code) (identifyCall (url .identify))
      fun transport => app.callback ⟨now, nonce, transport⟩ request source := by
  have course (transport : Transport) :
      (app.callback ⟨now, nonce, transport⟩ request source).response =
          installationResponse (Workspace.install transport registration code).result ∧
        (app.callback ⟨now, nonce, transport⟩ request source).calls =
          (Workspace.install transport registration code).calls :=
    callback_of_clear read (clear transport)
  constructor
  case exchange_first =>
    intro transport
    rw [(course transport).2]
    exact calls_install addressed
  case of_no_token =>
    intro transport noToken
    obtain ⟨fault, same⟩ := install_of_no_token addressed noToken
    refine ⟨?_, ?_, fun other agrees => ?_⟩
    · rw [(course transport).1, same transport rfl]
      rfl
    · rw [(course transport).2, same transport rfl]
    · rw [(course transport).1, (course other).1, same transport rfl, same other agrees]
  case identify_second =>
    intro transport exchanged token grants visible
    rw [(course transport).2, install_of_token addressed grants visible]
  case of_no_identity =>
    intro transport exchanged token grants visible noIdentity
    rw [(course transport).1, install_of_token addressed grants visible]
    cases asked : (identify transport registration token).result with
    | error fault => rfl
    | ok identity =>
        exact absurd ⟨identity, (result_identify_eq_ok_iff addressed visible).mp asked⟩ noIdentity
  case of_identity =>
    intro transport exchanged token identity grants visible identifies
    have asked := (result_identify_eq_ok_iff addressed visible).mpr identifies
    rw [(course transport).1, install_of_token addressed grants visible]
    simp only [asked, Except.map, installationResponse, installed]
    refine ⟨fun place here shown => ?_, fun missing => ?_⟩
    · have named : (Workspace.ofAnswers exchanged identity).url = some place := here
      rw [named]
      exact Response.redirect_of_legal (isLegalHeader_of_visible shown)
    · have unnamed : (Workspace.ofAnswers exchanged identity).url = none := missing
      rw [unnamed]

/-- A callback is answered by the first check that fails, with its status, whatever
would come back of calls, and none is made.  If all of them hold, the calls of the
installation follow in their order. -/
theorem callback_calls_after_checks {σ : Type} [Randomness σ] (app : App) (url : Step → String)
    (usable : ∀ registration, app.registration? = some registration →
      Addressed registration url)
    (request : Request) (quiet : announcesTooMuch request = false)
    (isGet : request.method = "GET") (atCallback : Route.ofPath? request.path = some .callback)
    (query : CallbackQuery) (read : CallbackQuery.ofPairs (Form.decode request.query) = .ok query)
    (now : Int64) (nonce : UInt64) (source : σ) :
    let effect (transport : Transport) := app.handle ⟨now, nonce, transport⟩ request source
    (∀ status, Check.FirstFailure (app.callbackChecks query now) status →
      ∃ response : Response, response.status = status ∧ ∀ transport,
        (effect transport).response = response ∧ (effect transport).calls = []) ∧
    (Check.AllHold (app.callbackChecks query now) →
      ∃ registration code, app.registration? = some registration ∧ query.code = some code ∧
        CallsInOrder (exchangeCall registration (url .exchange) code)
          (identifyCall (url .identify)) effect) := by
  intro effect
  have handled : effect = fun transport => app.callback ⟨now, nonce, transport⟩ request source :=
    funext fun transport => handle_of_get quiet isGet atCallback ⟨now, nonce, transport⟩ source
  rw [handled]
  -- The world is asked for the time only, so all ways to answer calls are cleared alike.
  have clearance := clearCallback_decides app query ⟨now, nonce, fun _ => .unreachable⟩
  refine ⟨fun status failure => ?_, fun holds => ?_⟩
  · have refused := (clearance.error_iff status).mpr failure
    cases cleared : app.clearCallback query ⟨now, nonce, fun _ => .unreachable⟩ with
    | error failure =>
        rw [cleared] at refused
        exact ⟨failure.response, Except.error.inj refused, fun transport =>
          callback_of_refused read cleared⟩
    | ok both =>
        rw [cleared] at refused
        cases refused
  · obtain ⟨both, admitted⟩ := clearance.ok_iff.mpr holds
    cases cleared : app.clearCallback query ⟨now, nonce, fun _ => .unreachable⟩ with
    | error failure =>
        rw [cleared] at admitted
        cases admitted
    | ok both =>
        obtain ⟨code, registration⟩ := both
        obtain ⟨given, registered⟩ := facts_of_clear cleared
        exact ⟨registration, code, registered, given, callsInOrder_of_clear read
          (fun transport => cleared) (usable registration registered) source⟩

theorem apiBaseUrl_of_registration? {app : App} {registration : Registration}
    (registered : app.registration? = some registration) :
    registration.apiBaseUrl = Registration.trimSlashes app.settings.apiBaseUrl := by
  unfold registration? Registration.ofSettings? at registered
  split at registered
  · rw [← Option.some.inj registered]
  · cases registered

/-- A base that is read without the names of hosts. -/
theorem addressed_of_local {app : App} (base : app.settings.apiBaseUrl = "http://[::1]") :
    ∀ registration, app.registration? = some registration →
      Addressed registration fun step => "http://[::1]" ++ step.path := by
  intro registration registered step
  have trimmed : registration.apiBaseUrl = "http://[::1]" := by
    rw [apiBaseUrl_of_registration? registered, base]
    decide +kernel
  have read : (address { clientId := "", clientSecret := "", apiBaseUrl := "http://[::1]" }
      step).toOption = some ("http://[::1]" ++ step.path) := by
    cases step <;> decide +kernel
  have same : address registration step =
      address { clientId := "", clientSecret := "", apiBaseUrl := "http://[::1]" } step := by
    simp only [address, trimmed]
  refine same.trans ?_
  cases found : address { clientId := "", clientSecret := "", apiBaseUrl := "http://[::1]" }
      step with
  | error fault =>
      rw [found] at read
      cases read
  | ok url =>
      rw [found] at read
      exact congrArg Except.ok (Option.some.inj read)

theorem ofPath?_oauth : Route.ofPath? (String.ofList "/oauth".toList) = some .callback := by
  decide +kernel

/-- A callback that announces a long body is turned away before it is checked. -/
theorem callback_turned_away_unchecked :
    let app : App :=
      ⟨{ Settings.standard with
          mode := .development, clientId := some "1.2", clientSecret := some "secret",
          apiBaseUrl := "http://[::1]" }, .disabled⟩
    let request : Request :=
      ⟨"GET", ⟨"/oauth".toList, some "error=access_denied".toList⟩,
        [("Content-Length", bytesOfString "65537")], []⟩
    (∀ registration, app.registration? = some registration →
      Addressed registration fun step => "http://[::1]" ++ step.path) ∧
      request.method = "GET" ∧ Route.ofPath? request.path = some .callback ∧
      ∃ query, CallbackQuery.ofPairs (Form.decode request.query) = .ok query ∧
        Check.FirstFailure (app.callbackChecks query 1700000000) 502 ∧
        ∀ transport, (app.handle ⟨1700000000, 0, transport⟩ request
          (Script.mk [])).response.status = 413 := by
  intro app request
  have read : CallbackQuery.ofPairs (Form.decode request.query) =
      .ok { error := some "access_denied" } := by
    have pairs : Form.decode request.query = [("error", "access_denied")] := by decide +kernel
    rw [pairs]
    rfl
  have announced : announcesTooMuch request = true := by decide +kernel
  refine ⟨addressed_of_local rfl, rfl, ofPath?_oauth, _, read, ?_, fun transport => ?_⟩
  · exact Check.firstFailure_cons.mpr (.inl ⟨nofun, rfl⟩)
  · rw [handle, if_pos announced]
    rfl

/-- The callback of an installation that started at the same second leads to the
workspace that the second method names.  A member that is skipped need not be UTF-8. -/
theorem callback_calls_after_checks_installed :
    let app : App :=
      ⟨{ Settings.standard with
          clientId := some "1.2", clientSecret := some "secret", apiBaseUrl := "http://[::1]" },
        .disabled⟩
    let state := InstallState.issue "secret" 1000 0
    let request : Request :=
      ⟨"GET", ⟨"/oauth".toList, some (Form.encode [("code", "abc"), ("state", state)])⟩, [], []⟩
    let effect (transport : Transport) :=
      app.handle ⟨1000, 0, transport⟩ request (Script.mk [])
    let answered (body : List UInt8) : Reply :=
      .answered 200 body (String.ofList (Utf8.decode body))
    let transport : Transport := fun call =>
      match call.step with
      | .exchange => answered
        (bytesOfString "\x7b\"ok\":true,\"access_token\":\"t\",\"note\":\"" ++
          0xFF :: bytesOfString "\"\x7d")
      | .identify => answered
        (bytesOfString "\x7b\"ok\":true,\"url\":\"https://a.b/\"\x7d")
    announcesTooMuch request = false ∧ request.method = "GET" ∧
      Route.ofPath? request.path = some .callback ∧
      CallbackQuery.ofPairs (Form.decode request.query) =
        .ok { code := some "abc", state := some state } ∧
      (∀ registration, app.registration? = some registration →
        Addressed registration fun step => "http://[::1]" ++ step.path) ∧
      (effect transport).response = { status := 302, location := some "https://a.b/" } := by
  intro app state request effect answered transport
  have quiet : announcesTooMuch request = false := rfl
  have read : CallbackQuery.ofPairs (Form.decode request.query) =
      .ok { code := some "abc", state := some state } := by
    change CallbackQuery.ofPairs (Form.decode (Utf8.encode (Form.encode _))) = _
    rw [Form.decode_encode]
    rfl
  have holds : Check.AllHold (app.callbackChecks { code := some "abc", state := some state }
      1000) := by
    have fresh : InstallState.check "secret" (some state) 1000 = .ok () :=
      (InstallState.check_issue "secret" 1000 1000 0).trans (if_pos (by decide))
    simp only [callbackChecks, Check.allHold_cons]
    exact ⟨trivial, ⟨"abc", rfl, by decide⟩, ⟨_, rfl⟩, ⟨_, rfl, fresh⟩, List.forall_mem_nil _⟩
  have granted (registration : Registration) (url code : String) :
      (transport (exchangeCall registration url code)).Grants ⟨true, none, some "t", none, none⟩
        "t" :=
    ⟨⟨200, _, _, rfl, rfl, by decide +kernel⟩, rfl, rfl⟩
  have identified (url : String) : (transport (identifyCall url "t")).Identifies
      ⟨true, none, some "https://a.b/", none, none⟩ :=
    ⟨⟨200, _, _, rfl, rfl, by decide +kernel⟩, rfl⟩
  have course : ∃ registration code, app.registration? = some registration ∧
      some "abc" = some code ∧
        CallsInOrder (exchangeCall registration ("http://[::1]" ++ Step.exchange.path) code)
          (identifyCall ("http://[::1]" ++ Step.identify.path)) effect :=
    (callback_calls_after_checks app _ (addressed_of_local rfl) request quiet rfl ofPath?_oauth
      _ read 1000 0 (Script.mk [])).2 holds
  obtain ⟨registration, code, -, -, inOrder⟩ := course
  have tokenShown : "t".toList.all isVisibleAscii = true := by decide
  have placeShown : "https://a.b/".toList.all isVisibleAscii = true := by decide
  have leads := inOrder.of_identity transport _ "t" _
    (granted registration ("http://[::1]" ++ Step.exchange.path) code)
    (List.all_eq_true.mp tokenShown) (identified ("http://[::1]" ++ Step.identify.path))
  exact ⟨quiet, rfl, ofPath?_oauth, read, addressed_of_local rfl,
    leads.1 _ rfl (List.all_eq_true.mp placeShown)⟩

end App
end SlashDice
