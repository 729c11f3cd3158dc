import SlashDice.App.Installation
import SlashDice.App.Router
import SlashDice.Proofs.Install.Registration
import SlashDice.Proofs.Install.State
import SlashDice.Proofs.Web.Target

/-!
# Installations and their callbacks

The state with which an installation starts comes back in a callback: the page of
approval is asked for it, no form changes it on the way, and it is accepted as long as
it is not too old.
-/

namespace SlashDice
namespace App

open Text Web

theorem registration?_of_credentials {app : App} {clientId clientSecret : String}
    (hasId : app.settings.clientId = some clientId)
    (hasSecret : app.settings.clientSecret = some clientSecret) :
    ∃ registration, app.registration? = some registration ∧
      registration.clientSecret = clientSecret :=
  ⟨_, by rw [registration?, Registration.ofSettings?, hasId, hasSecret], rfl⟩

theorem checkState_issue (registration : Registration) (issued : World) (later : World)
    (query : CallbackQuery) (comesBack : query.state = some (newState registration issued)) :
    checkState registration later query =
      if (later.now.toInt - issued.now.toInt).natAbs ≤ 600 then .ok ()
      else .error (.invalid "OAuth state has expired") := by
  rw [checkState, comesBack, newState, InstallState.check_issue]
  split
  case h_1 accepted =>
    split at accepted
    case isTrue young => rw [if_pos young]
    case isFalse => cases accepted
  case h_2 fault refused =>
    split at refused
    case isTrue => cases refused
    case isFalse old =>
      cases refused
      rw [if_neg old]
      rfl

theorem install_of_registration {app : App} {registration : Registration}
    (registered : app.registration? = some registration) (world : World) {σ : Type}
    (source : σ) :
    (app.install world source).response =
      { status := 302
        location := some (registration.approvalUrl (newState registration world)) } := by
  have legal : isLegalHeader (registration.approvalUrl (newState registration world)) = true :=
    isLegalHeader_approvalUrl _ _ _ _
  rw [install, startInstallation, requireRegistration, registered]
  simp only [Response.redirect_of_legal legal]

/-- The target of a callback with a plain state is the path and the form of the state. -/
theorem toList_callbackTarget {state : String}
    (plain : ∀ c ∈ state.toList, Form.isPlainChar c = true) :
    ("/oauth?state=" ++ state).toList =
      '/' :: ("oauth".toList ++ '?' :: Form.encode [("state", state)]) := by
  have letters : "state".toList.all Form.isPlainChar = true := by decide
  have name : Form.encodeText "state".toList = "state".toList :=
    Form.encodeText_of_plain (List.all_eq_true.mp letters)
  rw [Form.encode, List.map_singleton, List.intercalate_singleton, Form.encodePair, name,
    Form.encodeText_of_plain plain, String.toList_append]
  rfl

theorem ofText?_callbackTarget {state : String}
    (plain : ∀ c ∈ state.toList, Form.isPlainChar c = true)
    (short : state.toList.length + 13 ≤ Target.maxBytes) :
    Target.ofText? ("/oauth?state=" ++ state).toList =
      some ⟨'/' :: "oauth".toList, some (Form.encode [("state", state)])⟩ := by
  have before : "/oauth?state=".toList.all (fun c => c.toNat < 0x80) = true := by decide
  have ascii : ∀ c ∈ ("/oauth?state=" ++ state).toList, c.toNat < 0x80 := by
    intro c member
    rw [String.toList_append, List.mem_append] at member
    exact member.elim (fun here => of_decide_eq_true (List.all_eq_true.mp before c here))
      fun here => Form.ascii_of_isPlainChar (plain c here)
  have fits : (Utf8.encode ("/oauth?state=" ++ state).toList).length ≤ Target.maxBytes := by
    rw [Utf8.encode_ascii ascii, List.length_map, String.toList_append, List.length_append,
      Nat.add_comm]
    exact short
  rw [toList_callbackTarget plain] at fits ⊢
  exact Target.ofText?_of_written (by decide) (by decide) (by decide)
    (fun _ => Form.isWritten_of_mem_encode) fits

/-- A plain state that is put behind the path of the callback as it is comes back. -/
theorem callback_of_pasted {state : String}
    (plain : ∀ c ∈ state.toList, Form.isPlainChar c = true)
    (short : state.toList.length + 13 ≤ Target.maxBytes) :
    ∃ request, Request.ofParts? "GET" ("/oauth?state=" ++ state) [] [] = some request ∧
      Route.ofPath? request.path = some .callback ∧
      CallbackQuery.ofPairs (Form.decode request.query) = .ok { state := some state } := by
  have method : isToken "GET" = true := by decide
  have place : Route.ofPath? (String.ofList ('/' :: "oauth".toList)) = some .callback := by
    decide +kernel
  refine ⟨⟨"GET", ⟨'/' :: "oauth".toList, some (Form.encode [("state", state)])⟩, [], []⟩,
    ?_, place, ?_⟩
  · rw [Request.ofParts?, ofText?_callbackTarget plain short]
    simp only [method, List.all_nil, Bool.and_true, Option.bind_eq_bind, Option.bind_some,
      if_true]
  · rw [Request.query, Option.getD_some, Form.decode_encode]
    rfl

/-- With both credentials set, an installation starts with a redirect to the page of
approval.  The query of its address has one parameter for the state, and the state that
is read from it is the one that was issued.  No form changes that state, so it comes
back in a callback as it was put there; and it is accepted exactly if it is issued no
more than ten minutes before or after the time of the callback, and has expired
otherwise. -/
theorem install_and_callback_agree {σ : Type} (app : App) (clientId clientSecret : String)
    (hasId : app.settings.clientId = some clientId)
    (hasSecret : app.settings.clientSecret = some clientSecret) (world : World) (source : σ) :
    let state := InstallState.issue clientSecret world.now world.nonce
    (∃ url query,
      (app.install world source).response = { status := 302, location := some url } ∧
        Address.Tail.ofText url.toList = ⟨approvalPage.toList, some query, none⟩ ∧
        (Form.decode (Utf8.encode query)).filter (fun pair => pair.1 == "state") =
          [("state", state)]) ∧
      Form.encodeText state.toList = state.toList ∧
      (∃ request, Request.ofParts? "GET" ("/oauth?state=" ++ state) [] [] = some request ∧
        Route.ofPath? request.path = some .callback ∧
        CallbackQuery.ofPairs (Form.decode request.query) = .ok { state := some state }) ∧
      ∃ registration, app.registration? = some registration ∧
        ∀ (later : World) (query : CallbackQuery), query.state = some state →
          (checkState registration later query = .ok () ↔
            (later.now.toInt - world.now.toInt).natAbs ≤ 600) ∧
          (checkState registration later query = .error (.invalid "OAuth state has expired") ↔
            600 < (later.now.toInt - world.now.toInt).natAbs) := by
  intro state
  obtain ⟨registration, registered, rfl⟩ := registration?_of_credentials hasId hasSecret
  have plain := InstallState.isPlainChar_of_mem_issue registration.clientSecret world.now
    world.nonce
  have short := InstallState.length_issue_le registration.clientSecret world.now world.nonce
  refine ⟨?_, Form.encodeText_of_plain plain, callback_of_pasted plain ?_, registration,
    registered, ?_⟩
  · refine ⟨_, _, install_of_registration registered world source, tail_approvalUrl _ _ _ _, ?_⟩
    rw [Form.decode_encode, filter_state_approvalParameters]
    rfl
  · exact Nat.le_trans (Nat.add_le_add_right short 13) (by decide)
  · intro later query comesBack
    rw [checkState_issue registration world later query comesBack]
    split
    case isTrue young =>
      exact ⟨iff_of_true rfl young, iff_of_false nofun (Nat.not_lt.mpr young)⟩
    case isFalse old =>
      exact ⟨iff_of_false nofun old, iff_of_true rfl (Nat.not_le.mp old)⟩

/-- A state that is issued at the first second has expired at the last one. -/
theorem install_and_callback_agree_farthest :
    let app : App :=
      ⟨{ Settings.standard with clientId := some "1.2", clientSecret := some "secret" },
        .disabled⟩
    let first : World := ⟨Int64.minValue, 0, fun _ => .unreachable⟩
    let last : World := ⟨Int64.maxValue, 0, fun _ => .unreachable⟩
    app.settings.clientId = some "1.2" ∧ app.settings.clientSecret = some "secret" ∧
      600 < (last.now.toInt - first.now.toInt).natAbs ∧
      ∃ registration, app.registration? = some registration ∧
        checkState registration last
          { state := some (InstallState.issue "secret" first.now first.nonce) } =
            .error (.invalid "OAuth state has expired") := by
  intro app first last
  have far : 600 < (last.now.toInt - first.now.toInt).natAbs := by decide
  obtain ⟨_, _, _, registration, registered, agrees⟩ :=
    install_and_callback_agree app "1.2" "secret" rfl rfl first ()
  exact ⟨rfl, rfl, far, registration, registered, (agrees last _ rfl).2.mpr far⟩

end App
end SlashDice
