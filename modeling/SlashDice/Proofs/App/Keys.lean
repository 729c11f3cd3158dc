import SlashDice.Proofs.App.Installation
import SlashDice.Proofs.Settings.Environment
import SlashDice.Proofs.Signature

/-!
# Keys of the service

Commands are signed with the signing secret, and installation states with the client
secret.  Settings that pass their check have a signing secret wherever signatures are
checked; but a secret that is there may be empty, and then everybody knows the key:
what anybody signs with the empty key is accepted.
-/

namespace SlashDice

/-- No secret that is needed with the settings is set to the empty text. -/
structure Settings.NoEmptySecret (settings : Settings) : Prop where
  signing : settings.mode ≠ .development → settings.signingSecret ≠ some ""
  installing : settings.clientId ≠ none → settings.clientSecret ≠ some ""

namespace App

variable {app : App}

/-- No key of the service is empty: neither the one that commands are signed with,
where signatures are checked, nor the one for states, where installations are. -/
structure HoldsKeys (app : App) : Prop where
  signing : app.verifier.mode.verifiesSignatures = true →
    ∃ secret, app.verifier.secret = some secret ∧ secret ≠ ""
  installing : ∀ registration, app.registration? = some registration →
    registration.clientSecret ≠ ""

theorem registration?_eq_some {registration : Registration}
    (registered : app.registration? = some registration) :
    app.settings.clientId = some registration.clientId ∧
      app.settings.clientSecret = some registration.clientSecret := by
  rw [registration?, Registration.ofSettings?] at registered
  split at registered
  case h_1 clientId clientSecret hasId hasSecret =>
    cases registered
    exact ⟨hasId, hasSecret⟩
  case h_2 => cases registered

/-- With usable settings, a key of the service is empty only if its secret is set to
the empty text. -/
theorem holdsKeys_iff_noEmptySecret (usable : app.settings.Usable) :
    app.HoldsKeys ↔ app.settings.NoEmptySecret := by
  constructor
  · intro holds
    refine ⟨fun verifies empty => ?_, fun hasId empty => ?_⟩
    · obtain ⟨secret, here, nonempty⟩ :=
        holds.signing (Signature.Verifier.verifiesSignatures_iff.mpr verifies)
      exact nonempty (Option.some.inj (here.symm.trans empty))
    · obtain ⟨clientId, hasId⟩ := Option.ne_none_iff_exists'.mp hasId
      obtain ⟨registration, registered, secret⟩ := registration?_of_credentials hasId empty
      exact holds.installing registration registered secret
  · intro noneEmpty
    refine ⟨fun verifies => ?_, fun registration registered empty => ?_⟩
    · obtain ⟨secret, here⟩ := Option.ne_none_iff_exists'.mp (usable.signed verifies)
      refine ⟨secret, here, ?_⟩
      rintro rfl
      exact noneEmpty.signing (Signature.Verifier.verifiesSignatures_iff.mp verifies) here
    · obtain ⟨hasId, hasSecret⟩ := registration?_eq_some registered
      rw [empty] at hasSecret
      exact noneEmpty.installing (hasId ▸ nofun) hasSecret

/-- With settings that pass their check, no key of the service is empty exactly if no
secret that it needs is set to the empty text; loaded settings have the empty secret
exactly where the variable is set to that text.  Where the signing secret is empty, a
command that is signed with the empty key is accepted while its time is in the window;
where the client secret is empty, so is a state of the last ten minutes. -/
theorem keys_held_unless_empty (app : App) (accepted : app.settings.check = .ok ()) :
    (app.HoldsKeys ↔ app.settings.NoEmptySecret) ∧
      (∀ bindings file, Environment.load bindings file = .ok app.settings →
        ∃ joined, Environment.withFile bindings file = .ok joined ∧
          (app.settings.signingSecret = some "" ↔
            Environment.find? joined "slack_signing_secret" = some (.text "")) ∧
          (app.settings.clientSecret = some "" ↔
            Environment.find? joined "slack_client_secret" = some (.text ""))) ∧
      (app.settings.signingSecret = some "" →
        ∀ (sent : String) (sentAt now : Int64) (body : List UInt8),
          Text.trim sent.toList = sent.toList →
          Text.Numeral.Spells sent.toList sentAt.toInt →
          (now.toInt - sentAt.toInt).natAbs ≤ app.settings.signatureTolerance.toNat →
            app.verifier.verify (some sent) (some (Signature.sign "" sent body)) body now =
              .ok ()) ∧
      (app.settings.clientSecret = some "" →
        ∀ registration, app.registration? = some registration →
          ∀ (issued later : World) (query : CallbackQuery),
            query.state = some (InstallState.issue "" issued.now issued.nonce) →
            (later.now.toInt - issued.now.toInt).natAbs ≤ 600 →
              checkState registration later query = .ok ()) := by
  refine ⟨holdsKeys_iff_noEmptySecret (Settings.check_eq_ok_iff.mp accepted), ?_, ?_, ?_⟩
  · intro bindings file loaded
    obtain ⟨-, ⟨joined, together, given⟩, -⟩ := Environment.load_eq_ok_iff.mp loaded
    exact ⟨joined, together, Environment.signingSecret_eq_some_iff given,
      Environment.clientSecret_eq_some_iff given⟩
  · intro empty sent sentAt now body trimmed told tolerated
    exact Signature.Verifier.verify_sign body empty trimmed told tolerated
  · intro empty registration registered issued later query comesBack young
    have hasSecret := (registration?_eq_some registered).2
    rw [empty] at hasSecret
    rw [Option.some.inj hasSecret] at comesBack
    rw [checkState_issue registration issued later query comesBack, if_pos young]

/-- A service for installations with an empty client secret takes the state that anybody
makes up. -/
theorem keys_held_unless_empty_forged_state :
    let secrets : Settings :=
      { Settings.standard with signingSecret := some "secret", clientSecret := some "" }
    let app : App := ⟨{ secrets with clientId := some "1.2" }, .disabled⟩
    let world : World := ⟨1700000000, 7, fun _ => .unreachable⟩
    app.settings.check = .ok () ∧ ¬ app.HoldsKeys ∧
      ∃ registration, app.registration? = some registration ∧
        checkState registration world
          { state := some (InstallState.issue "" world.now world.nonce) } = .ok () := by
  intro secrets app world
  have accepted : app.settings.check = .ok () := rfl
  obtain ⟨holds, _, _, forged⟩ := keys_held_unless_empty app accepted
  refine ⟨accepted, fun keys => (holds.mp keys).installing nofun rfl, _, rfl, ?_⟩
  exact forged rfl _ rfl world world _ rfl (by decide)

/-- A production service is started although the variable of its signing secret is set
to the empty text.  Its key is empty, and it accepts a command that is signed with the
empty key. -/
theorem loaded_signing_secret_is_empty :
    let app : App := ⟨{ Settings.standard with signingSecret := some "" }, .disabled⟩
    let body := bytesOfString "text=2d6"
    Environment.load [("SLACK_SIGNING_SECRET", "")] none = .ok app.settings ∧
      app.settings.check = .ok () ∧ app.settings.mode = .production ∧ ¬ app.HoldsKeys ∧
      app.verifier.verify (some "1700000000")
        (some (Signature.sign "" "1700000000" body)) body 1700000000 = .ok () := by
  intro app body
  refine ⟨?_, rfl, rfl, fun keys => ?_, ?_⟩
  · rfl
  · obtain ⟨secret, here, nonempty⟩ := keys.signing rfl
    exact nonempty (Option.some.inj here).symm
  · have told : Text.Numeral.Spells "1700000000".toList (1700000000 : Int64).toInt :=
      Text.Numeral.int64?_eq_some_iff.mp (by decide +kernel)
    refine Signature.Verifier.verify_sign body rfl (by decide +kernel) told ?_
    change ((1700000000 : Int64).toInt - (1700000000 : Int64).toInt).natAbs ≤ 300
    decide

end App
end SlashDice
