import SlashDice.Proofs.App.Requests
import SlashDice.Proofs.Signature
import SlashDice.Proofs.Web.FormFields
import SlashDice.Random.Script
import SlashDice.Random.Traced

/-!
# How long a command may be

A command is measured before anything else is looked at: one longer than the limit is
turned away, and its signature and its form do not matter.  Up to the limit, and at the
limit itself, the length does not matter: the signature and the form decide.  A request
that announces a longer body is turned away wherever it is sent.
-/

namespace SlashDice

open Web

/-- A body of separators alone is a form without pairs. -/
theorem Web.Form.decode_replicate_separator (length : Nat) :
    Form.decode (List.replicate length 0x26) = [] := by
  have empty : ∀ piece ∈ Text.pieces 0x26 (List.replicate length (0x26 : UInt8)), piece = [] := by
    induction length with
    | zero => exact fun piece member => List.mem_singleton.mp member
    | succ length induction =>
        rw [List.replicate_succ, Text.pieces, if_pos (beq_self_eq_true _)]
        exact List.forall_mem_cons.mpr ⟨rfl, induction⟩
  rw [Form.decode, List.map_eq_nil_iff, List.filter_eq_nil_iff]
  intro piece member
  simp [empty piece member]

theorem CommandForm.twice_of_ofPairs_eq_error {pairs : List (String × String)} {field : String}
    (refused : ofPairs pairs = .error field) :
    field ∈ fieldNames ∧ 1 < Form.timesGiven pairs field := by
  unfold ofPairs at refused
  split at refused
  case h_1 repeated found =>
    cases refused
    exact Form.twice_of_firstRepeated?_eq_some found
  case h_2 => cases refused

theorem CommandForm.once_of_ofPairs_eq_ok {pairs : List (String × String)} {form : CommandForm}
    (read : ofPairs pairs = .ok form) : ∀ known ∈ fieldNames, Form.timesGiven pairs known ≤ 1 := by
  unfold ofPairs at read
  split at read
  case h_1 => cases read
  case h_2 none => exact Form.firstRepeated?_eq_none_iff.mp none

namespace App

variable {σ : Type} [Randomness σ] {app : App} {world : World} {request : Request}

/-- What may be done about a command that is judged: its signature is looked at first, then
the type of its body, and then whether its form gives a field twice.  How long it is does
not matter. -/
inductive Judged (app : App) (world : World) (request : Request) (source : σ) : Effect σ → Prop
  | unsigned : app.checkSignature world request ≠ .ok () →
      Judged app world request source
        { response := rejection app.settings.mode, readsClock := true, source }
  | otherType : app.checkSignature world request = .ok () → isForm request = false →
      Judged app world request source
        { response := .plain 415
            "Form requests must have `Content-Type: application/x-www-form-urlencoded`"
          readsClock := true
          source }
  | repeated {field : String} : app.checkSignature world request = .ok () →
      isForm request = true →
      field ∈ CommandForm.fieldNames → 1 < Form.timesGiven (Form.decode request.body) field →
      CommandForm.ofPairs (Form.decode request.body) = .error field →
      Judged app world request source
        { response := .plain 422
            ("Failed to deserialize form body: duplicate field `" ++ field ++ "`")
          readsClock := true
          source }
  | played {form : CommandForm} : app.checkSignature world request = .ok () →
      isForm request = true →
      (∀ known ∈ CommandForm.fieldNames, Form.timesGiven (Form.decode request.body) known ≤ 1) →
      CommandForm.ofPairs (Form.decode request.body) = .ok form →
      Judged app world request source
        { app.playForm world form source with readsClock := true }

theorem Judged.status_ne {source : σ} {effect : Effect σ}
    (judged : Judged app world request source effect) : effect.response.status ≠ 413 := by
  cases judged with
  | unsigned => simp
  | otherType => simp
  | repeated => simp
  | played => simp

theorem judged_of_fits (sends : SendsUnmeasured request) (fits : request.body.length ≤ 65536)
    (source : σ) : Judged app world request source (app.handle world request source) := by
  by_cases signed : app.checkSignature world request = .ok ()
  · rw [handle_of_signed sends fits signed, acceptCommand]
    cases typed : isForm request with
    | false => exact .otherType signed typed
    | true =>
        cases read : CommandForm.ofPairs (Form.decode request.body) with
        | error field =>
            obtain ⟨known, twice⟩ := CommandForm.twice_of_ofPairs_eq_error read
            exact .repeated signed typed known twice read
        | ok form => exact .played signed typed (CommandForm.once_of_ofPairs_eq_ok read) read
  · rw [handle_of_unsigned sends fits signed]
    exact .unsigned signed

/-- Two commands of which the signatures are both in order or both not, and which give the
same pairs if they are forms. -/
structure DecidedAlike (app : App) (world : World) (request : Request) (otherWorld : World)
    (other : Request) : Prop where
  signed_iff : app.checkSignature otherWorld other = .ok () ↔
    app.checkSignature world request = .ok ()
  isForm_eq : isForm other = isForm request
  pairs_eq : Form.decode other.body = Form.decode request.body

theorem playForm_congr {otherWorld : World} (sameTime : otherWorld.now = world.now)
    (form : CommandForm) (source : σ) :
    app.playForm otherWorld form source = app.playForm world form source := by
  rw [playForm, playForm, sameTime]

/-- Of two commands within the limit that are decided alike, one is answered like the other,
and recorded like the other if they come at the same time. -/
theorem handle_of_decidedAlike {otherWorld : World} {other : Request}
    (sends : SendsUnmeasured request) (fits : request.body.length ≤ 65536)
    (otherSends : SendsUnmeasured other) (otherFits : other.body.length ≤ 65536)
    (alike : app.DecidedAlike world request otherWorld other) (source : σ) :
    (app.handle otherWorld other source).response = (app.handle world request source).response ∧
      (app.handle otherWorld other source).source = (app.handle world request source).source ∧
      (otherWorld.now = world.now →
        app.handle otherWorld other source = app.handle world request source) := by
  by_cases signed : app.checkSignature world request = .ok ()
  · rw [handle_of_signed sends fits signed,
      handle_of_signed otherSends otherFits (alike.signed_iff.mpr signed)]
    simp only [acceptCommand, alike.isForm_eq, alike.pairs_eq]
    split
    · split
      · exact ⟨rfl, rfl, fun sameTime => by rw [playForm_congr sameTime]⟩
      · exact ⟨rfl, rfl, fun _ => rfl⟩
    · exact ⟨rfl, rfl, fun _ => rfl⟩
  · rw [handle_of_unsigned sends fits signed,
      handle_of_unsigned otherSends otherFits (mt alike.signed_iff.mp signed)]
    exact ⟨rfl, rfl, fun _ => rfl⟩

theorem handle_of_announced {length : Nat} (announced : request.contentLength? = some length)
    (tooMuch : 65536 < length) (source : σ) :
    app.handle world request source =
      { response := .plain 413 "length limit exceeded", source } := by
  have loud : announcesTooMuch request = true := by
    rw [announcesTooMuch, announced]
    exact decide_eq_true tooMuch
  rw [handle, if_pos loud]

/-- A command that announces no length is answered with the status 413 exactly if its body
is longer than 65536 bytes, whatever its headers and its body are.  Then it is not recorded,
the clock is not read, and the source of numbers is asked for nothing.  Otherwise the
signature and the form decide, also of a body of 65536 bytes: another command within the
limit that is decided alike is answered alike.  A request that announces more is answered
with the status 413 on every path and with every method, and leaves nothing behind either. -/
theorem body_limit_exact (app : App) (world : World) (source : σ) :
    (∀ request, SendsUnmeasured request →
      ((∃ effect, app.serve? world request source = some effect ∧
        effect.response.status = 413) ↔ 65536 < request.body.length) ∧
      (65536 < request.body.length →
        app.serve? world request source =
          some { response := .bare 413, records := [], calls := [], source } ∧
        ∀ traced : Traced σ, (app.handle world request traced).source = traced) ∧
      (request.body.length ≤ 65536 →
        (isTold world.now.toInt = true →
          app.serve? world request source = some (app.handle world request source)) ∧
        Judged app world request source (app.handle world request source) ∧
        ∀ otherWorld other, SendsUnmeasured other → other.body.length ≤ 65536 →
          app.DecidedAlike world request otherWorld other →
            (app.handle otherWorld other source).response =
                (app.handle world request source).response ∧
              (app.handle otherWorld other source).source =
                (app.handle world request source).source ∧
              (otherWorld.now = world.now →
                app.handle otherWorld other source = app.handle world request source))) ∧
    ∀ request length, request.contentLength? = some length → 65536 < length →
      ∃ response, response.status = 413 ∧
        app.serve? world request source =
          some { response, records := [], calls := [], source } := by
  refine ⟨fun request sends => ⟨⟨?_, ?_⟩, ?_, ?_⟩, ?_⟩
  · rintro ⟨effect, served, status⟩
    by_contra short
    have judged : Judged app world request source (app.handle world request source) :=
      judged_of_fits sends (Nat.not_lt.mp short) source
    rw [serve?, Option.ite_none_left_eq_some] at served
    rw [Option.some.inj served.2] at judged
    exact judged.status_ne status
  · intro tooLong
    refine ⟨{ response := .bare 413, source }, ?_, Response.status_bare 413⟩
    rw [serve?, handle_of_tooLong sends tooLong]
    rfl
  · intro tooLong
    constructor
    · rw [serve?, handle_of_tooLong sends tooLong]
      rfl
    · intro traced
      rw [handle_of_tooLong sends tooLong]
  · intro fits
    refine ⟨?_, judged_of_fits sends fits source, ?_⟩
    · exact fun told => serve?_of_isTold app told request source
    · intro otherWorld other otherSends otherFits alike
      exact handle_of_decidedAlike sends fits otherSends otherFits alike source
  · intro request length announced tooMuch
    refine ⟨.plain 413 "length limit exceeded", rfl, ?_⟩
    rw [serve?, handle_of_announced announced tooMuch]
    rfl

/-- In development a body of 65536 separators is played as a command without a text, and one
of a separator more is too long.  A request for a page that announces as much is turned away,
too. -/
theorem body_limit_exact_separators :
    let app : App := ⟨{ Settings.standard with mode := .development }, .disabled⟩
    let world : World := ⟨0, 0, fun _ => .unreachable⟩
    let sent (length : Nat) : Request :=
      ⟨"POST", ⟨['/'], none⟩,
        [("Content-Type", bytesOfString "application/x-www-form-urlencoded")],
        List.replicate length 0x26⟩
    let announcing : Request :=
      ⟨"GET", ⟨"/health".toList, none⟩, [("Content-Length", bytesOfString "65537")], []⟩
    (∃ effect, app.serve? world (sent 65536) (Script.mk [7]) = some effect ∧
      effect.response.status = 200) ∧
    app.serve? world (sent 65537) (Script.mk [7]) =
      some { response := .bare 413, source := Script.mk [7] } ∧
    ∃ response, response.status = 413 ∧
      app.serve? world announcing (Script.mk [7]) =
        some { response, source := Script.mk [7] } := by
  intro app world sent announcing
  have sends (length : Nat) : SendsUnmeasured (sent length) :=
    { method_eq := rfl
      path_eq := rfl
      unannounced := by
        have absent : (sent 0).headerBytes? "content-length" = none := by decide +kernel
        exact absent }
  have size (length : Nat) : (sent length).body.length = length := List.length_replicate
  obtain ⟨unannounced, announced⟩ := body_limit_exact app world (Script.mk [7])
  refine ⟨?_, ?_, ?_⟩
  · obtain ⟨answered, judged, -⟩ := (unannounced (sent 65536) (sends _)).2.2 (size _).le
    refine ⟨_, answered rfl, ?_⟩
    generalize app.handle world (sent 65536) (Script.mk [7]) = effect at judged
    cases judged with
    | unsigned refused =>
        exact absurd (Signature.Verifier.verify_of_development rfl _ _ _ _) refused
    | otherType signed other =>
        cases other.symm.trans (show isForm (sent 65536) = true by decide +kernel)
    | repeated signed form known twice =>
        rw [show (sent 65536).body = List.replicate 65536 0x26 from rfl,
          Form.decode_replicate_separator] at twice
        cases twice
    | played => rfl
  · exact ((unannounced (sent 65537) (sends _)).2.1 (by rw [size]; decide)).1
  · exact announced announcing 65537 (by decide +kernel) (by decide)

end App
end SlashDice
