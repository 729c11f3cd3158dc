import SlashDice.Install.Workspace
import SlashDice.Proofs.Web.Form

/-!
# The calls of an installation

Where the methods of the Web API have addresses, the exchange of the code is called
first, and what comes back of it decides whether the second method is called at all.
-/

namespace SlashDice

open Text Web

theorem Text.Base64.isVisibleAscii_letter (value : Nat) :
    isVisibleAscii (Base64.letter value) = true := by
  have all : ∀ value < 64, isVisibleAscii (Base64.letter value) = true := by decide
  by_cases small : value < 64
  · exact all value small
  · have last : Base64.letter value = '/' := by
      unfold Base64.letter
      rw [if_neg (by omega), if_neg (by omega), if_neg (by omega), if_neg (by omega)]
    rw [last]
    rfl

theorem Text.Base64.isVisibleAscii_of_mem_encode (bytes : List UInt8) :
    ∀ c ∈ Base64.encode bytes, isVisibleAscii c = true := by
  have fill : isVisibleAscii '=' = true := rfl
  fun_induction Base64.encode bytes with
  | case1 => exact List.forall_mem_nil _
  | case2 | case3 => simp [isVisibleAscii_letter, fill]
  | case4 _ _ _ _ _ induction => simpa [isVisibleAscii_letter] using induction

namespace WebApi

/-- The reply is a success, and its body is read as an answer. -/
def Reply.Answers {α : Type} (decode : Json.Value → Option α) (reply : Reply) (answer : α) :
    Prop :=
  ∃ status body text, reply = .answered status body text ∧ isSuccess status = true ∧
    (Json.Value.ofBytes? body).bind decode = some answer

/-- The reply to the exchange of a code grants a token. -/
def Reply.Grants (reply : Reply) (exchanged : ExchangeAnswer) (token : String) : Prop :=
  reply.Answers ExchangeAnswer.ofValue? exchanged ∧ exchanged.ok = true ∧
    exchanged.accessToken = some token

/-- The reply to the question whose token it is tells that. -/
def Reply.Identifies (reply : Reply) (identity : IdentityAnswer) : Prop :=
  reply.Answers IdentityAnswer.ofValue? identity ∧ identity.ok = true

section Asking

variable {α : Type} {decode : Json.Value → Option α} {transport : Transport}
  {registration : Registration} {step : Step} {call : String → Call} {url : String}

theorem readReply_eq_ok_iff {made : Call} {reply : Reply} {answer : α} :
    readReply decode made reply = .ok answer ↔ reply.Answers decode answer := by
  cases reply with
  | unreachable | failed => exact iff_of_false nofun fun ⟨_, _, _, same, _⟩ => nomatch same
  | brokenOff status =>
      refine iff_of_false (fun read => ?_) fun ⟨_, _, _, same, _⟩ => nomatch same
      simp only [readReply] at read
      split at read <;> cases read
  | answered status body text =>
      constructor
      · intro read
        by_cases success : isSuccess status = true
        · simp only [readReply, success, if_true] at read
          split at read
          case h_1 found decoded =>
            cases read
            exact ⟨status, body, text, rfl, success, decoded⟩
          case h_2 => cases read
        · simp only [readReply, success, Bool.false_eq_true, if_false] at read
          cases read
      · rintro ⟨_, _, _, same, success, decoded⟩
        cases same
        simp only [readReply, success, decoded, if_true]

theorem callMethod_of_address (addressed : address registration step = .ok url)
    (legal : isLegalHeader (call url).authorization = true) :
    callMethod transport registration step decode call =
      ⟨[call url], readReply decode (call url) (transport (call url))⟩ := by
  simp only [callMethod, addressed, send, legal, if_true]

variable {isInOrder : α → Bool} {refusal : α → Fault}

theorem calls_ask (addressed : address registration step = .ok url)
    (legal : isLegalHeader (call url).authorization = true) :
    ((callMethod transport registration step decode call).andThen fun answer =>
      if isInOrder answer then ⟨[], .ok answer⟩ else .fail (refusal answer)).calls =
        [call url] := by
  rw [callMethod_of_address addressed legal]
  cases readReply decode (call url) (transport (call url)) with
  | error fault => rw [Trace.andThen_of_error rfl]
  | ok answer =>
      rw [Trace.andThen_of_ok rfl]
      split <;> rfl

/-- A method gives an answer exactly if the reply to the call is one that is in order. -/
theorem result_ask_eq_ok_iff {answer : α} (addressed : address registration step = .ok url)
    (legal : isLegalHeader (call url).authorization = true) :
    ((callMethod transport registration step decode call).andThen fun answer =>
      if isInOrder answer then ⟨[], .ok answer⟩ else .fail (refusal answer)).result =
        .ok answer ↔
      (transport (call url)).Answers decode answer ∧ isInOrder answer = true := by
  rw [callMethod_of_address addressed legal, ← readReply_eq_ok_iff]
  cases readReply decode (call url) (transport (call url)) with
  | error fault =>
      rw [Trace.andThen_of_error rfl]
      exact iff_of_false nofun fun both => nomatch both.1
  | ok found =>
      rw [Trace.andThen_of_ok rfl]
      constructor
      · intro result
        by_cases inOrder : isInOrder found = true
        · simp only [inOrder, if_true] at result
          cases result
          exact ⟨rfl, inOrder⟩
        · simp only [inOrder, Bool.false_eq_true, if_false] at result
          cases result
      · rintro ⟨same, inOrder⟩
        cases same
        simp only [inOrder, if_true]

end Asking

theorem isLegalHeader_exchangeCall (registration : Registration) (url code : String) :
    isLegalHeader (exchangeCall registration url code).authorization = true := by
  have opening : isLegalHeader "Basic " = true := by decide
  refine isLegalHeader_append opening fun c member => ?_
  rw [String.toList_ofList] at member
  exact Base64.isVisibleAscii_of_mem_encode _ c member

theorem isLegalHeader_identifyCall {token : String}
    (visible : ∀ c ∈ token.toList, isVisibleAscii c = true) (url : String) :
    isLegalHeader (identifyCall url token).authorization = true := by
  have opening : isLegalHeader "Bearer " = true := by decide
  exact isLegalHeader_append opening visible

/-! ## The calls in order -/

section Installing

variable {transport : Transport} {registration : Registration} {code : String}
  {url : Step → String}

/-- The methods of the Web API have these addresses. -/
def Addressed (registration : Registration) (url : Step → String) : Prop :=
  ∀ step, address registration step = .ok (url step)

theorem calls_obtainToken (addressed : Addressed registration url) :
    (obtainToken transport registration code).calls =
      [exchangeCall registration (url .exchange) code] :=
  calls_ask (addressed .exchange) (isLegalHeader_exchangeCall _ _ _)

theorem result_obtainToken_eq_ok_iff (addressed : Addressed registration url)
    {exchanged : ExchangeAnswer} :
    (obtainToken transport registration code).result = .ok exchanged ↔
      (transport (exchangeCall registration (url .exchange) code)).Answers
        ExchangeAnswer.ofValue? exchanged ∧ exchanged.ok = true :=
  result_ask_eq_ok_iff (addressed .exchange) (isLegalHeader_exchangeCall _ _ _)

/-- What comes of the exchange is decided by the reply to that one call. -/
theorem obtainToken_congr (addressed : Addressed registration url) {other : Transport}
    (same : other (exchangeCall registration (url .exchange) code) =
      transport (exchangeCall registration (url .exchange) code)) :
    obtainToken other registration code = obtainToken transport registration code := by
  have asked (any : Transport) :
      callMethod any registration .exchange ExchangeAnswer.ofValue?
        (fun url => exchangeCall registration url code) =
          ⟨[exchangeCall registration (url .exchange) code],
            readReply ExchangeAnswer.ofValue? (exchangeCall registration (url .exchange) code)
              (any (exchangeCall registration (url .exchange) code))⟩ :=
    callMethod_of_address (addressed .exchange) (isLegalHeader_exchangeCall _ _ _)
  simp only [obtainToken, asked, same]

theorem calls_install (addressed : Addressed registration url) :
    ∃ later, (Workspace.install transport registration code).calls =
      exchangeCall registration (url .exchange) code :: later := by
  have calls : (obtainToken transport registration code).calls =
      [exchangeCall registration (url .exchange) code] := calls_obtainToken addressed
  rw [Workspace.install]
  cases obtained : (obtainToken transport registration code).result with
  | error fault =>
      rw [Trace.andThen_of_error obtained, calls]
      exact ⟨[], rfl⟩
  | ok exchanged =>
      rw [Trace.andThen_of_ok obtained, calls]
      exact ⟨_, rfl⟩

/-- Without a token nothing else is called, and the fault is the same for all that
reply to the exchange in this way. -/
theorem install_of_no_token (addressed : Addressed registration url)
    (noToken : ¬ ∃ exchanged token,
      (transport (exchangeCall registration (url .exchange) code)).Grants exchanged token) :
    ∃ fault, ∀ other : Transport,
      other (exchangeCall registration (url .exchange) code) =
        transport (exchangeCall registration (url .exchange) code) →
      Workspace.install other registration code =
        ⟨[exchangeCall registration (url .exchange) code], .error fault⟩ := by
  have calls : (obtainToken transport registration code).calls =
      [exchangeCall registration (url .exchange) code] := calls_obtainToken addressed
  -- The fault is read off this one reply, before any other world is looked at.
  cases obtained : (obtainToken transport registration code).result with
  | error fault =>
      refine ⟨fault, fun other same => ?_⟩
      rw [Workspace.install, obtainToken_congr addressed same, Trace.andThen_of_error obtained,
        calls]
  | ok exchanged =>
      obtain ⟨answers, inOrder⟩ := (result_obtainToken_eq_ok_iff addressed).mp obtained
      cases granted : exchanged.accessToken with
      | some token => exact absurd ⟨exchanged, token, answers, inOrder, granted⟩ noToken
      | none =>
          refine ⟨.noToken, fun other same => ?_⟩
          rw [Workspace.install, obtainToken_congr addressed same, Trace.andThen_of_ok obtained,
            calls]
          simp only [granted, Trace.fail, List.append_nil]

/-- With a token, the second method is called as well, and what comes of it decides. -/
theorem install_of_token (addressed : Addressed registration url) {exchanged : ExchangeAnswer}
    {token : String}
    (grants : (transport (exchangeCall registration (url .exchange) code)).Grants exchanged token)
    (visible : ∀ c ∈ token.toList, isVisibleAscii c = true) :
    Workspace.install transport registration code =
      ⟨[exchangeCall registration (url .exchange) code, identifyCall (url .identify) token],
        (identify transport registration token).result.map (Workspace.ofAnswers exchanged)⟩ := by
  obtain ⟨answers, inOrder, granted⟩ := grants
  have obtained : (obtainToken transport registration code).result = .ok exchanged :=
    (result_obtainToken_eq_ok_iff addressed).mpr ⟨answers, inOrder⟩
  have first : (obtainToken transport registration code).calls =
      [exchangeCall registration (url .exchange) code] := calls_obtainToken addressed
  have second : (identify transport registration token).calls =
      [identifyCall (url .identify) token] :=
    calls_ask (addressed .identify) (isLegalHeader_identifyCall visible _)
  rw [Workspace.install, Trace.andThen_of_ok obtained, first]
  simp only [granted]
  cases identified : (identify transport registration token).result with
  | error fault =>
      rw [Trace.andThen_of_error identified, second]
      rfl
  | ok identity =>
      rw [Trace.andThen_of_ok identified, second]
      rfl

theorem result_identify_eq_ok_iff (addressed : Addressed registration url) {token : String}
    (visible : ∀ c ∈ token.toList, isVisibleAscii c = true) {identity : IdentityAnswer} :
    (identify transport registration token).result = .ok identity ↔
      (transport (identifyCall (url .identify) token)).Identifies identity :=
  result_ask_eq_ok_iff (addressed .identify) (isLegalHeader_identifyCall visible _)

end Installing

end WebApi
end SlashDice
