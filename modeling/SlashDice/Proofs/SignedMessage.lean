import SlashDice.Proofs.Signature
import SlashDice.Proofs.Text.Ascii
import SlashDice.Text.Utf8.Lemmas

/-!
# What a signature is bound to

The bytes that are signed have a colon between the time of sending and the body, and
bodies may have colons as well.  The time has none: it is signed only after it was read
as a number.  So the bytes tell the time and the body apart, and a signature that is
accepted for two commands is one for the same command, or a collision of the keyed digest.
-/

namespace SlashDice
namespace Signature

open Text

variable {time laterTime : List Char} {body laterBody : List UInt8}

def colon : UInt8 := 0x3A

/-- Two different messages with the same digest under a secret. -/
def Collide (secret : String) (first second : List UInt8) : Prop :=
  first ≠ second ∧
    Hmac.mac (bytesOfString secret) first = Hmac.mac (bytesOfString secret) second

theorem signedMessage_eq (time : List Char) (body : List UInt8) :
    signedMessage time body = bytesOfString "v0:" ++ (Utf8.encode time ++ colon :: body) := by
  have written : bytesOfString ":" = [colon] := by decide
  rw [signedMessage, written, List.append_assoc, List.append_assoc, List.singleton_append]

theorem colon_not_mem_encode {value : Int} (spelling : Numeral.Spells time value) :
    colon ∉ Utf8.encode time := by
  have facts : ∀ c ∈ time, c.toNat < 0x80 ∧ UInt8.ofNat c.toNat ≠ colon := by
    intro c member
    rcases Numeral.isDigit_or_sign_of_spells spelling member with digit | rfl | rfl
    · have ascii := Ascii.ascii_of_isDigit digit
      have noColon := Ascii.of_code_points
        (p := fun c => c.isDigit = true → UInt8.ofNat c.toNat ≠ colon) (by decide +kernel) ascii
      exact ⟨ascii, noColon digit⟩
    all_goals decide
  rw [Utf8.encode_ascii fun c member => (facts c member).1]
  intro member
  obtain ⟨c, here, same⟩ := List.mem_map.mp member
  exact (facts c here).2 same

/-- The first colon after the version ends the time. -/
theorem signedMessage_eq_iff (absent : colon ∉ Utf8.encode time)
    (laterAbsent : colon ∉ Utf8.encode laterTime) :
    signedMessage time body = signedMessage laterTime laterBody ↔
      time = laterTime ∧ body = laterBody := by
  constructor
  · intro same
    rw [signedMessage_eq, signedMessage_eq, List.append_cancel_left_eq] at same
    have cut := congrArg (cutFirst? colon) same
    rw [cutFirst?_append absent, cutFirst?_append laterAbsent, Option.some.injEq,
      Prod.mk.injEq] at cut
    exact ⟨Function.LeftInverse.injective Utf8.decode_encode cut.1, cut.2⟩
  · rintro ⟨rfl, rfl⟩
    rfl

theorem signedMessage_eq_iff_of_tellsTime {sent later : String} {sentAt laterAt : Int64}
    (told : TellsTime sent sentAt) (laterTold : TellsTime later laterAt) :
    signedMessage (trim sent.toList) body = signedMessage (trim later.toList) laterBody ↔
      trim sent.toList = trim later.toList ∧ body = laterBody :=
  signedMessage_eq_iff (colon_not_mem_encode told) (colon_not_mem_encode laterTold)

/-- A command that is accepted where signatures are checked has a time, and its signature
spells the digest of the signed bytes. -/
theorem Verifier.facts_of_verify {verifier : Verifier} {timestamp signature : Option String}
    {now : Int64} (verifies : verifier.mode ≠ .development)
    (accepted : verifier.verify timestamp signature body now = .ok ()) :
    ∃ secret sent given sentAt, verifier.secret = some secret ∧ timestamp = some sent ∧
      signature = some given ∧ TellsTime sent sentAt ∧
        SpelledBy given (Hmac.mac (bytesOfString secret)
          (signedMessage (trim sent.toList) body)) := by
  have holds := (verify_eq_ok_iff.mp accepted).resolve_left verifies
  obtain ⟨secret, sent, given, sentAt, hidden, here, signed, told, -, spelled⟩ :=
    allHold_checks_iff.mp holds
  exact ⟨secret, sent, given, sentAt, hidden, here, signed, told, spelled⟩

/-- Commands whose times are numbers are signed as the same bytes only if they have the
same time, trimmed, and the same body.  So if one signature is accepted for two commands
where signatures are checked, they have the same time and the same body, or their bytes
collide under the secret. -/
theorem signature_binds_time_and_body :
    (∀ (sent later : String) (sentAt laterAt : Int64) (body laterBody : List UInt8),
      Numeral.int64? (trim sent.toList) = some sentAt →
      Numeral.int64? (trim later.toList) = some laterAt →
        (signedMessage (trim sent.toList) body = signedMessage (trim later.toList) laterBody ↔
          trim sent.toList = trim later.toList ∧ body = laterBody)) ∧
    ∀ (verifier : Verifier) (timestamp laterTimestamp signature : Option String)
      (body laterBody : List UInt8) (now laterNow : Int64), verifier.mode ≠ .development →
      verifier.verify timestamp signature body now = .ok () →
      verifier.verify laterTimestamp signature laterBody laterNow = .ok () →
        ∃ secret sent later, verifier.secret = some secret ∧ timestamp = some sent ∧
          laterTimestamp = some later ∧
          (trim sent.toList = trim later.toList ∧ body = laterBody ∨
            Collide secret (signedMessage (trim sent.toList) body)
              (signedMessage (trim later.toList) laterBody)) := by
  constructor
  · intro sent later sentAt laterAt body laterBody read laterRead
    exact signedMessage_eq_iff_of_tellsTime (Numeral.int64?_eq_some_iff.mp read)
      (Numeral.int64?_eq_some_iff.mp laterRead)
  · intro verifier timestamp laterTimestamp signature body laterBody now laterNow verifies
      accepted laterAccepted
    obtain ⟨secret, sent, given, sentAt, hidden, here, signed, told, spelled⟩ :=
      Verifier.facts_of_verify verifies accepted
    obtain ⟨other, later, another, laterAt, same, there, copied, laterTold, laterSpelled⟩ :=
      Verifier.facts_of_verify verifies laterAccepted
    cases hidden.symm.trans same
    cases signed.symm.trans copied
    refine ⟨secret, sent, later, hidden, here, there, ?_⟩
    -- One signature spells one digest, so the two messages can only differ by colliding.
    have digests := spelledBy_unique spelled laterSpelled
    rw [← signedMessage_eq_iff_of_tellsTime told laterTold, Collide, and_iff_left digests]
    exact Classical.em _

/-- A time that is no number would not be told apart from the body. -/
example : signedMessage "1:2".toList (bytesOfString "3") =
    signedMessage "1".toList (bytesOfString "2:3") := by
  decide

/-- The same command sent again with other blank characters around its time: accepted with
the signature that it had. -/
theorem signature_binds_time_and_body_sent_again :
    let verifier : Verifier := ⟨some "secret", .staging, 300⟩
    let body := bytesOfString "5:text=d6"
    let signature := some (sign "secret" "5" body)
    Numeral.int64? (trim " 5".toList) = some 5 ∧ Numeral.int64? (trim "5\t".toList) = some 5 ∧
      (signedMessage (trim " 5".toList) body = signedMessage (trim "5\t".toList) body ↔
        trim " 5".toList = trim "5\t".toList ∧ body = body) ∧
      verifier.mode ≠ .development ∧
      verifier.verify (some " 5") signature body 5 = .ok () ∧
      verifier.verify (some "5\t") signature body 305 = .ok () ∧
      ∃ secret sent later, verifier.secret = some secret ∧ some " 5" = some sent ∧
        some "5\t" = some later ∧
        (trim sent.toList = trim later.toList ∧ body = body ∨
          Collide secret (signedMessage (trim sent.toList) body)
            (signedMessage (trim later.toList) body)) := by
  intro verifier body signature
  have read : Numeral.int64? (trim " 5".toList) = some 5 := by decide +kernel
  have laterRead : Numeral.int64? (trim "5\t".toList) = some 5 := by decide +kernel
  have spelled : SpelledBy (sign "secret" "5" body) (expectedMac "secret" "5" body) :=
    spelledBy_sign "secret" "5" body (by decide +kernel)
  have accepted : ∀ (sent : String) (now : Int64), trim sent.toList = trim "5".toList →
      Numeral.int64? (trim sent.toList) = some 5 → verifier.Tolerates now 5 →
        verifier.verify (some sent) signature body now = .ok () := by
    intro sent now same told tolerated
    refine Verifier.verify_eq_ok_iff.mpr (.inr (Verifier.allHold_checks_iff.mpr
      ⟨"secret", sent, _, 5, rfl, rfl, rfl, Numeral.int64?_eq_some_iff.mp told, tolerated, ?_⟩))
    rwa [expectedMac, same]
  have first := accepted " 5" 5 (by decide +kernel) read
    (Verifier.tolerates_iff.mpr (by decide +kernel))
  have second := accepted "5\t" 305 (by decide +kernel) laterRead
    (Verifier.tolerates_iff.mpr (by decide +kernel))
  exact ⟨read, laterRead,
    signature_binds_time_and_body.1 " 5" "5\t" 5 5 body body read laterRead, by decide, first,
    second, signature_binds_time_and_body.2 verifier (some " 5") (some "5\t") signature body body
      5 305 (by decide) first second⟩

end Signature
end SlashDice
