import SlashDice.Proofs.OrderedChecks
import SlashDice.Proofs.Text.Hex
import SlashDice.Proofs.Text.Numeral
import SlashDice.Proofs.Text.Pieces
import SlashDice.Signature

/-!
# Which signed commands are accepted

Outside development a command passes seven checks in order, and it is accepted
exactly if all of them hold: there is a secret and there are both headers, the
first header tells a time within the tolerance, and the second one spells the
keyed digest of the command, in either case of its hexadecimal letters.
Otherwise the first check that fails is reported.
-/

namespace SlashDice
namespace Signature

open Text

/-- The text of a header, trimmed, is the numeral of a time of sending. -/
def TellsTime (sent : String) (sentAt : Int64) : Prop :=
  Numeral.Spells (trim sent.toList) sentAt.toInt

/-- A signature is the version and a hexadecimal spelling of some bytes, each
letter in either case. -/
def SpelledBy (given : String) (bytes : List UInt8) : Prop :=
  ∃ digits, given.toList = "v0=".toList ++ digits ∧ digits.map Char.toLower = Hex.encode bytes

/-- The digest of a command under a secret: that of the version, the trimmed time
of sending and the body, with colons between them. -/
def expectedMac (secret sent : String) (body : List UInt8) : List UInt8 :=
  Hmac.mac (bytesOfString secret)
    (bytesOfString "v0:" ++ Utf8.encode (trim sent.toList) ++ bytesOfString ":" ++ body)

theorem decode?_eq_some_iff {given : String} {bytes : List UInt8} :
    decode? given = some bytes ↔ SpelledBy given bytes := by
  rw [decode?, Option.bind_eq_some_iff]
  simp only [dropOpening?_eq_some_iff, Hex.decode_eq_some_iff, Hex.spells_iff]
  rfl

theorem spelledBy_unique {given : String} {first second : List UInt8}
    (one : SpelledBy given first) (other : SpelledBy given second) : first = second :=
  Option.some.inj ((decode?_eq_some_iff.mpr one).symm.trans (decode?_eq_some_iff.mpr other))

theorem tellsTime_unique {sent : String} {first second : Int64}
    (one : TellsTime sent first) (other : TellsTime sent second) : first = second :=
  Option.some.inj ((Numeral.int64?_eq_some_iff.mpr one).symm.trans
    (Numeral.int64?_eq_some_iff.mpr other))

namespace Verifier

/-- The time of sending and the present differ by no more seconds than allowed,
counted without bounds. -/
def Tolerates (verifier : Verifier) (now sentAt : Int64) : Prop :=
  (now.toInt - sentAt.toInt).natAbs ≤ verifier.tolerance.toNat

/-- The checks of a command in order: first what has to be there, then the time of
sending, and the signature last. -/
def checks (verifier : Verifier) (timestamp signature : Option String) (body : List UInt8)
    (now : Int64) : List (Check Fault) :=
  [⟨.missingSecret, ∃ secret, verifier.secret = some secret⟩,
    ⟨.missingHeader timestampHeader, ∃ sent, timestamp = some sent⟩,
    ⟨.missingHeader signatureHeader, ∃ given, signature = some given⟩,
    ⟨.malformedTimestamp, ∃ sent, timestamp = some sent ∧ ∃ sentAt, TellsTime sent sentAt⟩,
    ⟨.staleTimestamp, ∃ sent, timestamp = some sent ∧
      ∃ sentAt, TellsTime sent sentAt ∧ verifier.Tolerates now sentAt⟩,
    ⟨.malformedSignature, ∃ given, signature = some given ∧ ∃ bytes, SpelledBy given bytes⟩,
    ⟨.mismatch, ∃ secret, verifier.secret = some secret ∧ ∃ sent, timestamp = some sent ∧
      ∃ given, signature = some given ∧ SpelledBy given (expectedMac secret sent body)⟩]

/-- The time is stale exactly if it is not tolerated: the distance of the two times
in words is their distance. -/
theorem tolerates_iff {verifier : Verifier} {now sentAt : Int64} :
    verifier.Tolerates now sentAt ↔ ¬ verifier.tolerance < secondsApart now sentAt := by
  rw [Tolerates, ← toNat_secondsApart, UInt64.not_lt, UInt64.le_iff_toNat_le]

/-- With a secret and both headers, the other four checks decide. -/
theorem verifyWith_decides (verifier : Verifier) (secret sent given : String)
    (body : List UInt8) (now : Int64) :
    Check.Decides
      [⟨.malformedTimestamp, ∃ sentAt, TellsTime sent sentAt⟩,
        ⟨.staleTimestamp, ∃ sentAt, TellsTime sent sentAt ∧ verifier.Tolerates now sentAt⟩,
        ⟨.malformedSignature, ∃ bytes, SpelledBy given bytes⟩,
        ⟨.mismatch, SpelledBy given (expectedMac secret sent body)⟩]
      (verifier.verifyWith secret sent given body now) := by
  unfold verifyWith
  split
  case h_1 unread =>
    refine Check.decides_cons_of_not_holds ?_
    rintro ⟨sentAt, told⟩
    rw [Numeral.int64?_eq_some_iff.mpr told] at unread
    cases unread
  case h_2 sentAt read =>
    have told : TellsTime sent sentAt := Numeral.int64?_eq_some_iff.mp read
    refine Check.decides_cons_of_holds ⟨sentAt, told⟩ ?_
    split
    case isTrue stale =>
      refine Check.decides_cons_of_not_holds ?_
      rintro ⟨other, otherTold, tolerated⟩
      rw [tellsTime_unique otherTold told] at tolerated
      exact tolerates_iff.mp tolerated stale
    case isFalse fresh =>
      refine Check.decides_cons_of_holds ⟨sentAt, told, tolerates_iff.mpr fresh⟩ ?_
      split
      case h_1 undecoded =>
        refine Check.decides_cons_of_not_holds ?_
        rintro ⟨bytes, spelled⟩
        rw [decode?_eq_some_iff.mpr spelled] at undecoded
        cases undecoded
      case h_2 provided decoded =>
        have spelled := decode?_eq_some_iff.mp decoded
        refine Check.decides_cons_of_holds ⟨provided, spelled⟩ ?_
        split
        case isTrue equal =>
          rw [equal] at spelled
          exact Check.decides_cons_of_holds spelled (Check.decides_nil ())
        case isFalse different =>
          exact Check.decides_cons_of_not_holds fun expected =>
            different (spelledBy_unique spelled expected)

theorem verify_decides {verifier : Verifier} (verifies : verifier.mode.verifiesSignatures = true)
    (timestamp signature : Option String) (body : List UInt8) (now : Int64) :
    Check.Decides (verifier.checks timestamp signature body now)
      (verifier.verify timestamp signature body now) := by
  obtain ⟨secret, mode, tolerance⟩ := verifier
  unfold checks verify
  rw [if_neg (by simp [verifies])]
  cases secret with
  | none => exact Check.decides_cons_of_not_holds (by simp)
  | some secret =>
      refine Check.decides_cons_of_holds ⟨secret, rfl⟩ ?_
      cases timestamp with
      | none => exact Check.decides_cons_of_not_holds (by simp)
      | some sent =>
          refine Check.decides_cons_of_holds ⟨sent, rfl⟩ ?_
          cases signature with
          | none => exact Check.decides_cons_of_not_holds (by simp)
          | some given =>
              refine Check.decides_cons_of_holds ⟨given, rfl⟩ ?_
              simp only [Option.some.injEq, exists_eq_left']
              exact verifyWith_decides _ secret sent given body now

theorem allHold_checks_iff {verifier : Verifier} {timestamp signature : Option String}
    {body : List UInt8} {now : Int64} :
    Check.AllHold (verifier.checks timestamp signature body now) ↔
      ∃ secret sent given sentAt, verifier.secret = some secret ∧ timestamp = some sent ∧
        signature = some given ∧ TellsTime sent sentAt ∧ verifier.Tolerates now sentAt ∧
          SpelledBy given (expectedMac secret sent body) := by
  simp only [checks, Check.allHold_cons]
  constructor
  · rintro ⟨-, -, -, -, ⟨sent, here, sentAt, told, tolerated⟩, -, ⟨secret, hidden, other, there,
      given, signed, spelled⟩, -⟩
    cases Option.some.inj (here.symm.trans there)
    exact ⟨secret, sent, given, sentAt, hidden, here, signed, told, tolerated, spelled⟩
  · rintro ⟨secret, sent, given, sentAt, hidden, here, signed, told, tolerated, spelled⟩
    exact ⟨⟨secret, hidden⟩, ⟨sent, here⟩, ⟨given, signed⟩, ⟨sent, here, sentAt, told⟩,
      ⟨sent, here, sentAt, told, tolerated⟩, ⟨given, signed, _, spelled⟩,
      ⟨secret, hidden, sent, here, given, signed, spelled⟩, List.forall_mem_nil _⟩

theorem verify_of_development {verifier : Verifier} (development : verifier.mode = .development)
    (timestamp signature : Option String) (body : List UInt8) (now : Int64) :
    verifier.verify timestamp signature body now = .ok () := by
  unfold verify
  rw [development]
  rfl

theorem verifiesSignatures_iff {mode : Mode} :
    mode.verifiesSignatures = true ↔ mode ≠ .development := by
  cases mode <;> decide

/-- A command is accepted in development, and elsewhere exactly if all checks
hold. -/
theorem verify_eq_ok_iff {verifier : Verifier} {timestamp signature : Option String}
    {body : List UInt8} {now : Int64} :
    verifier.verify timestamp signature body now = .ok () ↔
      verifier.mode = .development ∨
        Check.AllHold (verifier.checks timestamp signature body now) := by
  by_cases development : verifier.mode = .development
  · exact iff_of_true (verify_of_development development _ _ _ _) (.inl development)
  · have decided := verify_decides (verifiesSignatures_iff.mpr development) timestamp signature
      body now
    rw [← decided.ok_iff, or_iff_right development]
    exact ⟨fun accepted => ⟨(), accepted⟩, fun ⟨(), accepted⟩ => accepted⟩

theorem verify_eq_error_iff {verifier : Verifier} {timestamp signature : Option String}
    {body : List UInt8} {now : Int64} {fault : Fault} :
    verifier.verify timestamp signature body now = .error fault ↔
      verifier.mode ≠ .development ∧
        Check.FirstFailure (verifier.checks timestamp signature body now) fault := by
  by_cases development : verifier.mode = .development
  · rw [verify_of_development development]
    simp [development]
  · have decided := verify_decides (verifiesSignatures_iff.mpr development) timestamp signature
      body now
    rw [decided.error_iff, and_iff_right development]

end Verifier

/-- Hexadecimal text is in lower case already. -/
theorem spelledBy_sign (secret sent : String) (body : List UInt8)
    (trimmed : trim sent.toList = sent.toList) :
    SpelledBy (sign secret sent body) (expectedMac secret sent body) := by
  refine decode?_eq_some_iff.mp ?_
  rw [decode?, sign, String.toList_ofList,
    dropOpening?_eq_some_iff.mpr rfl, Option.bind_some, Hex.decode_encode, expectedMac, trimmed]
  rfl

/-- A command that is signed with the secret is accepted while its time is in the
window. -/
theorem Verifier.verify_sign {verifier : Verifier} {secret sent : String} {sentAt now : Int64}
    (body : List UInt8) (hidden : verifier.secret = some secret)
    (trimmed : trim sent.toList = sent.toList) (told : Numeral.Spells sent.toList sentAt.toInt)
    (tolerated : verifier.Tolerates now sentAt) :
    verifier.verify (some sent) (some (sign secret sent body)) body now = .ok () := by
  rw [verify_eq_ok_iff, allHold_checks_iff]
  refine .inr ⟨secret, sent, _, sentAt, hidden, rfl, rfl, ?_, tolerated,
    spelledBy_sign secret sent body trimmed⟩
  rwa [TellsTime, trimmed]

/-- A command is accepted in development, or with a secret, both headers, a time of
sending in the window and the signature of the command in either letter case, and
in no other case; otherwise the first failing check is named.  A command that the
sender signs is accepted for as long as its time is in the window. -/
theorem verify_exactly_signed (verifier : Verifier) (timestamp signature : Option String)
    (body : List UInt8) (now : Int64) :
    (verifier.verify timestamp signature body now = .ok () ↔
      verifier.mode = .development ∨
        ∃ (secret sent given : String) (sentAt : Int64) (digits : List Char),
          verifier.secret = some secret ∧ timestamp = some sent ∧ signature = some given ∧
            Numeral.Spells (trim sent.toList) sentAt.toInt ∧
            (now.toInt - sentAt.toInt).natAbs ≤ verifier.tolerance.toNat ∧
            given.toList = "v0=".toList ++ digits ∧
            digits.map Char.toLower = Hex.encode (Hmac.mac (bytesOfString secret)
              (bytesOfString "v0:" ++ Utf8.encode (trim sent.toList) ++
                bytesOfString ":" ++ body))) ∧
    (∀ fault, verifier.verify timestamp signature body now = .error fault ↔
      verifier.mode ≠ .development ∧
        Check.FirstFailure (verifier.checks timestamp signature body now) fault) ∧
    ∀ (secret sent : String) (sentAt : Int64), trim sent.toList = sent.toList →
      Numeral.Spells sent.toList sentAt.toInt →
      (now.toInt - sentAt.toInt).natAbs ≤ verifier.tolerance.toNat →
        Verifier.verify { verifier with secret := some secret } (some sent)
          (some (sign secret sent body)) body now = .ok () := by
  refine ⟨?_, fun fault => Verifier.verify_eq_error_iff, ?_⟩
  · rw [Verifier.verify_eq_ok_iff, Verifier.allHold_checks_iff]
    refine or_congr_right ⟨?_, ?_⟩
    · rintro ⟨secret, sent, given, sentAt, hidden, here, signed, told, tolerated, digits, spelled⟩
      exact ⟨secret, sent, given, sentAt, digits, hidden, here, signed, told, tolerated, spelled⟩
    · rintro ⟨secret, sent, given, sentAt, digits, hidden, here, signed, told, tolerated, spelled⟩
      exact ⟨secret, sent, given, sentAt, hidden, here, signed, told, tolerated, digits, spelled⟩
  · intro secret sent sentAt trimmed told tolerated
    rw [Verifier.verify_eq_ok_iff, Verifier.allHold_checks_iff]
    refine .inr ⟨secret, sent, _, sentAt, rfl, rfl, rfl, ?_, tolerated,
      spelledBy_sign secret sent body trimmed⟩
    rwa [TellsTime, trimmed]

/-- Two times as far apart as two times can be, with the largest tolerance. -/
theorem verify_exactly_signed_widest :
    trim "+9223372036854775807".toList = "+9223372036854775807".toList ∧
      Numeral.Spells "+9223372036854775807".toList (9223372036854775807 : Int64).toInt ∧
      ((-9223372036854775808 : Int64).toInt - (9223372036854775807 : Int64).toInt).natAbs ≤
        (18446744073709551615 : UInt64).toNat ∧
      Verifier.verify ⟨some "secret", .production, 18446744073709551615⟩
        (some "+9223372036854775807") (some (sign "secret" "+9223372036854775807" [58])) [58]
        (-9223372036854775808) = .ok () := by
  have trimmed : trim "+9223372036854775807".toList = "+9223372036854775807".toList := by
    decide +kernel
  have told : Numeral.Spells "+9223372036854775807".toList
      (9223372036854775807 : Int64).toInt :=
    Numeral.int64?_eq_some_iff.mp (by decide +kernel)
  have tolerated :
      ((-9223372036854775808 : Int64).toInt - (9223372036854775807 : Int64).toInt).natAbs ≤
        (18446744073709551615 : UInt64).toNat := by
    decide +kernel
  exact ⟨trimmed, told, tolerated,
    (verify_exactly_signed ⟨none, .production, 18446744073709551615⟩ none none [58]
      (-9223372036854775808)).2.2 "secret" "+9223372036854775807" 9223372036854775807
      trimmed told tolerated⟩

end Signature
end SlashDice
