import SlashDice.Proofs.Install.State
import SlashDice.Proofs.Text.Hex

/-!
# Which states are accepted

A state attests a time if what stands after its last dot spells the digest of what
stands before it, and the time is told before the first dot.  Only the age of an attested
time is looked at: every other state that is not empty is a mismatch, whatever time it
tells.
-/

namespace SlashDice
namespace InstallState

open Text

/-- A payload tells a time before its first dot, or as a whole if it has no dot. -/
def TellsTime (payload : List Char) (issuedAt : Int64) : Prop :=
  ∃ time, (payload = time ∨ ∃ rest, payload = time ++ '.' :: rest) ∧ '.' ∉ time ∧
    Numeral.Spells time issuedAt.toInt

/-- The part after the last dot spells the digest of the payload before it, each letter in
either case, and the payload tells the time. -/
def Attests (secret : String) (state : List Char) (issuedAt : Int64) : Prop :=
  ∃ payload digits, state = payload ++ '.' :: digits ∧ '.' ∉ digits ∧
    digits.map Char.toLower = Hex.encode (mac secret payload) ∧ TellsTime payload issuedAt

variable {secret : String} {state payload : List Char} {issuedAt now : Int64}

theorem issuedAt?_eq_some_iff : issuedAt? payload = some issuedAt ↔ TellsTime payload issuedAt := by
  rw [issuedAt?, Numeral.int64?_eq_some_iff]
  constructor
  · intro spelling
    exact ⟨_, eq_beforeFirst_or '.' payload, not_mem_beforeFirst '.' payload, spelling⟩
  · rintro ⟨time, rfl | ⟨rest, rfl⟩, absent, spelling⟩
    · rwa [beforeFirst_of_not_mem absent]
    · rwa [beforeFirst_append absent]

theorem parts?_eq_some_iff {bytes : List UInt8} :
    parts? state = some (payload, bytes) ↔
      ∃ digits, state = payload ++ '.' :: digits ∧ '.' ∉ digits ∧
        digits.map Char.toLower = Hex.encode bytes := by
  rw [parts?]
  split
  case h_1 front signature cut =>
    obtain ⟨rfl, absent⟩ := cutLast?_eq_some_iff.mp cut
    constructor
    · intro decoded
      obtain ⟨_, read, same⟩ := Option.map_eq_some_iff.mp decoded
      cases same
      exact ⟨signature, rfl, absent, Hex.spells_iff.mp (Hex.decode_eq_some_iff.mp read)⟩
    · rintro ⟨digits, split, absent_digits, spelled⟩
      -- Both cuts are at the last dot, so they are the same.
      have cut_again := cutLast?_append payload absent_digits
      rw [← split, cut] at cut_again
      cases cut_again
      rw [Hex.decode_eq_some_iff.mpr (Hex.spells_iff.mpr spelled), Option.map_some]
  case h_2 uncut =>
    refine iff_of_false (Option.some_ne_none _).symm ?_
    rintro ⟨digits, rfl, absent, -⟩
    rw [cutLast?_append payload absent] at uncut
    cases uncut

/-- A time is attested exactly if the check comes to its age with that time. -/
theorem attests_iff :
    Attests secret state issuedAt ↔
      ∃ payload, parts? state = some (payload, mac secret payload) ∧
        issuedAt? payload = some issuedAt := by
  simp only [parts?_eq_some_iff, issuedAt?_eq_some_iff, Attests]
  constructor
  · rintro ⟨payload, digits, split, absent, spelled, told⟩
    exact ⟨payload, ⟨digits, split, absent, spelled⟩, told⟩
  · rintro ⟨payload, ⟨digits, split, absent, spelled⟩, told⟩
    exact ⟨payload, digits, split, absent, spelled, told⟩

theorem checkText_of_attests (attests : Attests secret state issuedAt) (now : Int64) :
    checkText secret state now =
      if (now.toInt - issuedAt.toInt).natAbs ≤ 600 then .ok () else .error .expired := by
  obtain ⟨payload, cut, told⟩ := attests_iff.mp attests
  rw [checkText, cut]
  simp only [told, maxAge_lt_iff, ← Nat.not_le, ite_not, ne_eq, not_true_eq_false, if_false]

theorem checkText_of_unattested (unattested : ∀ issuedAt, ¬ Attests secret state issuedAt)
    (now : Int64) : checkText secret state now = .error .mismatch := by
  rw [checkText]
  split
  case h_1 => rfl
  case h_2 payload provided cut =>
    split
    case isTrue => rfl
    case isFalse equal =>
      rw [ne_eq, Classical.not_not] at equal
      rw [equal] at cut
      split
      case h_1 => rfl
      case h_2 issuedAt told =>
        exact absurd (attests_iff.mpr ⟨payload, cut, told⟩) (unattested issuedAt)

/-- A state attests one time at most. -/
theorem attests_iff_eq (attests : Attests secret state issuedAt) {other : Int64} :
    Attests secret state other ↔ other = issuedAt := by
  constructor
  · intro attests_other
    obtain ⟨payload, cut, told⟩ := attests_iff.mp attests
    obtain ⟨payload_other, cut_other, told_other⟩ := attests_iff.mp attests_other
    rw [cut] at cut_other
    cases cut_other
    exact Option.some.inj (told_other.symm.trans told)
  · rintro rfl
    exact attests

theorem checkText_cases (secret : String) (state : List Char) (now : Int64) :
    (∃ issuedAt, Attests secret state issuedAt ∧ checkText secret state now =
      if (now.toInt - issuedAt.toInt).natAbs ≤ 600 then .ok () else .error .expired) ∨
    ((∀ issuedAt, ¬ Attests secret state issuedAt) ∧
      checkText secret state now = .error .mismatch) := by
  by_cases attested : ∃ issuedAt, Attests secret state issuedAt
  · obtain ⟨issuedAt, attests⟩ := attested
    exact .inl ⟨issuedAt, attests, checkText_of_attests attests now⟩
  · rw [not_exists] at attested
    exact .inr ⟨attested, checkText_of_unattested attested now⟩

theorem checkText_eq_ok_iff :
    checkText secret state now = .ok () ↔
      ∃ issuedAt, Attests secret state issuedAt ∧ (now.toInt - issuedAt.toInt).natAbs ≤ 600 := by
  rcases checkText_cases secret state now with ⟨issuedAt, attests, aged⟩ | ⟨unattested, mismatch⟩
  · simp [aged, attests_iff_eq attests]
  · simp [mismatch, unattested]

theorem checkText_eq_expired_iff :
    checkText secret state now = .error .expired ↔
      ∃ issuedAt, Attests secret state issuedAt ∧ 600 < (now.toInt - issuedAt.toInt).natAbs := by
  rcases checkText_cases secret state now with ⟨issuedAt, attests, aged⟩ | ⟨unattested, mismatch⟩
  · simp [aged, attests_iff_eq attests]
  · simp [mismatch, unattested]

theorem checkText_eq_mismatch_iff :
    checkText secret state now = .error .mismatch ↔ ∀ issuedAt, ¬ Attests secret state issuedAt := by
  rcases checkText_cases secret state now with ⟨issuedAt, attests, aged⟩ | ⟨unattested, mismatch⟩
  · rw [aged]
    split <;> simp [attests_iff_eq attests]
  · simp [mismatch, unattested]

theorem checkText_ne_missing : checkText secret state now ≠ .error .missing := by
  rcases checkText_cases secret state now with ⟨issuedAt, -, aged⟩ | ⟨-, mismatch⟩
  · rw [aged]
    split <;> exact nofun
  · rw [mismatch]
    exact nofun

theorem check_eq_iff {received : Option String} {result : Except Fault Unit}
    (other : result ≠ .error .missing) :
    check secret received now = result ↔
      ∃ token, received = some token ∧ token ≠ "" ∧ checkText secret token.toList now = result := by
  cases received with
  | none => simp [check, other.symm]
  | some token =>
      by_cases empty : token = ""
      · simp [check, empty, other.symm]
      · simp [check, empty]

theorem check_eq_missing_iff {received : Option String} :
    check secret received now = .error .missing ↔ received = none ∨ received = some "" := by
  cases received with
  | none => simp [check]
  | some token =>
      by_cases empty : token = ""
      · simp [check, empty]
      · simp [check, empty, checkText_ne_missing]

theorem ne_empty_of_attests {token : String} (attests : Attests secret token.toList issuedAt) :
    token ≠ "" := by
  rintro rfl
  obtain ⟨payload, digits, split, -⟩ := attests
  simp at split

/-- A text that attests a time is not empty, so the check looks at it. -/
theorem exists_attested_iff {received : Option String} {aged : Int64 → Prop} :
    (∃ token, received = some token ∧ token ≠ "" ∧
      ∃ issuedAt, Attests secret token.toList issuedAt ∧ aged issuedAt) ↔
    ∃ token issuedAt, received = some token ∧ Attests secret token.toList issuedAt ∧
      aged issuedAt := by
  constructor
  · rintro ⟨token, here, -, issuedAt, attests, age⟩
    exact ⟨token, issuedAt, here, attests, age⟩
  · rintro ⟨token, issuedAt, here, attests, age⟩
    exact ⟨token, here, ne_empty_of_attests attests, issuedAt, attests, age⟩

theorem length_of_spells_mac {digits : List Char}
    (spelled : digits.map Char.toLower = Hex.encode (mac secret payload)) : digits.length = 64 := by
  have lengths := congrArg List.length spelled
  rw [List.length_map, Hex.length_encode, mac, Hmac.length_mac] at lengths
  exact lengths

theorem unattested_of_length {digits : List Char} (absent : '.' ∉ digits)
    (length_ne : digits.length ≠ 64) (issuedAt : Int64) :
    ¬ Attests secret (payload ++ '.' :: digits) issuedAt := by
  rintro ⟨other, spelling, split, absent_spelling, spelled, -⟩
  have cut := cutLast?_append other absent_spelling
  rw [← split, cutLast?_append payload absent] at cut
  cases cut
  exact length_ne (length_of_spells_mac spelled)

/-- A state that comes back is accepted exactly if it attests a time that is no more than
ten minutes away.  Otherwise it is missing if there is none or an empty one, expired if it
attests a time that is farther away, and a mismatch if it attests no time.  So no digits can
be put to the digest of a payload or be taken from it. -/
theorem check_accepts_attested (secret : String) (received : Option String) (now : Int64) :
    (check secret received now = .ok () ↔
      ∃ token issuedAt, received = some token ∧ Attests secret token.toList issuedAt ∧
        (now.toInt - issuedAt.toInt).natAbs ≤ 600) ∧
    (check secret received now = .error .missing ↔ received = none ∨ received = some "") ∧
    (check secret received now = .error .expired ↔
      ∃ token issuedAt, received = some token ∧ Attests secret token.toList issuedAt ∧
        600 < (now.toInt - issuedAt.toInt).natAbs) ∧
    (check secret received now = .error .mismatch ↔
      ∃ token, received = some token ∧ token ≠ "" ∧
        ∀ issuedAt, ¬ Attests secret token.toList issuedAt) ∧
    ∀ payload digits changed : List Char,
      digits.map Char.toLower = Hex.encode (mac secret payload) → '.' ∉ changed →
        changed.length ≠ digits.length →
          check secret (some (String.ofList (payload ++ '.' :: changed))) now =
            .error .mismatch := by
  refine ⟨?_, check_eq_missing_iff, ?_, ?_, ?_⟩
  · refine (check_eq_iff (by simp)).trans ?_
    simp only [checkText_eq_ok_iff]
    exact exists_attested_iff
  · refine (check_eq_iff (by simp)).trans ?_
    simp only [checkText_eq_expired_iff]
    exact exists_attested_iff
  · refine (check_eq_iff (by simp)).trans ?_
    simp only [checkText_eq_mismatch_iff]
  · intro payload digits changed spelled absent length_ne
    rw [length_of_spells_mac spelled] at length_ne
    refine (check_eq_iff (by simp)).mpr ⟨_, rfl, ?_, ?_⟩
    · simp [← String.toList_inj]
    · rw [String.toList_ofList]
      exact checkText_eq_mismatch_iff.mpr (unattested_of_length absent length_ne)

/-- A time before 1970 and no number after it: accepted at the last moment, expired after
it, and a mismatch with two digits more. -/
theorem check_accepts_attested_early :
    let payload := "-5".toList
    let digits := Hex.encode (mac "secret" payload)
    let token := String.ofList (payload ++ '.' :: digits)
    digits.map Char.toLower = Hex.encode (mac "secret" payload) ∧ '.' ∉ digits ++ ['0', '0'] ∧
      (digits ++ ['0', '0']).length ≠ digits.length ∧
      check "secret" (some token) 595 = .ok () ∧
      check "secret" (some token) 596 = .error .expired ∧
      check "secret" (some (String.ofList (payload ++ '.' :: (digits ++ ['0', '0'])))) 595 =
        .error .mismatch := by
  intro payload digits token
  have spelled : digits.map Char.toLower = Hex.encode (mac "secret" payload) :=
    Hex.spells_iff.mp (Hex.decode_eq_some_iff.mp (Hex.decode_encode _))
  have absent : '.' ∉ digits := dot_not_mem isInPart_of_mem_encode
  have absent_changed : '.' ∉ digits ++ ['0', '0'] := by simp [absent]
  have length_ne : (digits ++ ['0', '0']).length ≠ digits.length := by simp
  have attests : Attests "secret" token.toList (-5) := by
    refine ⟨payload, digits, String.toList_ofList, absent, spelled, payload, .inl rfl, by decide, ?_⟩
    exact Numeral.int64?_eq_some_iff.mp (by decide +kernel)
  obtain ⟨accepts, -⟩ := check_accepts_attested "secret" (some token) 595
  obtain ⟨-, -, expires, -⟩ := check_accepts_attested "secret" (some token) 596
  obtain ⟨-, -, -, -, mismatches⟩ := check_accepts_attested "secret" none 595
  refine ⟨spelled, absent_changed, length_ne, ?_, ?_, ?_⟩
  · exact accepts.mpr ⟨token, -5, rfl, attests, by decide⟩
  · exact expires.mpr ⟨token, -5, rfl, attests, by decide⟩
  · exact mismatches payload digits _ spelled absent_changed length_ne

end InstallState
end SlashDice
