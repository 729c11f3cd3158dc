import SlashDice.Text.LetterCase

/-!
# Lower-casing twice

A text in lower case is left as it is.  The table of letters is checked run by
run: no letter of one run has a lower-case form that another run covers, and the
forms are characters other than the two capitals with rules of their own.
-/

namespace SlashDice
namespace Text
namespace LetterCase

namespace CaseRun

def lastTarget (run : CaseRun) : Nat :=
  run.target + (run.last - run.first)

/-- Whether the forms of one run are seen to be no letters of another: they lie
before or after it, stand between its letters, or there is only one of them. -/
def misses (run other : CaseRun) : Bool :=
  Nat.blt run.lastTarget other.first || Nat.blt other.last run.target ||
    (Nat.beq run.stride 2 && Nat.beq other.stride 2 &&
      !Nat.beq (run.target % 2) (other.first % 2)) ||
    (Nat.beq run.first run.last && !other.covers run.target)

theorem covers_iff {run : CaseRun} {point : Nat} :
    run.covers point = true ↔
      (run.first ≤ point ∧ point ≤ run.last) ∧ (point - run.first) % run.stride = 0 := by
  simp only [covers, Bool.and_eq_true, decide_eq_true_eq, beq_iff_eq]

/-- The forms that one run is seen to give are no letters of the other. -/
theorem not_covers_lower {run other : CaseRun} (apart : run.misses other = true) {point : Nat}
    (covered : run.covers point = true) : other.covers (run.lower point) = false := by
  obtain ⟨⟨low, high⟩, step⟩ := covers_iff.mp covered
  simp only [misses, lastTarget, Bool.or_eq_true, Bool.and_eq_true, Nat.blt_eq, Nat.beq_eq,
    Bool.not_eq_true'] at apart
  rcases apart with ((before | after) | ⟨⟨two, two'⟩, parity⟩) | ⟨single, outside⟩
  · refine Bool.eq_false_iff.mpr fun hit => ?_
    have bounds := (covers_iff.mp hit).1
    unfold lower at bounds
    omega
  · refine Bool.eq_false_iff.mpr fun hit => ?_
    have bounds := (covers_iff.mp hit).1
    unfold lower at bounds
    omega
  · refine Bool.eq_false_iff.mpr fun hit => ?_
    have odd : run.target % 2 ≠ other.first % 2 := Nat.ne_of_beq_eq_false parity
    have bounds := covers_iff.mp hit
    rw [two] at step
    rw [two', lower] at bounds
    omega
  · have here : point = run.first := by omega
    rw [here, lower, Nat.sub_self, Nat.add_zero]
    exact outside

/-- Whether the forms of a run are characters outside ASCII, other than the
capital sigma and the dotted capital I; the sign of the kelvin alone has a form
in ASCII. -/
def hasPlainForms (run : CaseRun) : Bool :=
  (Nat.ble 0x80 run.target || (Nat.beq run.first 0x212A && Nat.beq run.last 0x212A &&
      Nat.beq run.target 0x6B)) &&
    (Nat.blt run.lastTarget 0xD800 ||
      (Nat.blt 0xDFFF run.target && Nat.blt run.lastTarget 0x110000)) &&
    (Nat.blt run.lastTarget 0x130 || Nat.blt 0x130 run.target) &&
    (Nat.blt run.lastTarget 0x3A3 || Nat.blt 0x3A3 run.target)

end CaseRun

theorem lowerIn_of_not_covers {point : Nat} {runs : List CaseRun}
    (free : ∀ run ∈ runs, run.covers point = false) : lowerIn point runs = point := by
  induction runs with
  | nil => rfl
  | cons run rest induction =>
      rw [List.forall_mem_cons] at free
      rw [lowerIn, if_neg (by simp [free.1]), induction free.2, ite_self]

theorem lowerIn_cases (point : Nat) (runs : List CaseRun) :
    lowerIn point runs = point ∨
      ∃ run ∈ runs, run.covers point = true ∧ lowerIn point runs = run.lower point := by
  induction runs with
  | nil => exact .inl rfl
  | cons run rest induction =>
      unfold lowerIn
      split
      case isTrue covered => exact .inr ⟨run, List.mem_cons_self, covered, rfl⟩
      split
      case isTrue => exact .inl rfl
      rcases induction with same | ⟨found, member, covered, form⟩
      · exact .inl same
      · exact .inr ⟨found, List.mem_cons_of_mem _ member, covered, form⟩

/-- No form is a letter of a run. -/
theorem lowerRuns_miss : ∀ run ∈ lowerRuns, ∀ other ∈ lowerRuns, run.misses other = true := by
  have all : (lowerRuns.all fun run => lowerRuns.all run.misses) = true := by decide +kernel
  intro run member other otherMember
  exact List.all_eq_true.mp (List.all_eq_true.mp all run member) other otherMember

theorem lowerRuns_plain : ∀ run ∈ lowerRuns, run.hasPlainForms = true := by
  have all : lowerRuns.all CaseRun.hasPlainForms = true := by decide +kernel
  exact List.all_eq_true.mp all

theorem lowerIn_lowerIn (point : Nat) :
    lowerIn (lowerIn point lowerRuns) lowerRuns = lowerIn point lowerRuns := by
  rcases lowerIn_cases point lowerRuns with same | ⟨run, member, covered, form⟩
  · rw [same]
    exact same
  · rw [form]
    exact lowerIn_of_not_covers fun other otherMember =>
      CaseRun.not_covers_lower (lowerRuns_miss run member other otherMember) covered

/-- The forms of the letters outside ASCII are characters, none of them the
capital sigma or the dotted capital I, and in ASCII there is only the letter k
among them. -/
theorem lowerIn_facts {c : Char} (outside : 0x80 ≤ c.toNat) (noDotted : c ≠ '\u0130')
    (noSigma : c ≠ 'Σ') :
    (lowerIn c.toNat lowerRuns).isValidChar ∧ lowerIn c.toNat lowerRuns ≠ 0x130 ∧
      lowerIn c.toNat lowerRuns ≠ 0x3A3 ∧
        (0x80 ≤ lowerIn c.toNat lowerRuns ∨ lowerIn c.toNat lowerRuns = 0x6B) := by
  rcases lowerIn_cases c.toNat lowerRuns with same | ⟨run, member, covered, form⟩
  · rw [same]
    exact ⟨c.valid, fun point => noDotted (Char.toNat_inj.mp point),
      fun point => noSigma (Char.toNat_inj.mp point), .inl outside⟩
  · rw [form]
    have bounds := (CaseRun.covers_iff.mp covered).1
    have plain := lowerRuns_plain run member
    simp only [CaseRun.hasPlainForms, CaseRun.lastTarget, Bool.or_eq_true, Bool.and_eq_true,
      Nat.blt_eq, Nat.ble_eq, Nat.beq_eq] at plain
    unfold CaseRun.lower Nat.isValidChar
    omega

/-- Whether a character is left as it is wherever it stands. -/
def IsLower (c : Char) : Prop :=
  c ≠ 'Σ' ∧ lowerChar c = [c]

theorem isLower_toLower {c : Char} (ascii : c.toNat < 0x80) : IsLower c.toLower := by
  have all : ∀ n < 0x80, (Char.ofNat n).toLower ≠ 'Σ' ∧
      lowerChar (Char.ofNat n).toLower = [(Char.ofNat n).toLower] := by decide +kernel
  have here := all c.toNat ascii
  rwa [Char.ofNat_toNat] at here

theorem toNat_ofNat {point : Nat} (valid : point.isValidChar) :
    (Char.ofNat point).toNat = point := by
  rw [Char.ofNat, dif_pos valid]
  rfl

/-- A character of the lower-case form of another one: the form of an ASCII letter,
a part of the form of the dotted capital I, or a form from the table. -/
theorem mem_lowerChar_cases {c d : Char} (noSigma : c ≠ 'Σ') (member : d ∈ lowerChar c) :
    (c.toNat < 0x80 ∧ d = c.toLower) ∨ (c = '\u0130' ∧ (d = 'i' ∨ d = '\u0307')) ∨
      (0x80 ≤ c.toNat ∧ c ≠ '\u0130' ∧ d.toNat = lowerIn c.toNat lowerRuns) := by
  unfold lowerChar at member
  split at member
  case isTrue ascii => exact .inl ⟨ascii, List.mem_singleton.mp member⟩
  split at member
  case isTrue dotted =>
    refine .inr (.inl ⟨dotted, ?_⟩)
    simpa using member
  case isFalse ascii noDotted =>
    have outside := Nat.le_of_not_lt ascii
    have facts := lowerIn_facts outside noDotted noSigma
    refine .inr (.inr ⟨outside, noDotted, ?_⟩)
    rw [List.mem_singleton.mp member, toNat_ofNat facts.1]

/-- The lower-case form of a character other than the capital sigma is made of
characters that are left as they are. -/
theorem isLower_of_mem_lowerChar {c d : Char} (noSigma : c ≠ 'Σ') (member : d ∈ lowerChar c) :
    IsLower d := by
  rcases mem_lowerChar_cases noSigma member with
    ⟨ascii, rfl⟩ | ⟨-, rfl | rfl⟩ | ⟨outside, noDotted, form⟩
  · exact isLower_toLower ascii
  · exact isLower_toLower (c := 'i') (by decide)
  · exact ⟨by decide, by decide +kernel⟩
  · obtain ⟨-, formNoDotted, formNoSigma, place⟩ := lowerIn_facts outside noDotted noSigma
    rw [← form] at formNoDotted formNoSigma place
    rcases place with formOutside | isK
    · refine ⟨fun same => formNoSigma (by rw [same]; rfl), ?_⟩
      unfold lowerChar
      rw [if_neg (Nat.not_lt.mpr formOutside), if_neg fun same => formNoDotted (by rw [same]; rfl),
        form, lowerIn_lowerIn, ← form, Char.ofNat_toNat]
    · have k : d = 'k' := Char.toNat_inj.mp isK
      rw [k]
      exact isLower_toLower (c := 'k') (by decide)

theorem isLower_of_mem_lowerFrom {afterCased : Bool} {text : List Char} {c : Char}
    (member : c ∈ lowerFrom afterCased text) : IsLower c := by
  induction text generalizing afterCased with
  | nil => cases member
  | cons head rest induction =>
      rcases List.mem_append.mp member with first | later
      · split at first
        case isTrue =>
          have sigmas : IsLower 'ς' ∧ IsLower 'σ' :=
            ⟨⟨by decide, by decide +kernel⟩, ⟨by decide, by decide +kernel⟩⟩
          rw [List.mem_singleton.mp first]
          split
          · exact sigmas.1
          · exact sigmas.2
        case isFalse noSigma => exact isLower_of_mem_lowerChar noSigma first
      · exact induction later

theorem lowerFrom_of_isLower {afterCased : Bool} {text : List Char}
    (lower : ∀ c ∈ text, IsLower c) : lowerFrom afterCased text = text := by
  induction text generalizing afterCased with
  | nil => rfl
  | cons head rest induction =>
      rw [List.forall_mem_cons] at lower
      simp only [lowerFrom, if_neg lower.1.1, lower.1.2, induction lower.2, List.cons_append,
        List.nil_append]

end LetterCase

@[simp]
theorem lowercase_lowercase (text : List Char) :
    lowercase (lowercase text) = lowercase text :=
  LetterCase.lowerFrom_of_isLower fun _ member => LetterCase.isLower_of_mem_lowerFrom member

end Text
end SlashDice
