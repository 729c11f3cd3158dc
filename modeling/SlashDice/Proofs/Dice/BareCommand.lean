import SlashDice.Proofs.Settings

/-!
# The command without any text

A blank command asks for one die of twenty sides.  Settings that pass their check may
allow fewer sides than that: then the command is rejected, and otherwise it is rolled
and answered with the die and its value.
-/

namespace SlashDice

open Text

theorem parse_of_forall_isBlank {text : String} (blank : ∀ c ∈ text.toList, isBlank c = true) :
    Command.parse text = .ok (.roll Roll.bare) :=
  Command.parse_of_blank (trim_eq_nil_iff.mpr blank)

/-- The bare roll takes one number from its source. -/
theorem AdmittedRoll.throwDice_of_bare {σ : Type} [Randomness σ] {limits : Limits}
    {request : AdmittedRoll limits} (bare : request.roll = Roll.bare) (source : σ) :
    ∃ value, (Randomness.draw 1 20 source).1 = some value ∧
      request.throwDice source =
        (Outcome.ofRolls [value] 0, (Randomness.draw 1 20 source).2) := by
  obtain ⟨roll, admitted⟩ := request
  cases bare
  exact ⟨_, (Option.some_get _).symm, rfl⟩

theorem Outcome.toInt_totals_single (value : UInt32) :
    (ofRolls [value] 0).baseTotal.toInt = value.toNat ∧
      (ofRolls [value] 0).grandTotal.toInt = value.toNat := by
  have small : valueSum [value] < 2 ^ 62 := by
    have word := value.toNat_lt
    simp only [valueSum, List.map_cons, List.map_nil, List.sum_singleton]
    omega
  obtain ⟨base, grand⟩ := exact_ofRolls small 0
  have single : valueSum [value] = value.toNat := by simp [valueSum]
  rw [base] at grand
  simp only [ofRolls, single] at base grand ⊢
  exact ⟨base, by simpa using grand⟩

theorem ReplyStyle.fields_success_bare (style : ReplyStyle) (user : String) (value : UInt32) :
    (style.success user Roll.bare (Outcome.ofRolls [value] 0)).attachment.fields =
      [⟨"Die", "d20", true⟩,
        ⟨"Roll", if style.maxDisplayedRolls = 0 then tooManyRolls else numeral value.toNat,
          true⟩] := by
  have hidden : style.maxDisplayedRolls < 1 ↔ style.maxDisplayedRolls = 0 := by
    rw [UInt32.lt_iff_toNat_lt, ← UInt32.toNat_inj]
    exact Nat.lt_one_iff
  have label : Roll.bare.dieLabel = "d20" := by decide
  have count : Roll.bare.count = 1 := rfl
  have modifier : Roll.bare.modifier = 0 := rfl
  have reason : Roll.bare.reason = none := rfl
  simp [success, rollsValue, modifierFields, reasonFields, listedRolls, Outcome.ofRolls, hidden,
    label, count, modifier, reason]

namespace Limits

variable {limits : Limits}

theorem admits_bare_iff (someDice : 1 ≤ limits.maxDice) :
    limits.Admits Roll.bare ↔ 20 ≤ limits.maxSides := by
  constructor
  · exact fun admits => admits.le_maxSides
  · intro roomy
    constructor
    case minSides_le => decide
    case minDice_le => decide
    case le_maxDice => exact someDice
    case le_maxSides => exact roomy

theorem check_bare_of_lt (someDice : 1 ≤ limits.maxDice) (narrow : limits.maxSides < 20) :
    limits.check Roll.bare = .error .tooManySides := by
  have checks := limits.check_decides Roll.bare
  apply (checks.error_iff _).mpr
  refine ⟨[⟨.tooFewSides, _⟩, ⟨.tooFewDice, _⟩, ⟨.tooManyDice, _⟩], ⟨.tooManySides, _⟩, [], rfl,
    ?_, UInt32.not_le.mpr narrow, rfl⟩
  simp only [Check.allHold_cons]
  exact ⟨by decide, by decide, someDice, List.forall_mem_nil _⟩

end Limits

theorem Game.play_of_blank {σ : Type} [Randomness σ] {game : Game} {text : String}
    (blank : ∀ c ∈ text.toList, isBlank c = true) (admits : game.limits.Admits Roll.bare)
    (source : σ) :
    ∃ value, (Randomness.draw 1 20 source).1 = some value ∧
      game.play text source =
        (.rolled Roll.bare (Outcome.ofRolls [value] 0), (Randomness.draw 1 20 source).2) := by
  obtain ⟨request, admitted⟩ :=
    (game.limits.check_decides Roll.bare).ok_iff.mpr (Limits.allHold_checks_iff.mpr admits)
  have played := play_of_admitted (parse_of_forall_isBlank blank) admitted source
  obtain ⟨value, drawn, thrown⟩ :=
    AdmittedRoll.throwDice_of_bare (Limits.roll_of_check admitted) source
  rw [thrown] at played
  exact ⟨value, drawn, played⟩

/-- Under settings that pass their check, a blank command is rolled exactly if they allow
twenty sides.  Then it takes one number from one to twenty from its source, and the reply
has the die and the roll as its fields; the value is shown unless no dice are to be listed
at all.  Under the other settings the command is rejected as having too many sides. -/
theorem bare_command_rolled_iff {settings : Settings} (accepted : settings.check = .ok ())
    {σ : Type} [Randomness σ] [LawfulRandomness σ] (name user : String) {text : String}
    (blank : ∀ c ∈ text.toList, isBlank c = true) (source : σ) :
    let game : Game := ⟨settings.limits, name⟩
    ((∃ roll outcome, (game.play text source).1 = .rolled roll outcome) ↔
      20 ≤ settings.maxSides) ∧
    (20 ≤ settings.maxSides → ∃ value, 1 ≤ value ∧ value ≤ 20 ∧
      (Randomness.draw 1 20 source).1 = some value ∧
      ∃ outcome : Outcome,
        game.play text source =
          (.rolled ⟨1, 20, 0, none⟩ outcome, (Randomness.draw 1 20 source).2) ∧
        outcome.rolls = [value] ∧ outcome.baseTotal.toInt = value.toNat ∧
        outcome.grandTotal.toInt = value.toNat ∧
        (game.answer text user source).1.attachment.fields =
          [⟨"Die", "d20", true⟩,
            ⟨"Roll", if settings.maxDisplayedRolls = 0 then tooManyRolls
              else numeral value.toNat, true⟩]) ∧
    (settings.maxSides < 20 →
      game.play text source = (.rejected (.outOfLimits .tooManySides), source) ∧
        (game.answer text user source).1.attachment.fields =
          [⟨"Invalid roll", "exceeds maximum side count", false⟩]) := by
  intro game
  have usable := Settings.check_eq_ok_iff.mp accepted
  have parsed := parse_of_forall_isBlank blank
  have rolledIff : (∃ roll outcome, (game.play text source).1 = .rolled roll outcome) ↔
      20 ≤ settings.maxSides := by
    rw [Game.exists_rolled_iff, parsed]
    constructor
    · rintro ⟨roll, same, admits⟩
      cases same
      exact admits.le_maxSides
    · exact fun roomy => ⟨_, rfl, (Limits.admits_bare_iff usable.one_le_maxDice).mpr roomy⟩
  refine ⟨rolledIff, ?_, ?_⟩
  · intro roomy
    have admits : game.limits.Admits Roll.bare :=
      (Limits.admits_bare_iff usable.one_le_maxDice).mpr roomy
    obtain ⟨value, drawn, played⟩ := Game.play_of_blank blank admits source
    obtain ⟨low, high⟩ := LawfulRandomness.between source (by decide) drawn
    obtain ⟨base, grand⟩ := Outcome.toInt_totals_single value
    refine ⟨value, low, high, drawn, _, played, rfl, base, grand, ?_⟩
    rw [Game.answer, played]
    exact ReplyStyle.fields_success_bare game.style user value
  · intro narrow
    have broken : game.limits.check Roll.bare = .error .tooManySides :=
      Limits.check_bare_of_lt usable.one_le_maxDice narrow
    have played := Game.play_of_fault parsed broken source
    refine ⟨played, ?_⟩
    rw [Game.answer, played]
    rfl

/-- A command of blank characters outside ASCII in a game of twenty sides at the most. -/
theorem bare_command_rolled_iff_twenty_sides :
    let settings : Settings := { Settings.standard with mode := .development, maxSides := 20 }
    let game : Game := ⟨settings.limits, "/roll"⟩
    settings.check = .ok () ∧ (∀ c ∈ "\u00a0 \u2003".toList, isBlank c = true) ∧
      ∃ outcome : Outcome,
        game.play "\u00a0 \u2003" (Script.mk [250, 3]) =
          (.rolled ⟨1, 20, 0, none⟩ outcome, Script.mk [3, 250]) ∧
        outcome.rolls = [20] ∧ outcome.grandTotal.toInt = 20 := by
  intro settings game
  have blank : ∀ c ∈ "\u00a0 \u2003".toList, isBlank c = true :=
    List.all_eq_true.mp (by decide)
  have accepted : settings.check = .ok () := rfl
  obtain ⟨-, rolled, -⟩ :=
    bare_command_rolled_iff accepted "/roll" "U1" blank (Script.mk [250, 3])
  obtain ⟨value, -, -, drawn, outcome, played, rolls, -, grand, -⟩ := rolled (by decide)
  cases drawn
  exact ⟨accepted, blank, outcome, played, rolls, grand⟩

/-- The settings may allow nineteen sides.  Then the blank command is rejected, although
the help of the same game says that it rolls a die of twenty. -/
theorem bare_command_rejected_nineteen_sides :
    let settings : Settings := { Settings.standard with mode := .development, maxSides := 19 }
    let game : Game := ⟨settings.limits, "/roll"⟩
    settings.check = .ok () ∧
      (game.play "" (Script.mk [17])).1 = .rejected (.outOfLimits .tooManySides) ∧
      (¬ ∃ roll outcome, (game.play "" (Script.mk [17])).1 = .rolled roll outcome) ∧
      ∃ rest, game.style.basicUsage = "`/roll` rolls a d20." ++ rest := by
  intro settings game
  have rejected : (game.play "" (Script.mk [17])).1 = .rejected (.outOfLimits .tooManySides) :=
    rfl
  refine ⟨rfl, rejected, ?_, ?_⟩
  · rintro ⟨roll, outcome, rolled⟩
    rw [rejected] at rolled
    cases rolled
  · exact ⟨"\n`/roll d6` rolls one six-sided die.\n`/roll 3d6` rolls three six-sided dice.",
      by decide⟩

end SlashDice
