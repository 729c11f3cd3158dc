import Mathlib.Algebra.Order.Ring.Int
import Mathlib.Tactic.SplitIfs
import SlashDice.Proofs.Dice.Game
import SlashDice.Settings.Basic

/-!
# Usable settings

Settings pass their check exactly if there is a signing secret wherever signatures
are checked, and if both limits lie between their bounds.  The sides of all dice of
the largest roll are then far from filling 64 bits, and so are any values of 32 bits
that a source may give for them.
-/

namespace SlashDice
namespace Settings

variable {settings : Settings}

/-- The settings that the service can run with. -/
structure Usable (settings : Settings) : Prop where
  signed : settings.mode.verifiesSignatures = true → settings.signingSecret ≠ none
  one_le_maxDice : 1 ≤ settings.maxDice
  maxDice_le : settings.maxDice ≤ 100000
  two_le_maxSides : 2 ≤ settings.maxSides
  maxSides_le : settings.maxSides ≤ 1000000

theorem check_eq_ok_iff : settings.check = .ok () ↔ settings.Usable := by
  unfold check
  split_ifs with unsigned dice sides
  · refine iff_of_false nofun fun usable => ?_
    exact usable.signed unsigned.1 unsigned.2
  · refine iff_of_false nofun fun usable => ?_
    exact dice.elim (UInt32.not_lt.mpr usable.one_le_maxDice)
      (UInt32.not_lt.mpr usable.maxDice_le)
  · refine iff_of_false nofun fun usable => ?_
    exact sides.elim (UInt32.not_lt.mpr usable.two_le_maxSides)
      (UInt32.not_lt.mpr usable.maxSides_le)
  · rw [not_or, UInt32.not_lt, UInt32.not_lt] at dice sides
    exact iff_of_true rfl ⟨fun verifies missing => unsigned ⟨verifies, missing⟩, dice.1, dice.2,
      sides.1, sides.2⟩

/-- No total of an admitted roll comes near the bounds of 64 bits. -/
theorem Usable.maxDice_mul_maxSides_lt (usable : settings.Usable) :
    settings.limits.maxDice.toNat * settings.limits.maxSides.toNat < 2 ^ 62 := by
  have dice := UInt32.le_iff_toNat_le.mp usable.maxDice_le
  have sides := UInt32.le_iff_toNat_le.mp usable.maxSides_le
  exact Nat.lt_of_le_of_lt (Nat.mul_le_mul dice sides) (by decide)

/-- Too few dice are thrown for any values of 32 bits to fill 62 bits, whether they lie
between the bounds of their draws or not. -/
theorem Usable.valueSum_lt (usable : settings.Usable) {σ : Type} [Randomness σ]
    (request : AdmittedRoll settings.limits) (source : σ) :
    Outcome.valueSum (request.throwDice source).1.rolls < 2 ^ 62 := by
  have length : (request.throwDice source).1.rolls.length = request.roll.count.toNat :=
    Randomness.length_drawDice _ _ _ _
  have few : request.roll.count.toNat ≤ 100000 :=
    UInt32.le_iff_toNat_le.mp (UInt32.le_trans request.admitted.le_maxDice usable.maxDice_le)
  have sum : Outcome.valueSum (request.throwDice source).1.rolls ≤
      (request.throwDice source).1.rolls.length * 4294967296 :=
    Outcome.valueSum_le_of_le fun value _ => Nat.le_of_lt value.toNat_lt
  omega

/-- What is rolled under usable settings has exact totals. -/
theorem Usable.exact_of_rolled (usable : settings.Usable) {σ : Type} [Randomness σ]
    {name text : String} {source : σ} {roll : Roll} {outcome : Outcome}
    (rolled : (Game.play ⟨settings.limits, name⟩ text source).1 = .rolled roll outcome) :
    outcome.Exact roll.modifier := by
  obtain ⟨-, request, rfl, rfl⟩ := Game.request_of_rolled rolled
  exact Outcome.exact_ofRolls (usable.valueSum_lt request source) _

end Settings
end SlashDice
