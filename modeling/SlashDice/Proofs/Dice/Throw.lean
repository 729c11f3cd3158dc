import Mathlib.Algebra.Order.BigOperators.Group.List
import Mathlib.Algebra.Order.Group.Nat
import SlashDice.Dice.Throw
import SlashDice.Proofs.Dice.Outcome
import SlashDice.Random.Traced

/-!
# Throws and their outcomes

A throw from a lawful source shows one value for each die, between one and the
sides, and totals that are exact when the sides of all dice together fit.
-/

namespace SlashDice

namespace Outcome

/-- Every value lies between one and the sides of the dice. -/
def Within (sides : UInt32) (rolls : List UInt32) : Prop :=
  ∀ value ∈ rolls, 1 ≤ value ∧ value ≤ sides

theorem length_le_valueSum {sides : UInt32} {rolls : List UInt32} (within : Within sides rolls) :
    rolls.length ≤ valueSum rolls := by
  have least : ∀ number ∈ rolls.map UInt32.toNat, 1 ≤ number := by
    intro number member
    obtain ⟨value, inRolls, rfl⟩ := List.mem_map.mp member
    exact UInt32.le_iff_toNat_le.mp (within value inRolls).1
  have sum := List.card_nsmul_le_sum (rolls.map UInt32.toNat) 1 least
  rwa [List.length_map, Nat.nsmul_eq_mul, Nat.mul_one] at sum

theorem valueSum_le_of_le {bound : Nat} {rolls : List UInt32}
    (most : ∀ value ∈ rolls, value.toNat ≤ bound) : valueSum rolls ≤ rolls.length * bound := by
  have each : ∀ number ∈ rolls.map UInt32.toNat, number ≤ bound := by
    intro number member
    obtain ⟨value, inRolls, rfl⟩ := List.mem_map.mp member
    exact most value inRolls
  have sum := List.sum_le_card_nsmul (rolls.map UInt32.toNat) bound each
  rwa [List.length_map, Nat.nsmul_eq_mul] at sum

theorem valueSum_le {sides : UInt32} {rolls : List UInt32} (within : Within sides rolls) :
    valueSum rolls ≤ rolls.length * sides.toNat :=
  valueSum_le_of_le fun value inRolls => UInt32.le_iff_toNat_le.mp (within value inRolls).2

/-- What a roll promises of its outcome: a value for each die, between one and the
sides, their sum, and the sum with the modifier. -/
structure Shows (outcome : Outcome) (roll : Roll) : Prop where
  length_eq : outcome.rolls.length = roll.count.toNat
  within : Within roll.sides outcome.rolls
  baseTotal_eq : outcome.baseTotal.toInt = (outcome.rolls.map UInt32.toNat).sum
  count_le_baseTotal : roll.count.toNat ≤ outcome.baseTotal.toInt
  baseTotal_le : outcome.baseTotal.toInt ≤ roll.count.toNat * roll.sides.toNat
  grandTotal_eq : outcome.grandTotal.toInt = outcome.baseTotal.toInt + roll.modifier.toInt

/-- Values of the right number and size show a roll if no total can overflow. -/
theorem shows_ofRolls {roll : Roll} {rolls : List UInt32}
    (length_eq : rolls.length = roll.count.toNat) (within : Within roll.sides rolls)
    (fits : roll.count.toNat * roll.sides.toNat < 2 ^ 62) :
    (ofRolls rolls roll.modifier).Shows roll := by
  have low := length_le_valueSum within
  have high := valueSum_le within
  rw [length_eq] at low high
  have exact := exact_ofRolls (Nat.lt_of_le_of_lt high fits) roll.modifier
  have base : (ofRolls rolls roll.modifier).baseTotal.toInt = valueSum rolls := exact.baseTotal_eq
  constructor
  case length_eq => exact length_eq
  case within => exact within
  case baseTotal_eq => exact base
  case count_le_baseTotal => omega
  case baseTotal_le =>
    rw [base]
    exact_mod_cast high
  case grandTotal_eq => exact exact.grandTotal_eq

end Outcome

namespace AdmittedRoll

variable {σ : Type} [Randomness σ] {limits : Limits}

/-- The totals of an admitted roll cannot overflow if those of the largest one
cannot. -/
theorem count_mul_sides_lt (request : AdmittedRoll limits)
    (fits : limits.maxDice.toNat * limits.maxSides.toNat < 2 ^ 62) :
    request.roll.count.toNat * request.roll.sides.toNat < 2 ^ 62 := by
  have dice := UInt32.le_iff_toNat_le.mp request.admitted.le_maxDice
  have sides := UInt32.le_iff_toNat_le.mp request.admitted.le_maxSides
  exact Nat.lt_of_le_of_lt (Nat.mul_le_mul dice sides) fits

theorem shows_throwDice [LawfulRandomness σ] (request : AdmittedRoll limits)
    (fits : limits.maxDice.toNat * limits.maxSides.toNat < 2 ^ 62) (source : σ) :
    (request.throwDice source).1.Shows request.roll := by
  apply Outcome.shows_ofRolls
  · exact Randomness.length_drawDice _ _ _ _
  · exact Randomness.between_of_mem_drawDice _ _ _
  · exact request.count_mul_sides_lt fits

theorem throwDice_traced (request : AdmittedRoll limits) (traced : Traced σ) :
    request.throwDice traced =
      ((request.throwDice traced.source).1,
        ⟨(request.throwDice traced.source).2,
          traced.requested ++
            List.replicate request.roll.count.toNat (1, request.roll.sides)⟩) := by
  rw [throwDice, Traced.drawDice_eq]
  rfl

end AdmittedRoll
end SlashDice
