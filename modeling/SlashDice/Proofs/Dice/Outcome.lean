import Mathlib.Algebra.Order.Ring.Int
import SlashDice.Dice.Outcome

/-!
# Totals in 64 bits

The values of the dice are added up in 64 bits.  As long as the sum of the values
fits, no addition on the way to it wraps around, and the modifier of 32 bits fits
beside it as well.
-/

namespace SlashDice
namespace Outcome

def valueSum (rolls : List UInt32) : Nat :=
  (rolls.map UInt32.toNat).sum

@[simp]
theorem valueSum_cons (value : UInt32) (rolls : List UInt32) :
    valueSum (value :: rolls) = value.toNat + valueSum rolls :=
  rfl

theorem toInt_add_of_fits {first second : Int64}
    (low : -2 ^ 63 ≤ first.toInt + second.toInt) (high : first.toInt + second.toInt < 2 ^ 63) :
    (first + second).toInt = first.toInt + second.toInt := by
  rw [Int64.toInt_add]
  exact Int.bmod_eq_of_le low high

theorem toInt_ofNat_toNat (value : UInt32) :
    (Int64.ofNat value.toNat).toInt = (value.toNat : Int) := by
  have small := value.toNat_lt
  exact Int64.toInt_ofNat_of_lt (by omega)

/-- One value after the other: the running sum is exact while the whole sum fits. -/
theorem toInt_foldl_add {rolls : List UInt32} {start : Int64} (nonnegative : 0 ≤ start.toInt)
    (fits : start.toInt + valueSum rolls < 2 ^ 63) :
    (rolls.foldl (fun sum value => sum + Int64.ofNat value.toNat) start).toInt =
      start.toInt + valueSum rolls := by
  induction rolls generalizing start with
  | nil => simp [valueSum]
  | cons value rolls induction =>
      rw [valueSum_cons] at fits ⊢
      have here := toInt_ofNat_toNat value
      have step : (start + Int64.ofNat value.toNat).toInt = start.toInt + value.toNat := by
        rw [toInt_add_of_fits (by omega) (by omega), here]
      rw [List.foldl_cons, induction (by omega) (by omega), step]
      omega

theorem toInt_total {rolls : List UInt32} (fits : valueSum rolls < 2 ^ 63) :
    (total rolls).toInt = valueSum rolls := by
  have zero : (0 : Int64).toInt = 0 := rfl
  have small : (0 : Int64).toInt + valueSum rolls < 2 ^ 63 := by omega
  have sum := toInt_foldl_add (Int.le_of_eq zero.symm) small
  rwa [zero, Int.zero_add] at sum

theorem toInt_grandTotal {rolls : List UInt32} (fits : valueSum rolls < 2 ^ 62)
    (modifier : Int32) :
    (ofRolls rolls modifier).grandTotal.toInt = valueSum rolls + modifier.toInt := by
  have base := toInt_total (Nat.lt_of_lt_of_le fits (by decide))
  have low := modifier.le_toInt
  have high := modifier.toInt_lt
  have wide := modifier.toInt_toInt64
  rw [grandTotal_ofRolls, toInt_add_of_fits (by omega) (by omega), base, wide]

/-- The totals are what they are called: no addition wraps around. -/
structure Exact (outcome : Outcome) (modifier : Int32) : Prop where
  baseTotal_eq : outcome.baseTotal.toInt = valueSum outcome.rolls
  grandTotal_eq : outcome.grandTotal.toInt = outcome.baseTotal.toInt + modifier.toInt

theorem exact_ofRolls {rolls : List UInt32} (fits : valueSum rolls < 2 ^ 62) (modifier : Int32) :
    (ofRolls rolls modifier).Exact modifier := by
  have base := toInt_total (Nat.lt_of_lt_of_le fits (by decide))
  constructor
  case baseTotal_eq => rw [baseTotal_ofRolls, rolls_ofRolls, base]
  case grandTotal_eq => rw [toInt_grandTotal fits, baseTotal_ofRolls, base]

end Outcome
end SlashDice
