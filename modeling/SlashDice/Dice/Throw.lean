import SlashDice.Dice.Limits
import SlashDice.Dice.Outcome
import SlashDice.Random.Source

/-!
# Throwing dice

Only an admitted roll can be thrown.  It draws one number from one to the sides
for each die, in order, and nothing else.
-/

namespace SlashDice

theorem Limits.Admits.one_le_sides {limits : Limits} {roll : Roll}
    (admitted : limits.Admits roll) : 1 ≤ roll.sides :=
  UInt32.le_trans (by decide) admitted.minSides_le

namespace AdmittedRoll

variable {σ : Type} [Randomness σ] {limits : Limits}

def throwDice (request : AdmittedRoll limits) (source : σ) : Outcome × σ :=
  let (rolls, next) :=
    Randomness.drawDice request.roll.sides request.admitted.one_le_sides
      request.roll.count.toNat source
  (Outcome.ofRolls rolls request.roll.modifier, next)

end AdmittedRoll

/-- What diagnostic output shows of the thrower of the dice: nothing of its
source of numbers. -/
def rollerDiagnostic : String :=
  "Roller \x7b .. \x7d"

end SlashDice
