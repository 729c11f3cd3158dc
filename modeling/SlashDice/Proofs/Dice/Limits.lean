import SlashDice.Dice.Limits
import SlashDice.Proofs.OrderedChecks

/-!
# The limits as checks in order

A roll is held against four conditions one after the other.  It is admitted as it
is when all of them hold, and otherwise the first one that does not is named.
-/

namespace SlashDice
namespace Limits

variable {limits : Limits} {roll : Roll}

/-- The conditions on a roll, in the order in which they are checked. -/
def checks (limits : Limits) (roll : Roll) : List (Check LimitFault) :=
  [⟨.tooFewSides, 2 ≤ roll.sides⟩,
    ⟨.tooFewDice, 1 ≤ roll.count⟩,
    ⟨.tooManyDice, roll.count ≤ limits.maxDice⟩,
    ⟨.tooManySides, roll.sides ≤ limits.maxSides⟩]

theorem allHold_checks_iff : Check.AllHold (limits.checks roll) ↔ limits.Admits roll := by
  simp only [checks, Check.allHold_cons]
  constructor
  · rintro ⟨sides, dice, fewDice, fewSides, -⟩
    exact ⟨sides, dice, fewDice, fewSides⟩
  · rintro ⟨sides, dice, fewDice, fewSides⟩
    exact ⟨sides, dice, fewDice, fewSides, List.forall_mem_nil _⟩

theorem check_decides (limits : Limits) (roll : Roll) :
    Check.Decides (limits.checks roll) (limits.check roll) := by
  refine Check.decides_dite UInt32.not_le.symm fun _ => ?_
  refine Check.decides_dite UInt32.not_le.symm fun _ => ?_
  refine Check.decides_dite UInt32.not_le.symm fun _ => ?_
  refine Check.decides_dite UInt32.not_le.symm fun _ => ?_
  exact Check.decides_nil _

theorem roll_of_check {request : AdmittedRoll limits} (admitted : limits.check roll = .ok request) :
    request.roll = roll := by
  unfold check at admitted
  repeat
    split at admitted
    next => cases admitted
  cases admitted
  rfl

end Limits
end SlashDice
