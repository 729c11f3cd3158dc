import SlashDice.Dice.Refusal
import SlashDice.Dice.Roll

/-!
# Limits of the game

A roll is admitted when each die has two sides at least, one die at least is
thrown, and neither number is above its limit.  Of several broken limits the
first in this order is reported: too few sides, too few dice, too many dice,
too many sides.
-/

namespace SlashDice

/-- How many dice of how many sides may be thrown, and up to how many dice the
single values are listed. -/
structure Limits where
  maxDice : UInt32 := 1000
  maxSides : UInt32 := 100
  maxDisplayedRolls : UInt32 := 100
  deriving DecidableEq, Repr

def minSides : UInt32 := 2

def minDice : UInt32 := 1

structure Limits.Admits (limits : Limits) (roll : Roll) : Prop where
  minSides_le : minSides ≤ roll.sides
  minDice_le : minDice ≤ roll.count
  le_maxDice : roll.count ≤ limits.maxDice
  le_maxSides : roll.sides ≤ limits.maxSides

/-- A roll together with the proof that it breaks no limit. -/
structure AdmittedRoll (limits : Limits) where
  roll : Roll
  admitted : limits.Admits roll

/-- Holds a roll against the limits: it is admitted unchanged, or the first
limit that it breaks is named. -/
def Limits.check (limits : Limits) (roll : Roll) :
    Except LimitFault (AdmittedRoll limits) :=
  if fewSides : roll.sides < minSides then
    .error .tooFewSides
  else if fewDice : roll.count < minDice then
    .error .tooFewDice
  else if manyDice : limits.maxDice < roll.count then
    .error .tooManyDice
  else if manySides : limits.maxSides < roll.sides then
    .error .tooManySides
  else
    .ok ⟨roll, UInt32.not_lt.mp fewSides, UInt32.not_lt.mp fewDice,
      UInt32.not_lt.mp manyDice, UInt32.not_lt.mp manySides⟩

end SlashDice
