import SlashDice.Text.Blank
import SlashDice.Text.Numeral

/-!
# Rolls

A roll says how many dice of how many sides to throw, what to add to their sum,
and, if the player gave one, the reason.  Its expression is the usual dice
notation, such as `2d8+5`.
-/

namespace SlashDice

open Text

/-- What to throw, not yet held against any limit. -/
structure Roll where
  count : UInt32
  sides : UInt32
  modifier : Int32
  reason : Option String := none
  deriving DecidableEq, Repr

namespace Roll

/-- The roll of a command without any text: one die of twenty sides. -/
def bare : Roll where
  count := 1
  sides := 20
  modifier := 0

/-- The roll with another reason; a blank text is no reason. -/
def withReason (roll : Roll) (reason : String) : Roll :=
  { roll with reason := if trim reason.toList = [] then none else some reason }

@[simp]
theorem count_withReason (roll : Roll) (reason : String) :
    (roll.withReason reason).count = roll.count :=
  rfl

@[simp]
theorem sides_withReason (roll : Roll) (reason : String) :
    (roll.withReason reason).sides = roll.sides :=
  rfl

@[simp]
theorem modifier_withReason (roll : Roll) (reason : String) :
    (roll.withReason reason).modifier = roll.modifier :=
  rfl

def dieLabel (roll : Roll) : String :=
  String.ofList ('d' :: Numeral.ofNat roll.sides.toNat)

/-- The characters of a modifier: none for zero, else its sign and magnitude. -/
def modifierText (modifier : Int32) : List Char :=
  if modifier = 0 then [] else Numeral.ofIntSigned modifier.toInt

/-- The roll in dice notation, without its reason. -/
def expression (roll : Roll) : String :=
  String.ofList
    (Numeral.ofNat roll.count.toNat ++
      'd' :: (Numeral.ofNat roll.sides.toNat ++ modifierText roll.modifier))

end Roll
end SlashDice
