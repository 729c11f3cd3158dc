/-!
# Outcomes

The values of the thrown dice in order, their sum, and that sum with the
modifier, both in 64 bits.
-/

namespace SlashDice

structure Outcome where
  rolls : List UInt32
  baseTotal : Int64
  grandTotal : Int64
  deriving DecidableEq, Repr

namespace Outcome

/-- The sum of the values of some dice, added up one after the other. -/
def total (rolls : List UInt32) : Int64 :=
  rolls.foldl (fun sum value => sum + Int64.ofNat value.toNat) 0

def ofRolls (rolls : List UInt32) (modifier : Int32) : Outcome where
  rolls := rolls
  baseTotal := total rolls
  grandTotal := total rolls + modifier.toInt64

@[simp]
theorem rolls_ofRolls (rolls : List UInt32) (modifier : Int32) :
    (ofRolls rolls modifier).rolls = rolls :=
  rfl

@[simp]
theorem baseTotal_ofRolls (rolls : List UInt32) (modifier : Int32) :
    (ofRolls rolls modifier).baseTotal = total rolls :=
  rfl

@[simp]
theorem grandTotal_ofRolls (rolls : List UInt32) (modifier : Int32) :
    (ofRolls rolls modifier).grandTotal = total rolls + modifier.toInt64 :=
  rfl

end Outcome
end SlashDice
