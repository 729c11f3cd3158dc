/-!
# Refusals

Why a command is not rolled: its text is no dice notation, or the roll it asks
for is outside the limits of the game.
-/

namespace SlashDice

inductive LimitFault
  | tooFewSides
  | tooFewDice
  | tooManyDice
  | tooManySides
  deriving DecidableEq, Repr

def LimitFault.message : LimitFault → String
  | .tooFewSides => "die must have at least 2 sides"
  | .tooFewDice => "must roll at least one die"
  | .tooManyDice => "exceeds maximum dice count"
  | .tooManySides => "exceeds maximum side count"

/-- Why a command is not rolled. -/
inductive Refusal
  | malformed (text : String)
  | outOfLimits (fault : LimitFault)
  deriving DecidableEq, Repr

namespace Refusal

def message : Refusal → String
  | malformed text => "`" ++ text ++ "` is not valid dice notation"
  | outOfLimits fault => fault.message

def limitFault? : Refusal → Option LimitFault
  | malformed _ => none
  | outOfLimits fault => some fault

end Refusal
end SlashDice
