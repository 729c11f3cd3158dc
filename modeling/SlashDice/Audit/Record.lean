import SlashDice.Calendar
import SlashDice.Dice.Outcome
import SlashDice.Dice.Roll
import SlashDice.Json.Value

/-!
# Audit records

What is kept of a throw: who threw, what was thrown and what it showed.
-/

namespace SlashDice

open Json

/-- One throw in the audit log. -/
structure AuditRecord where
  userId : String
  teamId : Option String
  count : UInt32
  sides : UInt32
  modifier : Int32
  rolls : List UInt32
  total : Int64
  reason : Option String
  rolledAt : Instant
  deriving DecidableEq, Repr

namespace AuditRecord

def ofThrow (userId : String) (teamId : Option String) (roll : Roll) (outcome : Outcome)
    (rolledAt : Instant) : AuditRecord where
  userId := userId
  teamId := teamId
  count := roll.count
  sides := roll.sides
  modifier := roll.modifier
  rolls := outcome.rolls
  total := outcome.grandTotal
  reason := roll.reason
  rolledAt := rolledAt

def toJson (entry : AuditRecord) : Value :=
  .record
    [("user_id", .text entry.userId),
      ("team_id", .ofOption .text entry.teamId),
      ("count", .nat entry.count.toNat),
      ("sides", .nat entry.sides.toNat),
      ("modifier", .int entry.modifier.toInt),
      ("rolls", .list (entry.rolls.map fun value => .nat value.toNat)),
      ("total", .int entry.total.toInt),
      ("reason", .ofOption .text entry.reason),
      ("rolled_at", .text entry.rolledAt.text)]

end AuditRecord
end SlashDice
