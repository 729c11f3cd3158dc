/-!
# Deployment modes

Where the service runs decides whether signatures are checked, whether rolls
are written to the audit log, and how much a rejected sender is told.
-/

namespace SlashDice

/-- Where the service runs. -/
inductive Mode
  | development
  | staging
  | production
  deriving DecidableEq, Repr

namespace Mode

def name : Mode → String
  | development => "development"
  | staging => "staging"
  | production => "production"

def ofName? : String → Option Mode
  | "development" => some development
  | "staging" => some staging
  | "production" => some production
  | _ => none

theorem ofName?_eq_some_iff {given : String} {mode : Mode} :
    ofName? given = some mode ↔ given = mode.name := by
  constructor
  · intro read
    unfold ofName? at read
    split at read <;> cases read <;> rfl
  · rintro rfl
    cases mode <;> rfl

def verifiesSignatures : Mode → Bool
  | development => false
  | staging => true
  | production => true

def writesAuditLog : Mode → Bool
  | development => false
  | staging => true
  | production => true

end Mode
end SlashDice
