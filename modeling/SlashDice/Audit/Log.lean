import SlashDice.Audit.Record

/-!
# Audit logs

A log is handed the record of each throw, in a task of its own.  A record that it
cannot keep is lost: the operator is warned, and the player learns nothing of it.
-/

namespace SlashDice

/-- Why a record is not kept. -/
inductive AuditFault
  | rollTooLarge
  | writeFailed (detail : String)
  deriving DecidableEq, Repr

def AuditFault.message : AuditFault → String
  | rollTooLarge => "roll value does not fit the audit column"
  | writeFailed detail => detail

/-- A record with its values in the widths of the columns of the audit table. -/
structure AuditRow where
  entry : AuditRecord
  rolls : List Int32
  deriving DecidableEq, Repr

/-- The value of a die in a column of 32 bits with a sign. -/
def columnValue? (value : UInt32) : Option Int32 :=
  if value.toNat < 0x80000000 then some (Int32.ofNat value.toNat) else none

def AuditRow.ofRecord (entry : AuditRecord) : Except AuditFault AuditRow :=
  match entry.rolls.mapM columnValue? with
  | some rolls => .ok ⟨entry, rolls⟩
  | none => .error .rollTooLarge

/-- Where the records of throws go. -/
structure AuditLog where
  label : String
  write : AuditRecord → Except AuditFault Unit

/-- What an operator is told of a record that is lost. -/
structure AuditWarning where
  fault : AuditFault
  userId : String
  label : String
  deriving DecidableEq, Repr

/-- What comes of the tasks that hand records to a log: the records it was given, each
once for each attempt to write it, and the warnings. -/
structure AuditTrail where
  given : List AuditRecord := []
  warnings : List AuditWarning := []
  deriving DecidableEq, Repr

namespace AuditLog

def disabled : AuditLog where
  label := "disabled"
  write _ := .ok ()

/-- What an operator is told of a record that the log does not keep. -/
def loss? (auditLog : AuditLog) (entry : AuditRecord) : Option AuditWarning :=
  match auditLog.write entry with
  | .ok () => none
  | .error fault => some ⟨fault, entry.userId, auditLog.label⟩

theorem loss?_eq_some_iff {auditLog : AuditLog} {entry : AuditRecord} {warning : AuditWarning} :
    auditLog.loss? entry = some warning ↔ ∃ fault, auditLog.write entry = .error fault ∧
      warning = ⟨fault, entry.userId, auditLog.label⟩ := by
  rw [loss?]
  cases auditLog.write entry with
  | ok kept => exact iff_of_false nofun fun ⟨_, wrong, _⟩ => nomatch wrong
  | error fault =>
      constructor
      · rintro ⟨⟩
        exact ⟨fault, rfl, rfl⟩
      · rintro ⟨_, ⟨⟩, rfl⟩
        rfl

/-- The task that hands a record to the log.  What the log answers ends here: it is
dropped, but for a warning to the operator if the record is not kept. -/
def hand (auditLog : AuditLog) (trail : AuditTrail) (entry : AuditRecord) : AuditTrail where
  given := trail.given ++ [entry]
  warnings := trail.warnings ++ (auditLog.loss? entry).toList

def trailOf (auditLog : AuditLog) (entries : List AuditRecord) : AuditTrail :=
  entries.foldl auditLog.hand {}

theorem foldl_hand (auditLog : AuditLog) (trail : AuditTrail) (entries : List AuditRecord) :
    entries.foldl auditLog.hand trail =
      ⟨trail.given ++ entries, trail.warnings ++ entries.filterMap auditLog.loss?⟩ := by
  induction entries generalizing trail with
  | nil => simp
  | cons entry rest induction =>
      rw [List.foldl_cons, induction, hand]
      cases lost : auditLog.loss? entry <;> simp [lost]

/-- Whatever a log answers, it is given every record once and in order. -/
@[simp]
theorem given_trailOf (auditLog : AuditLog) (entries : List AuditRecord) :
    (auditLog.trailOf entries).given = entries := by
  simp [trailOf, foldl_hand]

/-- The warnings are of the records that the log does not keep, in order. -/
@[simp]
theorem warnings_trailOf (auditLog : AuditLog) (entries : List AuditRecord) :
    (auditLog.trailOf entries).warnings = entries.filterMap auditLog.loss? := by
  simp [trailOf, foldl_hand]

/-- Keeps a record by the query that inserts its row, whatever else the query brings
about.  A record that has no row is refused without a query. -/
def insertRecord {m : Type → Type} [Monad m] (query : AuditRow → m (Except AuditFault Unit))
    (entry : AuditRecord) : m (Except AuditFault Unit) :=
  match AuditRow.ofRecord entry with
  | .ok row => query row
  | .error fault => pure (.error fault)

/-- The log that keeps records in a table, given what happens to a row. -/
def database (insert : AuditRow → Except AuditFault Unit) : AuditLog where
  label := "postgres"
  write := insertRecord (m := Id) insert

end AuditLog
end SlashDice
