import SlashDice.Audit.DatabaseAddress
import SlashDice.Audit.Log
import SlashDice.Dice.Game
import SlashDice.Install.Workspace
import SlashDice.Settings.Basic
import SlashDice.Signature
import SlashDice.Web.Failure

/-!
# The service

The service is made of its settings and an audit log.  What a request meets
from outside is data: the time, a random number for installations, and the world
that answers calls.  What a request brings about is data as well: the response,
the records that the audit log is given, the warnings of those that are lost, the
calls, and the next state of the dice.
-/

namespace SlashDice

open Web

/-- The service. -/
structure App where
  settings : Settings
  auditLog : AuditLog

/-- What a request meets from outside. -/
structure World where
  now : Int64
  nonce : UInt64
  transport : WebApi.Transport

/-- What a request brings about, and whether the clock is read for it. -/
structure Effect (σ : Type) where
  response : Response
  records : List AuditRecord := []
  warnings : List AuditWarning := []
  calls : List WebApi.Call := []
  readsClock : Bool := false
  source : σ

namespace App

def game (app : App) : Game :=
  ⟨app.settings.limits, app.settings.commandName⟩

def verifier (app : App) : Signature.Verifier :=
  ⟨app.settings.signingSecret, app.settings.mode, app.settings.signatureTolerance⟩

def registration? (app : App) : Option Registration :=
  Registration.ofSettings? app.settings

inductive StartupFault
  | badDatabaseAddress (fault : DatabaseAddressFault)
  | noConnection
  deriving DecidableEq, Repr

def StartupFault.message : StartupFault → String
  | badDatabaseAddress fault => fault.message
  | noConnection => "pool timed out while waiting for an open connection"

/-- The service for some settings, given the log behind a database address, if the
database answers.  No log is kept in development or without an address. -/
def start (settings : Settings) (connect : String → Option AuditLog) :
    Except StartupFault App :=
  match settings.mode.writesAuditLog, settings.databaseUrl with
  | true, some address =>
    match DatabaseAddress.check address with
    | .error fault => .error (.badDatabaseAddress fault)
    | .ok () =>
      match connect address with
      | some auditLog => .ok ⟨settings, auditLog⟩
      | none => .error .noConnection
  | _, _ => .ok ⟨settings, .disabled⟩

end App
end SlashDice
