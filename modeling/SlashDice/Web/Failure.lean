import SlashDice.Web.Exchange

/-!
# Failures of a request

A request fails because of what it asks, because of the settings of the service,
or because another service failed.  The details of the settings are not shown.
-/

namespace SlashDice
namespace Web

/-- Why a request fails. -/
inductive Failure
  | invalid (message : String)
  | misconfigured (message : String)
  | external (message : String)
  deriving DecidableEq, Repr

namespace Failure

def message : Failure → String
  | invalid message => "Validation error: " ++ message
  | misconfigured message => "Configuration error: " ++ message
  | external message => "External service error: " ++ message

def status : Failure → Nat
  | invalid _ => 400
  | misconfigured _ => 500
  | external _ => 502

def publicMessage : Failure → String
  | invalid message => message
  | misconfigured _ => "Configuration error"
  | external message => message

def response (failure : Failure) : Response :=
  .json failure.status
    (.record [("success", .bool false), ("error", .text failure.publicMessage)])

@[simp]
theorem status_response (failure : Failure) : failure.response.status = failure.status :=
  rfl

end Failure
end Web
end SlashDice
