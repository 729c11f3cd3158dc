import SlashDice.Install.WebApi
import SlashDice.Text.Markup

/-!
# Completing an installation

The code that comes back from an approval is exchanged for a token, and the
token tells the workspace.  The page at the end names it.
-/

namespace SlashDice

open Text WebApi

/-- The workspace that the service was installed into. -/
structure Workspace where
  teamId : Option String
  teamName : Option String
  url : Option String
  deriving DecidableEq, Repr

namespace Workspace

/-- The workspace that the two answers tell; the second one is the stronger. -/
def ofAnswers (exchanged : ExchangeAnswer) (identity : IdentityAnswer) : Workspace where
  teamId := identity.teamId <|> exchanged.team.map Team.id
  teamName := identity.team <|> exchanged.team.map Team.name
  url := identity.url

def install (transport : Transport) (registration : Registration) (code : String) :
    Trace Workspace :=
  (obtainToken transport registration code).andThen fun exchanged =>
    match exchanged.accessToken with
    | none => .fail .noToken
    | some token =>
      (identify transport registration token).andThen fun identity =>
        ⟨[], .ok (ofAnswers exchanged identity)⟩

def pageName (workspace : Workspace) : List Char :=
  match workspace.teamName with
  | some name => Markup.escape name.toList
  | none => "your workspace".toList

def pageOpening : List Char :=
  ("<!DOCTYPE html><html><head><meta charset=\"utf-8\"><title>Dice Roll installed</title></head>" ++
    "<body><h1>Dice Roll is installed</h1><p>Type <code>/roll</code> in ").toList

def pageClosing : List Char :=
  " to get started.</p></body></html>".toList

def page (workspace : Workspace) : String :=
  String.ofList (pageOpening ++ workspace.pageName ++ pageClosing)

end Workspace
end SlashDice
