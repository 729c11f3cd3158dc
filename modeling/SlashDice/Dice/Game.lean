import SlashDice.Dice.Command
import SlashDice.Dice.Throw
import SlashDice.Reply.Style

/-!
# Playing commands

A command is read, held against the limits, thrown and answered.  Only a roll
that passes every check draws from the random source.
-/

namespace SlashDice

inductive Turn
  | help
  | rejected (refusal : Refusal)
  | rolled (roll : Roll) (outcome : Outcome)
  deriving DecidableEq, Repr

/-- The limits of the game and the name of the slash command. -/
structure Game where
  limits : Limits
  commandName : String
  deriving DecidableEq, Repr

namespace Game

variable {σ : Type} [Randomness σ]

def playRoll (game : Game) (roll : Roll) (source : σ) : Turn × σ :=
  match game.limits.check roll with
  | .error fault => (.rejected (.outOfLimits fault), source)
  | .ok request =>
    let (outcome, next) := request.throwDice source
    (.rolled request.roll outcome, next)

def play (game : Game) (text : String) (source : σ) : Turn × σ :=
  match Command.parse text with
  | .ok .help => (.help, source)
  | .ok (.roll roll) => game.playRoll roll source
  | .error refusal => (.rejected refusal, source)

def style (game : Game) : ReplyStyle :=
  ⟨game.limits.maxDisplayedRolls, game.commandName⟩

def reply (game : Game) (turn : Turn) (user : String) : Message :=
  match turn with
  | .help => game.style.help user
  | .rejected refusal => game.style.failure user refusal
  | .rolled roll outcome => game.style.success user roll outcome

@[simp]
theorem reply_rolled (game : Game) (roll : Roll) (outcome : Outcome) (user : String) :
    game.reply (.rolled roll outcome) user = game.style.success user roll outcome :=
  rfl

def answer (game : Game) (text user : String) (source : σ) : Message × σ :=
  let (turn, next) := game.play text source
  (game.reply turn user, next)

end Game
end SlashDice
