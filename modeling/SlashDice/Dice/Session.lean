import SlashDice.Dice.Game

/-!
# Sessions

A session is a sequence of calls to one game.  Each call plays a command, or plays
and answers it, with the source of numbers as the calls before it leave it.
-/

namespace SlashDice
namespace Session

variable {σ : Type} [Randomness σ]

/-- What is asked of a game: to play a command, or to play it and to answer the
player. -/
inductive Call
  | play (text : String)
  | answer (text user : String)
  deriving DecidableEq, Repr

inductive Reply
  | turn (turn : Turn)
  | message (message : Message)
  deriving DecidableEq, Repr

def Call.text : Call → String
  | play text => text
  | answer text _ => text

def call (game : Game) (source : σ) : Call → Reply × σ
  | .play text =>
    let (turn, next) := game.play text source
    (.turn turn, next)
  | .answer text user =>
    let (message, next) := game.answer text user source
    (.message message, next)

def replies (game : Game) : List Call → σ → List Reply
  | [], _ => []
  | first :: rest, source =>
    let (reply, next) := call game source first
    reply :: replies game rest next

def turns (game : Game) : List Call → σ → List Turn
  | [], _ => []
  | first :: rest, source =>
    let (turn, next) := game.play first.text source
    turn :: turns game rest next

@[simp]
theorem turns_cons (game : Game) (first : Call) (rest : List Call) (source : σ) :
    turns game (first :: rest) source =
      (game.play first.text source).1 :: turns game rest (game.play first.text source).2 :=
  rfl

end Session
end SlashDice
