import SlashDice.Dice.Refusal
import SlashDice.Dice.Token
import SlashDice.Text.LetterCase

/-!
# Commands

The text after the slash command is trimmed and lower-cased.  Nothing at all
asks for the bare roll and the word help for help; otherwise the first word has
to be in dice notation, and what follows it is the reason.
-/

namespace SlashDice

open Text

/-- What a command asks for. -/
inductive Command
  | help
  | roll (roll : Roll)
  deriving DecidableEq, Repr

/-- The first word of a text, and the rest of the text trimmed. -/
def splitFirstWord (text : List Char) : List Char × List Char :=
  (text.takeWhile fun c => !isBlank c, trim (text.dropWhile fun c => !isBlank c))

namespace Command

def helpWord : List Char :=
  "help".toList

/-- Reads a text that is trimmed and in lower case. -/
def parseNormal (text : List Char) : Except Refusal Command :=
  if text = [] then
    .ok (.roll Roll.bare)
  else if text = helpWord then
    .ok .help
  else
    match Token.scan? (splitFirstWord text).1 with
    | some token => .ok (.roll (token.toRoll (String.ofList (splitFirstWord text).2)))
    | none => .error (.malformed (String.ofList text))

@[simp]
theorem parseNormal_nil : parseNormal [] = .ok (.roll Roll.bare) :=
  rfl

@[simp]
theorem parseNormal_helpWord : parseNormal helpWord = .ok .help :=
  rfl

def parse (text : String) : Except Refusal Command :=
  parseNormal (lowercase (trim text.toList))

end Command
end SlashDice
