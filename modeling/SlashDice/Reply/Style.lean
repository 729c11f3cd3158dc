import SlashDice.Dice.Outcome
import SlashDice.Dice.Refusal
import SlashDice.Dice.Roll
import SlashDice.Reply.Message

/-!
# Wording of the replies

The reply to a throw lists the die, the values, the totals if there is a
modifier, and the reason if there is one.  A refusal has one field that says
why, and the help has two.
-/

namespace SlashDice

open Text

/-- The settings of the wording: up to how many dice the single values are
listed, and how the slash command is called. -/
structure ReplyStyle where
  maxDisplayedRolls : UInt32
  commandName : String
  deriving DecidableEq, Repr

/-- The footer of a reply to a throw of two-sided dice. -/
def coinFooter : String :=
  "This die is commonly known as a coin"

/-- What stands for the values of too many dice. -/
def tooManyRolls : String :=
  "Too many dice to display"

def mention (user : String) : String :=
  "<@" ++ user ++ ">"

def numeral (value : Int) : String :=
  String.ofList (Numeral.ofInt value)

def listedRolls (rolls : List UInt32) : String :=
  String.intercalate ", " (rolls.map fun value => numeral value.toNat)

namespace ReplyStyle

def rollsValue (style : ReplyStyle) (roll : Roll) (outcome : Outcome) : String :=
  if style.maxDisplayedRolls < roll.count then tooManyRolls
  else listedRolls outcome.rolls

def modifierFields (roll : Roll) (outcome : Outcome) : List Field :=
  if roll.modifier = 0 then
    []
  else
    [⟨"Base Total", numeral outcome.baseTotal.toInt, true⟩,
      ⟨"Modifier", numeral roll.modifier.toInt, true⟩,
      ⟨"Grand Total", numeral outcome.grandTotal.toInt, true⟩]

def reasonFields : Option String → List Field
  | none => []
  | some reason => if reason = "" then [] else [⟨"Reason", reason, false⟩]

def success (style : ReplyStyle) (user : String) (roll : Roll) (outcome : Outcome) :
    Message where
  visibility := .channel
  attachment :=
    { title := some ("Rolling " ++ roll.expression)
      tone := .success
      text := mention user ++ " rolled *" ++ numeral outcome.grandTotal.toInt ++ "*"
      fallback :=
        mention user ++ " rolled " ++ roll.expression ++ ": " ++
          numeral outcome.grandTotal.toInt
      fields :=
        ⟨"Die", roll.dieLabel, true⟩ ::
          ⟨if roll.count = 1 then "Roll" else "Rolls", style.rollsValue roll outcome, true⟩ ::
            (modifierFields roll outcome ++ reasonFields roll.reason)
      footer := if roll.sides = 2 then some coinFooter else none
      markupIn := [.text] }

@[simp]
theorem title_success (style : ReplyStyle) (user : String) (roll : Roll) (outcome : Outcome) :
    (style.success user roll outcome).attachment.title = some ("Rolling " ++ roll.expression) :=
  rfl

@[simp]
theorem text_success (style : ReplyStyle) (user : String) (roll : Roll) (outcome : Outcome) :
    (style.success user roll outcome).attachment.text =
      mention user ++ " rolled *" ++ numeral outcome.grandTotal.toInt ++ "*" :=
  rfl

@[simp]
theorem footer_success (style : ReplyStyle) (user : String) (roll : Roll) (outcome : Outcome) :
    (style.success user roll outcome).attachment.footer =
      if roll.sides = 2 then some coinFooter else none :=
  rfl

def refusalTitle : Refusal → String
  | .malformed _ => "Unrecognized roll"
  | .outOfLimits _ => "Invalid roll"

/-- The explanation of a refusal, with two examples if the text was no dice
notation. -/
def refusalValue (style : ReplyStyle) (refusal : Refusal) : String :=
  match refusal with
  | .malformed _ =>
    refusal.message ++ ". Try `" ++ style.commandName ++ " 2d6+1` or `" ++
      style.commandName ++ " help`."
  | .outOfLimits _ => refusal.message

def failure (style : ReplyStyle) (user : String) (refusal : Refusal) : Message where
  visibility := .sender
  attachment :=
    { title := none
      tone := .error
      text := mention user ++ " that roll didn't work"
      fallback := refusalTitle refusal ++ ": " ++ style.refusalValue refusal
      fields := [⟨refusalTitle refusal, style.refusalValue refusal, false⟩]
      footer := none
      markupIn := [.text, .fields] }

def basicUsage (style : ReplyStyle) : String :=
  "`" ++ style.commandName ++ "` rolls a d20.\n`" ++
    style.commandName ++ " d6` rolls one six-sided die.\n`" ++
    style.commandName ++ " 3d6` rolls three six-sided dice."

def advancedUsage (style : ReplyStyle) : String :=
  "`" ++ style.commandName ++ " 2d8+5` adds 5 to the total, `" ++
    style.commandName ++ " 1d20-1` subtracts 1.\n" ++
    "Anything after the dice is kept as the reason: `" ++
    style.commandName ++ " 1d20+3 perception check`."

def help (style : ReplyStyle) (user : String) : Message where
  visibility := .sender
  attachment :=
    { title := some "How to roll"
      tone := .info
      text := mention user ++ " here is how to use " ++ style.commandName
      fallback :=
        "Usage: " ++ style.commandName ++ " [count]d<sides>[+/-modifier] [reason]"
      fields :=
        [⟨"Basic usage", style.basicUsage, false⟩,
          ⟨"Modifiers and reasons", style.advancedUsage, false⟩]
      footer := none
      markupIn := [.text, .fields] }

end ReplyStyle
end SlashDice
