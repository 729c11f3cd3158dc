import SlashDice.Reply.Message
import SlashDice.Text.Numeral
import SlashDice.Text.Pieces

/-!
# Reading a reply

What a reader finds out from a message about a throw: the expression behind the opening
of its title, the values that its second field lists, the number in the field with a
title, and the total that its headline shows between asterisks.
-/

namespace SlashDice

open Text

/-- What stands between the separators of a list: a comma and a space. -/
def listedItems : List Char → List (List Char)
  | [] => [[]]
  | ',' :: ' ' :: rest => [] :: listedItems rest
  | c :: rest =>
    match listedItems rest with
    | [] => [[c]]
    | item :: more => (c :: item) :: more

namespace Message

/-- What the title shows after its opening. -/
def expression? (message : Message) : Option String :=
  message.attachment.title.bind fun title =>
    (dropOpening? "Rolling ".toList title.toList).map String.ofList

/-- The values that the second field lists, if it lists numbers. -/
def rolls? (message : Message) : Option (List UInt32) :=
  message.attachment.fields[1]?.bind fun field =>
    (listedItems field.value.toList).mapM Numeral.uint32?

def value? (message : Message) (title : String) : Option String :=
  (message.attachment.fields.find? fun field => field.title == title).map Field.value

def number? (message : Message) (title : String) : Option Int :=
  (message.value? title).bind fun value => Numeral.integer? value.toList

/-- The number between the last two asterisks of the headline. -/
def total? (message : Message) : Option Int :=
  (cutLast? '*' message.attachment.text.toList).bind fun last =>
    (cutLast? '*' last.1).bind fun shown => Numeral.integer? shown.2

end Message
end SlashDice
