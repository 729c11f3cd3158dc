import SlashDice.Text.Numeral
import SlashDice.Text.Pieces

/-!
# Names of variables

The name of a variable is the name of a setting, and it may go on with steps into
the value of the setting: a full stop with a name steps to a member, a number in
brackets to an item.  A value with members or items is no text any more, so only
the first step matters.  A number below zero would count from the end of items that
are not there, and a large one would need more items than can be held.
-/

namespace SlashDice

open Text

/-- What a variable gives a value to: a setting as a whole, one of its members, or
one of its items. -/
inductive Place
  | whole
  | member (name : String)
  | item
  deriving DecidableEq, Repr

/-- The name of a variable: a setting, the place in it, and whether one of the steps
to the place is to an item that cannot be there. -/
structure VariableName where
  setting : String
  place : Place
  isOutOfReach : Bool
  deriving DecidableEq, Repr

namespace VariableName

/-- A part of a name between full stops: a name and the numbers of items. -/
structure Part where
  name : List Char
  items : List Int
  deriving DecidableEq, Repr

def isNameChar (c : Char) : Bool :=
  c.isAlphanum || c == ' ' || c == '_' || c == '-'

def isFiller (c : Char) : Bool :=
  c == ' ' || c == '\t'

/-- Reads the number of an item, perhaps with blanks around it, and the bracket that
closes it. -/
def item? (text : List Char) : Option Int :=
  match text.reverse with
  | ']' :: inner =>
    let number := (inner.dropWhile isFiller).reverse.dropWhile isFiller
    if number.head? = some '+' then none else (Numeral.int64? number).map Int64.toInt
  | _ => none

def Part.ofText? (text : List Char) : Option Part :=
  match pieces '[' text with
  | [] => none
  | name :: items =>
    if name ≠ [] ∧ name.all isNameChar = true then
      (items.mapM item?).map fun numbers => ⟨name, numbers⟩
    else
      none

def maxItems : Nat := UInt32.size

/-- Whether a value can have the item with a number. -/
def isHeld (number : Int) : Bool :=
  0 ≤ number && number < maxItems

def placeOf (first : Part) (others : List Part) : Place :=
  if first.items ≠ [] then .item
  else
    match others with
    | [] => .whole
    | member :: _ => .member (String.ofList member.name)

/-- Reads the name of a variable; a text that is none names no setting. -/
def ofText? (text : List Char) : Option VariableName :=
  match (pieces '.' text).mapM Part.ofText? with
  | some (first :: others) =>
    some
      { setting := String.ofList first.name
        place := placeOf first others
        isOutOfReach := (first :: others).any fun part => !part.items.all isHeld }
  | _ => none

end VariableName
end SlashDice
