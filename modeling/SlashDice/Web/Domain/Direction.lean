import SlashDice.Web.Domain.Direction.Table

/-!
# Direction of labels

When a name has characters that are written from right to left, each of its labels
has to have one direction: it begins with a letter, ends with a letter or a digit
and marks, and has no letter of the other direction between.  From right to left
it does not mix the two kinds of digits either.
-/

namespace SlashDice
namespace Web
namespace Domain

open Text

inductive Direction
  | leftToRight
  | rightToLeft
  | european
  | arabic
  | neutral
  | mark
  deriving DecidableEq, Repr

def rightToLeftRanges : List (Nat × Nat) := CodePoints.ranges rightToLeftLines

def europeanRanges : List (Nat × Nat) := CodePoints.ranges europeanLines

def arabicRanges : List (Nat × Nat) := CodePoints.ranges arabicLines

def neutralRanges : List (Nat × Nat) := CodePoints.ranges neutralLines

def directionMarkRanges : List (Nat × Nat) := CodePoints.ranges directionMarkLines

def Direction.ofChar (c : Char) : Direction :=
  let point := c.toNat
  if inRanges point rightToLeftRanges then rightToLeft
  else if inRanges point europeanRanges then european
  else if inRanges point arabicRanges then arabic
  else if inRanges point neutralRanges then neutral
  else if inRanges point directionMarkRanges then mark
  else leftToRight

def isRightToLeft (c : Char) : Bool :=
  let direction := Direction.ofChar c
  direction == .rightToLeft || direction == .arabic

namespace Direction

/-- The directions of a label without the marks at its end. -/
def dropMarks (directions : List Direction) : List Direction :=
  (directions.reverse.dropWhile (· == mark)).reverse

def isForward (directions : List Direction) : Bool :=
  directions.all (fun direction => direction != rightToLeft && direction != arabic) &&
    (match (dropMarks directions).getLast? with
    | some last => last == leftToRight || last == european
    | none => false)

def isBackward (directions : List Direction) : Bool :=
  directions.all (· != leftToRight) &&
    !(directions.contains european && directions.contains arabic) &&
    (match (dropMarks directions).getLast? with
    | some last => last != neutral && last != mark
    | none => false)

end Direction

def hasOneDirection (label : List Char) : Bool :=
  let directions := label.map Direction.ofChar
  match directions.head? with
  | none => true
  | some .leftToRight => Direction.isForward directions
  | some .rightToLeft => Direction.isBackward directions
  | some _ => false

end Domain
end Web
end SlashDice
