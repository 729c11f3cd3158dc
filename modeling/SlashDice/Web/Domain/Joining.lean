import SlashDice.Web.Domain.Composition
import SlashDice.Web.Domain.Joining.Table

/-!
# Joiners and marks in labels

Two characters without a picture, the joiner and the non-joiner, only change how
their neighbours join.  They may stand after the mark that takes the vowel from a
letter of an Indic script; the non-joiner may also stand between two letters that
would join otherwise.  No label begins with a mark.
-/

namespace SlashDice
namespace Web
namespace Domain

open Text

def bothSidesRanges : List (Nat × Nat) := CodePoints.ranges bothSidesLines

def leftSideRanges : List (Nat × Nat) := CodePoints.ranges leftSideLines

def rightSideRanges : List (Nat × Nat) := CodePoints.ranges rightSideLines

def transparentRanges : List (Nat × Nat) := CodePoints.ranges transparentLines

def labelMarkRanges : List (Nat × Nat) := CodePoints.ranges labelMarkLines

/-- The character that keeps its neighbours from joining. -/
def nonJoiner : Char := '\u200c'

def joiner : Char := '\u200d'

/-- The class of the marks that take the vowel from a letter. -/
def vowelKillerClass : Nat := 9

def isTransparent (c : Char) : Bool :=
  inRanges c.toNat transparentRanges

def joinsNext (c : Char) : Bool :=
  inRanges c.toNat bothSidesRanges || inRanges c.toNat leftSideRanges

def joinsPrevious (c : Char) : Bool :=
  inRanges c.toNat bothSidesRanges || inRanges c.toNat rightSideRanges

/-- Whether the nearest letters would join across a place; what stands before it
has the latest character first. -/
def wouldJoin (before after : List Char) : Bool :=
  (before.find? fun c => !isTransparent c).any joinsNext &&
    (after.find? fun c => !isTransparent c).any joinsPrevious

/-- Whether every joiner and non-joiner stands where it may, in a text after some
characters, the latest first. -/
def joinersFit (before : List Char) : List Char → Bool
  | [] => true
  | c :: rest =>
    (if c = joiner ∨ c = nonJoiner then
      before.head?.any (fun mark => markClass mark.toNat == vowelKillerClass) ||
        (c == nonJoiner && wouldJoin before rest)
    else
      true) && joinersFit (c :: before) rest

def beginsWithMark (label : List Char) : Bool :=
  label.head?.any fun c => inRanges c.toNat labelMarkRanges

end Domain
end Web
end SlashDice
