import SlashDice.Web.Domain.Composition.Table

/-!
# Composing marks

Characters and marks that follow them are put together into single characters
where there are such, and the marks of different classes into one order, so that
a text which looks the same is the same.  Characters of the Korean script are put
together by a rule.
-/

namespace SlashDice
namespace Web
namespace Domain

open Text

structure Composed where
  whole : Nat
  base : Nat
  mark : Nat
  deriving DecidableEq, Repr

def Composed.ofEntry (entry : List Char) : Option Composed := do
  let (whole, parts) ← cutFirst? '=' entry
  let (base, mark) ← cutFirst? '.' parts
  return ⟨CodePoints.number whole, CodePoints.number base, CodePoints.number mark⟩

structure MarkRange where
  range : Nat × Nat
  markClass : Nat
  deriving DecidableEq, Repr

def MarkRange.ofEntry (entry : List Char) : Option MarkRange := do
  let (range, markClass) ← cutFirst? '=' entry
  return ⟨CodePoints.range range, CodePoints.number markClass⟩

def compositions : List Composed :=
  (CodePoints.entries compositionLines).filterMap Composed.ofEntry

def markRanges : List MarkRange :=
  (CodePoints.entries markClassLines).filterMap MarkRange.ofEntry

/-- The class of a mark; characters that are none have the class zero. -/
def markClass (point : Nat) : Nat :=
  match markRanges.find? fun marks => inRanges point [marks.range] with
  | some marks => marks.markClass
  | none => 0

namespace Composition

def firstSyllable : Nat := 0xAC00

def firstLeading : Nat := 0x1100

def firstVowel : Nat := 0x1161

/-- The code point before the first trailing letter, which stands for none. -/
def noTrailing : Nat := 0x11A7

/-- The two parts of a character, if it is composed: those of the table, and of a
syllable its trailing letter and the rest, or its leading letter and its vowel. -/
def parts (point : Nat) : List Nat :=
  if point < 0x80 then
    [point]
  else if firstSyllable ≤ point ∧ point < firstSyllable + 11172 then
    let index := point - firstSyllable
    if index % 28 = 0 then [firstLeading + index / 588, firstVowel + index / 28 % 21]
    else [point - index % 28, noTrailing + index % 28]
  else
    match compositions.find? fun composed => composed.whole == point with
    | some composed => [composed.base, composed.mark]
    | none => [point]

/-- A text of characters that are not composed.  No character is composed more
than three times over. -/
def decompose (points : List Nat) : List Nat :=
  Nat.repeat (fun points => points.flatMap parts) 3 points

/-- Puts a character before a text whose marks are in order.  A mark goes behind
the marks of lower classes. -/
def insert (point : Nat) : List Nat → List Nat
  | [] => [point]
  | next :: rest =>
    if markClass next ≠ 0 ∧ markClass next < markClass point then
      next :: insert point rest
    else
      point :: next :: rest

def order (points : List Nat) : List Nat :=
  points.foldr insert []

/-- The syllable of two letters, or of a syllable without a trailing letter and
one. -/
def syllable? (base mark : Nat) : Option Nat :=
  if firstLeading ≤ base ∧ base < firstLeading + 19 ∧ firstVowel ≤ mark ∧
      mark < firstVowel + 21 then
    some (firstSyllable + (base - firstLeading) * 588 + (mark - firstVowel) * 28)
  else if firstSyllable ≤ base ∧ base < firstSyllable + 11172 ∧
      (base - firstSyllable) % 28 = 0 ∧ noTrailing < mark ∧ mark < noTrailing + 28 then
    some (base + (mark - noTrailing))
  else
    none

def whole? (base mark : Nat) : Option Nat :=
  if mark < 0x300 then none
  else (syllable? base mark).or
    ((compositions.find? fun composed => composed.base == base && composed.mark == mark).map
      Composed.whole)

/-- Puts a text together that follows a character, with the marks that stand
between and could not be put into it, the latest first.  Such marks stand in the
way of every mark that is of no higher class. -/
def composeAfter (base : Nat) (between : List Nat) : List Nat → List Nat
  | [] => base :: between.reverse
  | point :: rest =>
    let free := match between with
      | [] => true
      | last :: _ => markClass last < markClass point
    match if free then whole? base point else none with
    | some whole => composeAfter whole between rest
    | none =>
      if markClass point = 0 then base :: (between.reverse ++ composeAfter point [] rest)
      else composeAfter base (point :: between) rest

/-- Puts a text together whose characters are not composed and in order.  Marks at
its beginning stay as they are. -/
def composeFrom : List Nat → List Nat
  | [] => []
  | point :: rest =>
    if markClass point = 0 then composeAfter point [] rest else point :: composeFrom rest

end Composition

def compose (text : List Char) : List Char :=
  (Composition.composeFrom (Composition.order (Composition.decompose
    (text.map Char.toNat)))).map Char.ofNat

end Domain
end Web
end SlashDice
