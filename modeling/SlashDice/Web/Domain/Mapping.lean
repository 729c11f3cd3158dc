import SlashDice.Web.Domain.Mapping.Table

/-!
# Mapping the characters of a host

Before the name of a host is looked at, each of its characters is kept, left out,
or written in other characters: in lower case, without its width, its circle and
the like.  The remaining characters are refused.
-/

namespace SlashDice
namespace Web
namespace Domain

open Text

/-- A run of characters that are written as a run of others: each `stride`-th code
point from `first` to `last`, and in the same order those from `target`. -/
structure MappedRun where
  first : Nat
  last : Nat
  stride : Nat
  target : Nat
  deriving DecidableEq, Repr

/-- Consecutive code points with what is written for each. -/
structure MappedList where
  first : Nat
  targets : List (List Nat)
  deriving DecidableEq, Repr

namespace MappedRun

/-- Reads the entry of a run whose ends are separated by a mark. -/
def ofEnds (entry : List Char) (mark : Char) (stride : Nat) : Option MappedRun := do
  let (ends, target) ← cutFirst? '>' entry
  let (first, last) ← cutFirst? mark ends
  return ⟨CodePoints.number first, CodePoints.number last, stride, CodePoints.number target⟩

def ofEntry (entry : List Char) : Option MappedRun :=
  (ofEnds entry '-' 1).or (ofEnds entry ':' 2)

def find? (run : MappedRun) (point : Nat) : Option (List Nat) :=
  if run.first ≤ point ∧ point ≤ run.last ∧ (point - run.first) % run.stride = 0 then
    some [run.target + (point - run.first)]
  else
    none

end MappedRun

namespace MappedList

/-- Reads the entry of consecutive code points. -/
def ofEntry (entry : List Char) : Option MappedList := do
  let (first, targets) ← cutFirst? '=' entry
  return ⟨CodePoints.number first,
    (pieces ',' targets).map fun target => (pieces '.' target).map CodePoints.number⟩

/-- What is written for a code point, if it is among the consecutive ones. -/
def find? (listed : MappedList) (point : Nat) : Option (List Nat) :=
  if point < listed.first then none else listed.targets[point - listed.first]?

end MappedList

def keptRanges : List (Nat × Nat) :=
  CodePoints.ranges keptLines

def leftOutRanges : List (Nat × Nat) :=
  CodePoints.ranges leftOutLines

def mappedRuns : List MappedRun :=
  (CodePoints.entries runLines).filterMap MappedRun.ofEntry

def mappedLists : List MappedList :=
  (CodePoints.entries listedLines).filterMap MappedList.ofEntry

def isKept (c : Char) : Bool :=
  if c.toNat < 0x80 then !c.isUpper else inRanges c.toNat keptRanges

/-- What is written for a character outside ASCII that is not kept. -/
def otherFor? (point : Nat) : Option (List Nat) :=
  if inRanges point leftOutRanges then some []
  else (mappedRuns.findSome? (·.find? point)).or (mappedLists.findSome? (·.find? point))

/-- What is written for a character; a refused one has nothing. -/
def mapped? (c : Char) : Option (List Char) :=
  if isKept c then some [c]
  else if c.toNat < 0x80 then some [c.toLower]
  else (otherFor? c.toNat).map fun points => points.map Char.ofNat

/-- What is written for a text, if none of its characters is refused. -/
def mapText? (text : List Char) : Option (List Char) :=
  (text.mapM mapped?).map List.flatten

end Domain
end Web
end SlashDice
