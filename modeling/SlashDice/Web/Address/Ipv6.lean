import SlashDice.Web.Address.Ipv4

/-!
# Addresses of 128 bits

Eight groups of up to four hexadecimal digits with colons between.  One or more
groups of zeros may be left out between two colons, and the last two groups may be
written as an address of 32 bits.  The text leaves out the longest run of two or
more zeros, the first of several.
-/

namespace SlashDice
namespace Web
namespace Ipv6

open Text

def group? (text : List Char) : Option Nat :=
  if text ≠ [] ∧ text.length ≤ 4 then Ipv4.ofDigits? 16 text else none

/-- Reads the last part: one group, or the two of an address of 32 bits. -/
def lastGroups? (text : List Char) : Option (List Nat) :=
  match group? text with
  | some group => some [group]
  | none => (Ipv4.ofBytes? text).map fun value => [value / 65536, value % 65536]

def groups? (text : List Char) : Option (List Nat) :=
  if text = [] then some [] else (pieces ':' text).mapM group?

/-- Reads parts of which the last may be an address of 32 bits. -/
def groupsToEnd? (text : List Char) : Option (List Nat) :=
  match cutLast? ':' text with
  | some (before, last) => do
    return (← (pieces ':' before).mapM group?) ++ (← lastGroups? last)
  | none => if text = [] then some [] else lastGroups? text

/-- What stands before and after the first two colons without a character
between. -/
def cutGap? : List Char → Option (List Char × List Char)
  | ':' :: ':' :: rest => some ([], rest)
  | c :: rest => (cutGap? rest).map fun parts => (c :: parts.1, parts.2)
  | [] => none

def ofText? (text : List Char) : Option (List Nat) :=
  match cutGap? text with
  | none => (groupsToEnd? text).filter fun groups => groups.length == 8
  | some (before, after) => do
    let first ← groups? before
    let last ← groupsToEnd? after
    let count := first.length + last.length
    if count < 8 then some (first ++ List.replicate (8 - count) 0 ++ last) else none

def zerosAt (groups : List Nat) (index : Nat) : Nat :=
  ((groups.drop index).takeWhile (· == 0)).length

/-- The group where the longest run of zeros begins, the first of several. -/
def longestZeros (groups : List Nat) : Nat :=
  (List.range groups.length).foldl (fun best index =>
    if zerosAt groups best < zerosAt groups index then index else best) 0

def joined (groups : List Nat) : List Char :=
  List.intercalate [':'] (groups.map (Nat.toDigits 16))

def text (groups : List Nat) : List Char :=
  let index := longestZeros groups
  let length := zerosAt groups index
  if length < 2 then joined groups
  else joined (groups.take index) ++ ':' :: ':' :: joined (groups.drop (index + length))

end Ipv6
end Web
end SlashDice
