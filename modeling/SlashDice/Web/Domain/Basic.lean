import SlashDice.Web.Domain.Composition
import SlashDice.Web.Domain.Direction
import SlashDice.Web.Domain.Joining
import SlashDice.Web.Domain.Mapping
import SlashDice.Web.Domain.Punycode

/-!
# Names of hosts

A name of labels with full stops between, in any script, is brought into the form
in which hosts are looked up: its characters are mapped and composed, each label
is checked, and a label with characters outside ASCII is written in ASCII after
the mark for this.
-/

namespace SlashDice
namespace Web
namespace Domain

open Text

def asciiMark : List Char := "xn--".toList

/-- The most characters that a label has when it is read from ASCII. -/
def maxReadLength : Nat := 2000

/-- The most characters that a label has when it is written in ASCII. -/
def maxWrittenLength : Nat := 1000

def isForeign (c : Char) : Bool :=
  0x80 ≤ c.toNat

/-- Whether a character of ASCII may not stand in the name of a host. -/
def isDenied (c : Char) : Bool :=
  c.toNat ≤ 0x20 || c.toNat == 0x7F || "%#/:<>?@[\\]^|".toList.contains c

/-- A label as it is read and as it is looked up. -/
structure Label where
  shown : List Char
  ascii : List Char
  deriving DecidableEq, Repr

namespace Label

/-- Whether a label that was read from ASCII is in the form in which it would have
been written: mapped, composed, and not in ASCII itself. -/
def isSettled (shown : List Char) : Bool :=
  shown.any isForeign && shown.all (fun c => isKept c && !isDenied c) && compose shown == shown

def ofText? (text : List Char) : Option Label :=
  match dropOpening? asciiMark text with
  | some written =>
    if maxReadLength < written.length then none
    else
      match Punycode.decode? written with
      | some shown => if isSettled shown then some ⟨shown, text⟩ else none
      | none => none
  | none =>
    if text.any isForeign then
      if maxWrittenLength < text.length then none
      else some ⟨text, asciiMark ++ Punycode.encode text⟩
    else
      some ⟨text, text⟩

def isOrderly (label : Label) : Bool :=
  !beginsWithMark label.shown && joinersFit [] label.shown

end Label

def labels? (name : List Char) : Option (List Label) := do
  let composed := compose (← mapText? name)
  if composed.any isDenied then none else (pieces '.' composed).mapM Label.ofText?

def agree (labels : List Label) : Bool :=
  labels.all Label.isOrderly &&
    (!(labels.any fun label => label.shown.any isRightToLeft) ||
      labels.all fun label => hasOneDirection label.shown)

def lookup? (name : List Char) : Option (List Char) := do
  let labels ← labels? name
  if agree labels then some (List.intercalate ['.'] (labels.map Label.ascii)) else none

end Domain
end Web
end SlashDice
