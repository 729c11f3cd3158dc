import SlashDice.Text.LetterCase.Table

/-!
# Lower-casing

Every letter goes to its lower-case form.  Two capitals are special: the dotted
capital I becomes an i with a combining dot, and a capital sigma becomes the
final form at the end of a word, that is, when the nearest characters that are
not ignored are a letter with case before it and no such letter after it.
-/

namespace SlashDice
namespace Text
namespace LetterCase

def isIgnorable (c : Char) : Bool :=
  inRanges c.toNat ignorableRanges

def isCased (c : Char) : Bool :=
  inRanges c.toNat casedRanges

def lowerChar (c : Char) : List Char :=
  if c.toNat < 0x80 then
    [c.toLower]
  else if c = '\u0130' then
    ['i', '\u0307']
  else
    [Char.ofNat (lowerIn c.toNat lowerRuns)]

/-- Whether the first character that is not ignored is a letter with case. -/
def startsCased (text : List Char) : Bool :=
  (text.find? fun c => !isIgnorable c).any isCased

/-- Lower-cases a text.  The flag says whether the last character before the
text that is not ignored is a letter with case. -/
def lowerFrom (afterCased : Bool) : List Char → List Char
  | [] => []
  | c :: rest =>
    let lowered :=
      if c = 'Σ' then
        [if afterCased && !startsCased rest then 'ς' else 'σ']
      else
        lowerChar c
    lowered ++ lowerFrom (if isIgnorable c then afterCased else isCased c) rest

end LetterCase

def lowercase (text : List Char) : List Char :=
  LetterCase.lowerFrom false text

@[simp]
theorem lowercase_nil : lowercase [] = [] :=
  rfl

end Text
end SlashDice
