/-!
# Text inside HTML

Five characters have a meaning in HTML and are written as entities; all others
stand for themselves.  They are replaced one after the other in the whole text, and
the ampersand is the first one, since every entity begins with it.
-/

namespace SlashDice
namespace Text
namespace Markup

/-- The characters that are replaced and their entities, in the order of replacement. -/
def entities : List (Char × List Char) :=
  [('&', "&amp;".toList), ('<', "&lt;".toList), ('>', "&gt;".toList), ('"', "&quot;".toList),
    ('\x27', "&#x27;".toList)]

def replace (text : List Char) (entity : Char × List Char) : List Char :=
  text.flatMap fun c => if c = entity.1 then entity.2 else [c]

def escape (text : List Char) : List Char :=
  entities.foldl replace text

/-- The text behind an escaped one: each of the five entities stands for its
character, read from left to right, and all else for itself. -/
def unescape : List Char → List Char
  | '&' :: 'a' :: 'm' :: 'p' :: ';' :: rest => '&' :: unescape rest
  | '&' :: 'l' :: 't' :: ';' :: rest => '<' :: unescape rest
  | '&' :: 'g' :: 't' :: ';' :: rest => '>' :: unescape rest
  | '&' :: 'q' :: 'u' :: 'o' :: 't' :: ';' :: rest => '"' :: unescape rest
  | '&' :: '#' :: 'x' :: '2' :: '7' :: ';' :: rest => '\x27' :: unescape rest
  | c :: rest => c :: unescape rest
  | [] => []

/-- Where a reader of HTML is: in the text, in a tag with the characters of the tag so
far, or inside the quotation marks of an attribute of a tag. -/
inductive Place
  | text
  | tag (soFar : List Char)
  | quoted (mark : Char) (soFar : List Char)
  deriving DecidableEq, Repr

/-- What one character does: the tag that it completes, if any, and the next place. -/
def Place.step : Place → Char → List (List Char) × Place
  | text, c => ([], if c = '<' then tag ['<'] else text)
  | tag soFar, c =>
    if c = '>' then ([soFar ++ [c]], text)
    else if c = '"' ∨ c = '\x27' then ([], quoted c (soFar ++ [c]))
    else ([], tag (soFar ++ [c]))
  | quoted mark soFar, c =>
    ([], if c = mark then tag (soFar ++ [c]) else quoted mark (soFar ++ [c]))

def readTags : Place → List Char → List (List Char) × Place
  | place, [] => ([], place)
  | place, c :: rest =>
    let (completed, next) := place.step c
    let (later, last) := readTags next rest
    (completed ++ later, last)

end Markup
end Text
end SlashDice
