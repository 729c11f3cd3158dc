import SlashDice.Text.Percent
import SlashDice.Text.Pieces
import SlashDice.Text.Utf8

/-!
# Form encoding

Pairs of names and values as one line of ASCII characters: a space is written
as a plus sign, letters, digits and four marks stand for themselves, and every
other byte is written as a percent sign with two digits.  Reading takes any
bytes; an escape that is not complete stands for itself.
-/

namespace SlashDice
namespace Web
namespace Form

open Text

def isPlain (byte : UInt8) : Bool :=
  let c := Char.ofNat byte.toNat
  byte < 0x80 && (c.isAlphanum || c == '*' || c == '-' || c == '.' || c == '_')

def escapeByte (byte : UInt8) : List Char :=
  if isPlain byte then
    [Char.ofNat byte.toNat]
  else if byte = 0x20 then
    ['+']
  else
    Percent.ofByte byte

def encodeText (text : List Char) : List Char :=
  (Utf8.encode text).flatMap escapeByte

def encodePair (pair : String × String) : List Char :=
  encodeText pair.1.toList ++ '=' :: encodeText pair.2.toList

def encode (pairs : List (String × String)) : List Char :=
  List.intercalate ['&'] (pairs.map encodePair)

/-- The byte that a written one stands for outside an escape. -/
def spaceOfPlus (byte : UInt8) : UInt8 :=
  if byte = 0x2B then 0x20 else byte

def unescape (bytes : List UInt8) : List UInt8 :=
  Percent.decode (bytes.map spaceOfPlus)

def decodeText (bytes : List UInt8) : String :=
  String.ofList (Utf8.decode (unescape bytes))

/-- The pair behind a piece: what stands before the first equals sign and what
stands after it, if there is one. -/
def decodePair (piece : List UInt8) : String × String :=
  match cutFirst? 0x3D piece with
  | some (name, value) => (decodeText name, decodeText value)
  | none => (decodeText piece, "")

/-- The pairs behind written bytes; empty pieces are skipped. -/
def decode (bytes : List UInt8) : List (String × String) :=
  ((pieces 0x26 bytes).filter fun piece => !piece.isEmpty).map decodePair

/-- The first name that is one of the fields and was seen before, either among
the names given or earlier in the list. -/
def repeatedAfter? (fields seen : List String) : List (String × String) → Option String
  | [] => none
  | (name, _) :: rest =>
    if fields.contains name && seen.contains name then some name
    else repeatedAfter? fields (name :: seen) rest

/-- The first of the fields that is given a second time. -/
def firstRepeated? (fields : List String) (pairs : List (String × String)) : Option String :=
  repeatedAfter? fields [] pairs

end Form
end Web
end SlashDice
