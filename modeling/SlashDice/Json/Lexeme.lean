import SlashDice.Json.Value
import SlashDice.Text.Hex
import SlashDice.Text.Utf8

/-!
# Lexemes of JSON

The bytes of a JSON text are cut into brackets, separators, strings and other
atoms.  The lexer looks at one byte after the other; its mode says which lexeme is
under way.  Outside of strings all bytes are ASCII, and what is inside of a string
is looked at only when it is closed.
-/

namespace SlashDice
namespace Json

open Text

/-- The lexemes of JSON.  A string without a text has surrogates that do not
pair, or bytes that are not UTF-8. -/
inductive Lexeme
  | openList
  | closeList
  | openRecord
  | closeRecord
  | comma
  | colon
  | text (value : Option String)
  | atom (value : Value)

/-- A piece of a string literal: a byte as it stands there, an escaped character, or
one half of an escaped surrogate pair. -/
inductive Piece
  | byte (value : UInt8)
  | char (c : Char)
  | surrogate (unit : Nat)

/-- What is under way between two bytes.  Pieces, letters and digits are listed with
the latest first. -/
inductive Mode
  | between
  | word (letters : List Char)
  | number (characters : List Char)
  | string (pieces : List Piece)
  | escape (pieces : List Piece)
  | codeUnit (pieces : List Piece) (digits : Nat) (unit : Nat)

def isNumberChar (c : Char) : Bool :=
  c.isDigit || c == '-' || c == '+' || c == '.' || c == 'e' || c == 'E'

def isSpace (c : Char) : Bool :=
  c == ' ' || c == '\t' || c == '\n' || c == '\r'

def escapedChar? : Char → Option Char
  | '"' => some '"'
  | '\\' => some '\\'
  | '/' => some '/'
  | 'b' => some '\x08'
  | 'f' => some '\x0c'
  | 'n' => some '\n'
  | 'r' => some '\r'
  | 't' => some '\t'
  | _ => none

def Piece.ofUnit (unit : Nat) : Piece :=
  if 0xD800 ≤ unit ∧ unit < 0xE000 then .surrogate unit else .char (Char.ofNat unit)

/-- The bytes of the pieces of a literal: a high surrogate needs a low one right
after it, and a low one needs a high one right before it. -/
def assemble? : List Piece → Option (List UInt8)
  | [] => some []
  | .byte value :: rest => (assemble? rest).map (value :: ·)
  | .char c :: rest => (assemble? rest).map (Utf8.encodeChar c ++ ·)
  | .surrogate high :: .surrogate low :: rest =>
    if high < 0xDC00 ∧ 0xDC00 ≤ low then
      (assemble? rest).map
        (Utf8.encodePoint (0x10000 + (high - 0xD800) * 0x400 + (low - 0xDC00)) ++ ·)
    else
      none
  | .surrogate _ :: _ => none

/-- The lexeme of a string literal, from its pieces with the latest first. -/
def stringLexeme (pieces : List Piece) : Lexeme :=
  .text (((assemble? pieces.reverse).bind Utf8.text?).map String.ofList)

def wordLexeme? (letters : List Char) : Option Lexeme :=
  match String.ofList letters.reverse with
  | "null" => some (.atom .null)
  | "true" => some (.atom (.bool true))
  | "false" => some (.atom (.bool false))
  | _ => none

/-- Whether a text is empty or an exponent: a letter e, perhaps a sign, digits. -/
def isExponentOrEmpty : List Char → Bool
  | [] => true
  | mark :: rest =>
    let digits := match rest with
      | '+' :: digits => digits
      | '-' :: digits => digits
      | digits => digits
    (mark == 'e' || mark == 'E') && !digits.isEmpty && digits.all Char.isDigit

/-- Whether a text is what may follow the integer part of a number: a fraction,
an exponent, both or nothing. -/
def isNumberTail : List Char → Bool
  | '.' :: rest =>
    !(rest.takeWhile Char.isDigit).isEmpty && isExponentOrEmpty (rest.dropWhile Char.isDigit)
  | tail => isExponentOrEmpty tail

def unsignedNumber? (negative : Bool) (text : List Char) : Option Value :=
  let digits := text.takeWhile Char.isDigit
  let tail := text.dropWhile Char.isDigit
  if digits.isEmpty || (digits.head? == some '0' && digits.length != 1) then
    none
  else if tail.isEmpty then
    let magnitude := Nat.ofDigitChars 10 digits 0
    if negative && magnitude == 0 then some .decimal
    else some (.int (if negative then -(magnitude : Int) else magnitude))
  else if isNumberTail tail then
    some .decimal
  else
    none

def numberLexeme? (characters : List Char) : Option Lexeme :=
  let value := match characters.reverse with
    | '-' :: rest => unsignedNumber? true rest
    | text => unsignedNumber? false text
  value.map .atom

def beginLexeme (c : Char) : Option (List Lexeme × Mode) :=
  if isSpace c then some ([], .between)
  else if c = '[' then some ([.openList], .between)
  else if c = ']' then some ([.closeList], .between)
  else if c = '\x7b' then some ([.openRecord], .between)
  else if c = '\x7d' then some ([.closeRecord], .between)
  else if c = ',' then some ([.comma], .between)
  else if c = ':' then some ([.colon], .between)
  else if c = '"' then some ([], .string [])
  else if c.isLower then some ([], .word [c])
  else if c.isDigit || c == '-' then some ([], .number [c])
  else none

/-- The lexemes that one byte completes, and the mode after it.  A byte outside ASCII
stands for none of the characters that are asked for. -/
def Mode.step (mode : Mode) (byte : UInt8) : Option (List Lexeme × Mode) :=
  let c := Char.ofNat byte.toNat
  match mode with
  | between => beginLexeme c
  | word letters =>
    if c.isLower then
      some ([], word (c :: letters))
    else do
      let lexeme ← wordLexeme? letters
      let (lexemes, mode) ← beginLexeme c
      some (lexeme :: lexemes, mode)
  | number characters =>
    if isNumberChar c then
      some ([], number (c :: characters))
    else do
      let lexeme ← numberLexeme? characters
      let (lexemes, mode) ← beginLexeme c
      some (lexeme :: lexemes, mode)
  | string pieces =>
    if c = '"' then some ([stringLexeme pieces], between)
    else if c = '\\' then some ([], escape pieces)
    else if byte < 0x20 then none
    else some ([], string (.byte byte :: pieces))
  | escape pieces =>
    if c = 'u' then some ([], codeUnit pieces 0 0)
    else (escapedChar? c).map fun character => ([], string (.char character :: pieces))
  | codeUnit pieces digits unit => do
    let value ← Hex.value? c
    let unit := unit * 16 + value
    if digits = 3 then
      some ([], string (Piece.ofUnit unit :: pieces))
    else
      some ([], codeUnit pieces (digits + 1) unit)

/-- The lexeme that the end of the text completes; a string has to be closed. -/
def Mode.finish : Mode → Option (List Lexeme)
  | between => some []
  | word letters => (wordLexeme? letters).map ([·])
  | number characters => (numberLexeme? characters).map ([·])
  | _ => none

def lexFrom : Mode → List UInt8 → Option (List Lexeme)
  | mode, [] => mode.finish
  | mode, byte :: rest => do
    let (lexemes, next) ← mode.step byte
    let more ← lexFrom next rest
    some (lexemes ++ more)

def lex (bytes : List UInt8) : Option (List Lexeme) :=
  lexFrom .between bytes

end Json
end SlashDice
