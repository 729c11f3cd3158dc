import SlashDice.Json.Lexeme

/-!
# Reading JSON

A stack machine puts the lexemes together to one value.  The lists and objects
that are still open lie on the stack, the innermost first.
-/

namespace SlashDice
namespace Json

/-- A list or an object that is still open, without the value under way; its
members are listed with the latest first. -/
inductive Frame
  | list (items : List Value)
  | record (entries : List (Option String × Value)) (key : Option String)

/-- What the reader has, and what may come next. -/
inductive ReaderState
  | wantsValue (stack : List Frame)
  | openedList (stack : List Frame)
  | openedRecord (stack : List Frame)
  | wantsKey (entries : List (Option String × Value)) (stack : List Frame)
  | wantsColon (entries : List (Option String × Value)) (key : Option String)
      (stack : List Frame)
  | hasValue (value : Value) (stack : List Frame)

/-- The object of some entries, the latest first; a key that is no text leaves
nothing that can be read. -/
def recordOf (entries : List (Option String × Value)) : Value :=
  match entries.reverse.mapM fun entry => entry.1.map fun key => (key, entry.2) with
  | some named => .record named
  | none => .illFormed

def beginValue (stack : List Frame) : Lexeme → Option ReaderState
  | .openList => some (.openedList stack)
  | .openRecord => some (.openedRecord stack)
  | .text (some value) => some (.hasValue (.text value) stack)
  | .text none => some (.hasValue .illFormed stack)
  | .atom value => some (.hasValue value stack)
  | _ => none

def ReaderState.step : ReaderState → Lexeme → Option ReaderState
  | wantsValue stack, lexeme => beginValue stack lexeme
  | openedList stack, .closeList => some (hasValue (.list []) stack)
  | openedList stack, lexeme => beginValue (.list [] :: stack) lexeme
  | openedRecord stack, .closeRecord => some (hasValue (.record []) stack)
  | openedRecord stack, .text key => some (wantsColon [] key stack)
  | wantsKey entries stack, .text key => some (wantsColon entries key stack)
  | wantsColon entries key stack, .colon => some (wantsValue (.record entries key :: stack))
  | hasValue value (.list items :: stack), .comma =>
    some (wantsValue (.list (value :: items) :: stack))
  | hasValue value (.list items :: stack), .closeList =>
    some (hasValue (.list (value :: items).reverse) stack)
  | hasValue value (.record entries key :: stack), .comma =>
    some (wantsKey ((key, value) :: entries) stack)
  | hasValue value (.record entries key :: stack), .closeRecord =>
    some (hasValue (recordOf ((key, value) :: entries)) stack)
  | _, _ => none

def readLexemes (lexemes : List Lexeme) : Option Value :=
  match lexemes.foldlM ReaderState.step (ReaderState.wantsValue []) with
  | some (.hasValue value []) => some value
  | _ => none

/-- Reads bytes that are one JSON value, with blanks around it allowed. -/
def Value.ofBytes? (bytes : List UInt8) : Option Value :=
  (lex bytes).bind readLexemes

def Value.parse? (text : String) : Option Value :=
  ofBytes? (Text.Utf8.encode text.toList)

end Json
end SlashDice
