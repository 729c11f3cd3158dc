/-!
# JSON values

Numbers are kept when they are written as integers; a number written with a
fraction, an exponent or as minus zero is known only to be such a number.  A
string literal that pairs its surrogate escapes wrongly, or has bytes in it that
are not UTF-8, stands for no text: it may occur where a value is skipped, and
nothing can be made of it.
-/

namespace SlashDice
namespace Json

/-- JSON values, with the entries of an object in the order they are written. -/
inductive Value
  | null
  | bool (value : Bool)
  | int (value : Int)
  | decimal
  | text (value : String)
  | list (items : List Value)
  | record (entries : List (String × Value))
  | illFormed
  deriving Inhabited, Repr

/-- The value of something that may be missing, null if it is. -/
def Value.ofOption {α : Type} (encode : α → Value) : Option α → Value
  | none => .null
  | some item => encode item

def Value.nat (value : Nat) : Value :=
  .int (Int.ofNat value)

end Json
end SlashDice
