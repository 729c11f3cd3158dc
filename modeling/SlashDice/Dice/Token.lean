import SlashDice.Dice.Roll

/-!
# Dice tokens

The first word of a command in dice notation: digits for the count, which may
be missing, the letter d, digits for the sides, and perhaps a sign with digits
for the modifier.  Scanning cuts a word into these digit strings and refuses
every other word; turning the digit strings into numbers is a step of its own,
which also takes digit strings from elsewhere.
-/

namespace SlashDice

open Text

/-- The digits of a modifier and the sign before them. -/
structure SignedDigits where
  negative : Bool
  digits : List Char
  deriving DecidableEq, Repr

structure Token where
  count : List Char
  sides : List Char
  modifier : Option SignedDigits
  deriving DecidableEq, Repr

namespace SignedDigits

def text (modifier : SignedDigits) : List Char :=
  (if modifier.negative then '-' else '+') :: modifier.digits

/-- The digits after a sign: at least one, and nothing else. -/
def scanDigits? (negative : Bool) (digits : List Char) : Option SignedDigits :=
  if digits ≠ [] ∧ digits.all Char.isDigit = true then
    some ⟨negative, digits⟩
  else
    none

/-- A sign with digits after it and nothing else. -/
def scan? : List Char → Option SignedDigits
  | '+' :: digits => scanDigits? false digits
  | '-' :: digits => scanDigits? true digits
  | _ => none

/-- The signed value, if the magnitude fits 32 bits with a sign. -/
def value? (modifier : SignedDigits) : Option Int32 :=
  (Numeral.int32? modifier.digits).map fun magnitude =>
    if modifier.negative then -magnitude else magnitude

/-- Whether the value would be the opposite of the least number of 32 bits, which
does not fit 32 bits. -/
def overflows (modifier : SignedDigits) : Bool :=
  modifier.negative && Numeral.int32? modifier.digits == some Int32.minValue

/-- Digits alone do not overflow: the least number begins with a sign. -/
theorem overflows_of_digits {modifier : SignedDigits}
    (digits : modifier.digits.all Char.isDigit = true) : modifier.overflows = false := by
  rw [overflows, Bool.and_eq_false_iff]
  refine .inr (beq_eq_false_iff_ne.mpr fun least => ?_)
  have unsigned : Numeral.integer? modifier.digits =
      (Numeral.natural? modifier.digits).map Int.ofNat := by
    unfold Numeral.integer?
    split
    case h_1 minus => rw [minus] at digits; simp at digits
    case h_2 => rfl
  rw [Numeral.int32?, Numeral.integerBetween?, unsigned] at least
  cases natural : Numeral.natural? modifier.digits with
  | none => simp [natural] at least
  | some value =>
      simp only [natural, Option.map_some, Option.filter_some] at least
      split at least
      case isFalse => simp at least
      case isTrue bounds =>
        have same := congrArg Int32.toInt (Option.some.inj least)
        simp only [Bool.and_eq_true, decide_eq_true_eq] at bounds
        rw [Int.ofNat_eq_natCast] at bounds same
        rw [Int32.toInt_ofInt_of_le (by omega) (by omega)] at same
        have below : Int32.minValue.toInt < 0 := by decide
        omega

end SignedDigits

namespace Token

def text (token : Token) : List Char :=
  token.count ++ 'd' :: (token.sides ++ (token.modifier.map SignedDigits.text).getD [])

/-- The digit strings that occur in dice notation: digits only, and at least
one for the sides and for a modifier. -/
structure WellFormed (token : Token) : Prop where
  count_digits : token.count.all Char.isDigit = true
  sides_digits : token.sides.all Char.isDigit = true
  sides_nonempty : token.sides ≠ []
  modifier_digits : ∀ modifier ∈ token.modifier,
    modifier.digits ≠ [] ∧ modifier.digits.all Char.isDigit = true

/-- The sides and the modifier, from what follows the letter d. -/
def scanSides? (count rest : List Char) : Option Token :=
  let sides := rest.takeWhile Char.isDigit
  if sides = [] then
    none
  else
    match rest.dropWhile Char.isDigit with
    | [] => some ⟨count, sides, none⟩
    | tail => (SignedDigits.scan? tail).map fun modifier => ⟨count, sides, some modifier⟩

/-- Cuts a word in dice notation, with a lower-case d, into its digit strings. -/
def scan? (word : List Char) : Option Token :=
  match word.dropWhile Char.isDigit with
  | 'd' :: rest => scanSides? (word.takeWhile Char.isDigit) rest
  | _ => none

/-- The roll that the digit strings ask for.  A count that is missing or too
large is one, sides that are too many are the most there can be, and a modifier
that is missing or too large is zero. -/
def toRoll (token : Token) (reason : String) : Roll :=
  let roll : Roll :=
    { count := (Numeral.uint32? token.count).getD 1
      sides := (Numeral.uint32? token.sides).getD 4294967295
      modifier := (token.modifier.bind SignedDigits.value?).getD 0 }
  roll.withReason reason

/-- The roll that any digit strings ask for; none if the modifier overflows. -/
def roll? (token : Token) (reason : String) : Option Roll :=
  if token.modifier.any SignedDigits.overflows then none else some (token.toRoll reason)

theorem roll?_of_wellFormed {token : Token} (wellFormed : token.WellFormed) (reason : String) :
    token.roll? reason = some (token.toRoll reason) := by
  rw [roll?, if_neg]
  rw [Option.any_eq_true]
  rintro ⟨modifier, member, overflow⟩
  rw [SignedDigits.overflows_of_digits (wellFormed.modifier_digits modifier member).2]
    at overflow
  exact Bool.false_ne_true overflow

end Token
end SlashDice
