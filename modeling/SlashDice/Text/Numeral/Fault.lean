import SlashDice.Text.Numeral

/-!
# Texts that are no numeral

Why a text is no natural number below a bound.  Digits are looked at one by one, so
the first digit that leads out of the range counts, and characters after it do
not.
-/

namespace SlashDice
namespace Text
namespace Numeral

/-- Why a text is no natural number below a bound. -/
inductive Fault
  | empty
  | badDigit
  | tooLarge
  deriving DecidableEq, Repr

def Fault.message : Fault → String
  | empty => "cannot parse integer from empty string"
  | badDigit => "invalid digit found in string"
  | tooLarge => "number too large to fit in target type"

def pushDigit (bound value : Nat) (digit : Char) : Except Fault Nat :=
  if digit.isDigit then
    let next := 10 * value + (digit.toNat - 48)
    if next < bound then .ok next else .error .tooLarge
  else
    .error .badDigit

/-- Reads a natural number below a bound, with or without a plus sign before it, or
tells why there is none. -/
def readBelow (bound : Nat) : List Char → Except Fault Nat
  | [] => .error .empty
  | ['+'] => .error .badDigit
  | '+' :: digits => digits.foldlM (pushDigit bound) 0
  | digits => digits.foldlM (pushDigit bound) 0

theorem le_ofDigitChars (digits : List Char) (value : Nat) :
    value ≤ Nat.ofDigitChars 10 digits value := by
  induction digits generalizing value with
  | nil => exact Nat.le_refl _
  | cons digit rest induction =>
      exact Nat.le_trans (show value ≤ 10 * value + (digit.toNat - 48) by omega) (induction _)

/-- Reading on from a number below the bound gives the number of all the digits, if
that is below the bound too. -/
theorem toOption_foldlM_pushDigit {bound value : Nat} (below : value < bound)
    (digits : List Char) :
    (digits.foldlM (pushDigit bound) value).toOption =
      if digits.all Char.isDigit = true ∧ Nat.ofDigitChars 10 digits value < bound then
        some (Nat.ofDigitChars 10 digits value)
      else
        none := by
  induction digits generalizing value with
  | nil =>
      rw [if_pos ⟨rfl, below⟩]
      rfl
  | cons digit rest induction =>
      rw [List.foldlM_cons, pushDigit, Nat.ofDigitChars_cons]
      by_cases isDigit : digit.isDigit = true
      · rw [if_pos isDigit]
        by_cases next : 10 * value + (digit.toNat - 48) < bound
        · rw [if_pos next]
          simp only [List.all_cons, isDigit, Bool.true_and]
          exact induction next
        · have large := le_ofDigitChars rest (10 * value + (digit.toNat - 48))
          rw [if_neg next, if_neg fun both => next (Nat.lt_of_le_of_lt large both.2)]
          rfl
      · have someOther : ¬ (digit :: rest).all Char.isDigit = true := fun digitsOnly =>
          isDigit (List.all_eq_true.mp digitsOnly _ List.mem_cons_self)
        rw [if_neg isDigit, if_neg fun both => someOther both.1]
        rfl

/-- The same numbers are read as without a reason. -/
theorem toOption_readBelow (bound : Nat) (text : List Char) :
    (readBelow bound text).toOption = naturalBelow? bound text := by
  have readDigits : ∀ {digits : List Char}, digits ≠ [] →
      (digits.foldlM (pushDigit bound) 0).toOption = (ofDigits? digits).filter (· < bound) := by
    intro digits nonempty
    rcases Nat.eq_zero_or_pos bound with zero | positive
    · obtain ⟨digit, rest, rfl⟩ := List.exists_cons_of_ne_nil nonempty
      subst zero
      have nothing : ∀ found : Option Nat, (found.filter (· < 0)) = none := fun found => by
        cases found <;> simp
      have refused : ∃ fault, pushDigit 0 0 digit = .error fault := by
        unfold pushDigit
        split <;> simp
      obtain ⟨fault, refusal⟩ := refused
      rw [nothing, List.foldlM_cons, refusal]
      rfl
    · rw [toOption_foldlM_pushDigit positive, ofDigits?]
      by_cases digitsOnly : digits.all Char.isDigit = true
      · simp [nonempty, digitsOnly, Option.filter_some]
      · simp [digitsOnly]
  unfold readBelow naturalBelow? natural?
  split
  · rfl
  · rfl
  · rename_i digits single
    exact readDigits fun empty => single (by rw [empty])
  · rename_i noDigits noSign noPlus
    split
    · exact absurd rfl (noPlus _)
    · exact readDigits noDigits

end Numeral
end Text
end SlashDice
