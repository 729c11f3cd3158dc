import SlashDice.Proofs.Dice.Command

/-!
# Expressions that are read back

The expression of a roll is put together from the digit strings of dice notation, so
it is read as a roll again.  Every count, every number of sides and every modifier but
one comes back: the magnitude of the least modifier does not fit 32 bits, and it is
read as no modifier at all.
-/

namespace SlashDice

open Text

namespace SignedDigits

/-- The sign and the digits that a modifier is written with. -/
def ofModifier (modifier : Int32) : SignedDigits where
  negative := modifier.toInt < 0
  digits := Numeral.ofNat modifier.toInt.natAbs

theorem text_ofModifier (modifier : Int32) :
    (ofModifier modifier).text = Numeral.ofIntSigned modifier.toInt := by
  simp [ofModifier, text, Numeral.ofIntSigned]

/-- The magnitude of the least modifier is beyond the greatest one. -/
theorem natAbs_lt_iff {modifier : Int32} :
    modifier.toInt.natAbs < 0x80000000 ↔ modifier ≠ Int32.minValue := by
  have low := modifier.minValue_le_toInt
  have high := modifier.toInt_lt
  have least : Int32.minValue.toInt = -0x80000000 := rfl
  rw [ne_eq, ← Int32.toInt_inj]
  omega

theorem value?_ofModifier (modifier : Int32) :
    (ofModifier modifier).value? =
      if modifier = Int32.minValue then none else some modifier := by
  have digits : Numeral.IsDigits (ofModifier modifier).digits := Numeral.isDigits_ofNat _
  have magnitude : Numeral.decimal (ofModifier modifier).digits = modifier.toInt.natAbs :=
    Numeral.decimal_ofNat _
  have read := value?_of_isDigits digits
  simp only [magnitude, natAbs_lt_iff] at read
  by_cases least : modifier = Int32.minValue
  · rw [if_neg (not_not_intro least), Option.map_eq_none_iff] at read
    rw [if_pos least, read]
  · rw [if_pos least, Option.map_eq_some_iff] at read
    obtain ⟨value, found, same⟩ := read
    have signed : (ofModifier modifier).toInt = modifier.toInt := by
      rw [toInt, magnitude]
      simp only [ofModifier, decide_eq_true_eq]
      split <;> omega
    rw [if_neg least, found, Int32.toInt_inj.mp (same.trans signed)]

end SignedDigits

namespace Roll

def token (roll : Roll) : Token where
  count := Numeral.ofNat roll.count.toNat
  sides := Numeral.ofNat roll.sides.toNat
  modifier := if roll.modifier = 0 then none else some (SignedDigits.ofModifier roll.modifier)

theorem toList_expression (roll : Roll) : roll.expression.toList = roll.token.text := by
  rw [expression, String.toList_ofList, Token.text_eq, Token.modifierText, token, modifierText]
  split
  · rfl
  · rw [Option.map_some, Option.getD_some, SignedDigits.text_ofModifier]

theorem wellFormed_token (roll : Roll) : roll.token.WellFormed := by
  refine Token.wellFormed_iff.mpr ⟨(Numeral.isDigits_ofNat _).2, Numeral.isDigits_ofNat _, ?_⟩
  intro modifier member
  simp only [token, Option.mem_def, Option.ite_none_left_eq_some, Option.some.injEq] at member
  rw [← member.2]
  exact Numeral.isDigits_ofNat _

/-- The digit strings of an expression ask for the roll, but for the least modifier and
for another reason. -/
theorem toRoll_token (roll : Roll) (reason : String) :
    roll.token.toRoll reason =
      Roll.withReason
        { roll with modifier := if roll.modifier = Int32.minValue then 0 else roll.modifier }
        reason := by
  have modifier_eq : (roll.token.modifier.bind SignedDigits.value?).getD 0 =
      if roll.modifier = Int32.minValue then 0 else roll.modifier := by
    rw [token]
    by_cases zero : roll.modifier = 0
    · simp [zero]
    · simp only [if_neg zero, Option.bind_some, SignedDigits.value?_ofModifier]
      split <;> rfl
  rw [Token.toRoll, modifier_eq]
  simp only [token, Numeral.uint32?_ofNat, Option.getD_some, withReason]

end Roll

namespace Token

variable {token : Token}

theorem mem_text_cases (wellFormed : token.WellFormed) {c : Char} (member : c ∈ token.text) :
    c.isDigit = true ∨ c = 'd' ∨ c = '+' ∨ c = '-' := by
  obtain ⟨countDigits, sidesDigits, modifierDigits⟩ := wellFormed_iff.mp wellFormed
  rw [text_eq, List.mem_append, List.mem_cons, List.mem_append] at member
  rcases member with inCount | rfl | inSides | inModifier
  · exact .inl (countDigits c inCount)
  · exact .inr (.inl rfl)
  · exact .inl (sidesDigits.2 c inSides)
  · unfold modifierText at inModifier
    cases modifier : token.modifier with
    | none => simp [modifier] at inModifier
    | some signed =>
        simp only [modifier, Option.map_some, Option.getD_some, SignedDigits.text,
          List.mem_cons] at inModifier
        rcases inModifier with sign | digit
        · cases negative : signed.negative <;> simp [negative] at sign <;> simp [sign]
        · exact .inl ((modifierDigits signed modifier).2 c digit)

theorem facts_of_mem_text (wellFormed : token.WellFormed) {c : Char} (member : c ∈ token.text) :
    isBlank c = false ∧ LetterCase.IsLower c := by
  have ascii := (plain_of_mem_text wellFormed c member).1
  have all := Ascii.of_code_points
    (p := fun c => c.isDigit = true ∨ c = 'd' ∨ c = '+' ∨ c = '-' →
      isBlank c = false ∧ c.toLower = c) (by decide +kernel) ascii
  obtain ⟨notBlank, lower⟩ := all (mem_text_cases wellFormed member)
  rw [← lower] at notBlank ⊢
  exact ⟨notBlank, LetterCase.isLower_toLower ascii⟩

/-- A word in dice notation with what may follow it is a text that is trimmed. -/
theorem trim_text_append (wellFormed : token.WellFormed) {rest : List Char}
    (last : ∀ c ∈ rest.getLast?, isBlank c = false) :
    trim (token.text ++ rest) = token.text ++ rest := by
  have nonempty : token.text ≠ [] := by simp [text_eq]
  refine trim_eq_self_iff.mpr ⟨fun c here => ?_, fun c here => ?_⟩
  · rw [List.head?_append_of_ne_nil _ nonempty] at here
    exact (facts_of_mem_text wellFormed (List.mem_of_mem_head? here)).1
  · rcases List.eq_nil_or_concat rest with rfl | ⟨before, final, rfl⟩
    · rw [List.append_nil] at here
      exact (facts_of_mem_text wellFormed (List.mem_of_mem_getLast? here)).1
    · apply last
      simpa using here

end Token

namespace Command

open Token (facts_of_mem_text trim_text_append)

variable {text : String} {roll : Roll} {token : Token}

/-- A word in dice notation is read as the roll that its digit strings ask for, with
what follows it in lower case as the reason. -/
theorem parse_text_append (wellFormed : token.WellFormed) {rest : List Char}
    (ends : EndsWord rest) (last : ∀ c ∈ rest.getLast?, isBlank c = false)
    (lower : ∀ c ∈ rest, LetterCase.IsLower c) :
    parse (String.ofList (token.text ++ rest)) =
      .ok (.roll (token.toRoll (String.ofList (trim rest)))) := by
  have inWord : ∀ c ∈ token.text, isBlank c = false := fun c member =>
    (facts_of_mem_text wellFormed member).1
  have typed_eq : typedText (String.ofList (token.text ++ rest)) = token.text ++ rest := by
    rw [typedText, String.toList_ofList, trim_text_append wellFormed last]
  have normal_eq : normalText (String.ofList (token.text ++ rest)) = token.text ++ rest := by
    rw [normalText, typed_eq, lowercase_eq_self_iff, List.forall_mem_append]
    exact ⟨fun c member => (facts_of_mem_text wellFormed member).2, lower⟩
  have word_eq : typedWord (String.ofList (token.text ++ rest)) = token.text := by
    rw [typedWord, typed_eq, takeWhile_append_of_endsWord inWord ends]
  have reason_eq : reasonText (String.ofList (token.text ++ rest)) = trim rest := by
    rw [reasonText, normal_eq, dropWhile_append_of_endsRun (by simpa using inWord) ends]
  have typed : Token.Typed (typedWord (String.ofList (token.text ++ rest))) token := by
    rw [word_eq]
    exact .intro wellFormed (.inl rfl)
  rw [parse_of_typed typed, reason_eq]

/-- An expression is read as its roll, without the reason and the least modifier. -/
theorem parse_expression (roll : Roll) :
    parse roll.expression =
      .ok (.roll
        { roll with
          modifier := if roll.modifier = Int32.minValue then 0 else roll.modifier
          reason := none }) := by
  have read := parse_text_append roll.wellFormed_token endsRun_nil (by simp) (by simp)
  rw [List.append_nil, ← roll.toList_expression, String.ofList_toList, Roll.toRoll_token] at read
  exact read

/-- Every roll without a reason is read back from its expression, unless it has the least
modifier of 32 bits; that one is read as no modifier, whatever the dice. -/
theorem parse_expression_eq_iff (count sides : UInt32) (modifier : Int32) :
    (parse (Roll.expression ⟨count, sides, modifier, none⟩) =
        .ok (.roll ⟨count, sides, modifier, none⟩) ↔ modifier ≠ Int32.minValue) ∧
      parse (Roll.expression ⟨count, sides, Int32.minValue, none⟩) =
        .ok (.roll ⟨count, sides, 0, none⟩) := by
  have nonzero : (0 : Int32) ≠ Int32.minValue := by decide
  simp only [parse_expression, Except.ok.injEq, Command.roll.injEq, Roll.mk.injEq, true_and,
    and_true, if_true]
  by_cases least : modifier = Int32.minValue
  · rw [if_pos least, least]
    exact iff_of_false nonzero (not_not_intro rfl)
  · rw [if_neg least]
    exact iff_of_true rfl least

/-- The least modifier is written with its magnitude, which is too large to be read. -/
theorem parse_expression_least_modifier :
    Roll.expression ⟨1, 6, -2147483648, none⟩ = "1d6-2147483648" ∧
      parse (Roll.expression ⟨1, 6, -2147483648, none⟩) = .ok (.roll ⟨1, 6, 0, none⟩) ∧
      parse (Roll.expression ⟨1, 6, -2147483648, none⟩) ≠
        .ok (.roll ⟨1, 6, -2147483648, none⟩) := by
  decide +kernel

end Command
end SlashDice
