import SlashDice.Proofs.Reply.Shape
import SlashDice.Proofs.Text.Pieces
import SlashDice.Reply.Reading

/-!
# Replies that are read back

A reader finds in the reply to a rolled command what was rolled: the expression in the
title, the values in the second field unless they are too many, the totals if there is
a modifier, the grand total in the headline, and the reason.  So two throws have the
same reply only if they are throws of the same roll and show the same values.
-/

namespace SlashDice

open Text
open Command (parse)

variable {items : List (List Char)} {item rest : List Char}

theorem listedItems_cons {c : Char} (other : c ≠ ',') :
    listedItems (c :: rest) =
      match listedItems rest with
      | [] => [[c]]
      | item :: more => (c :: item) :: more :=
  listedItems.eq_3 c rest fun _ comma => absurd comma other

theorem listedItems_of_not_mem (absent : ',' ∉ item) : listedItems item = [item] := by
  induction item with
  | nil => rfl
  | cons c item induction =>
      rw [List.mem_cons, not_or] at absent
      rw [listedItems_cons (Ne.symm absent.1), induction absent.2]

theorem listedItems_append (absent : ',' ∉ item) (rest : List Char) :
    listedItems (item ++ ',' :: ' ' :: rest) = item :: listedItems rest := by
  induction item with
  | nil => rfl
  | cons c item induction =>
      rw [List.mem_cons, not_or] at absent
      rw [List.cons_append, listedItems_cons (Ne.symm absent.1), induction absent.2]

theorem listedItems_intercalate (nonempty : items ≠ []) (absent : ∀ item ∈ items, ',' ∉ item) :
    listedItems (List.intercalate [',', ' '] items) = items := by
  induction items with
  | nil => exact absurd rfl nonempty
  | cons item rest induction =>
      rw [List.forall_mem_cons] at absent
      cases rest with
      | nil => rw [List.intercalate_singleton, listedItems_of_not_mem absent.1]
      | cons next more =>
          have joined : List.intercalate [',', ' '] (item :: next :: more) =
              item ++ ',' :: ' ' :: List.intercalate [',', ' '] (next :: more) := by
            simp
          rw [joined, listedItems_append absent.1, induction (List.cons_ne_nil _ _) absent.2]

theorem mapM_uint32?_listedItems {rolls : List UInt32} (nonempty : rolls ≠ []) :
    (listedItems (listedRolls rolls).toList).mapM Numeral.uint32? = some rolls := by
  have written : (listedRolls rolls).toList =
      List.intercalate [',', ' '] (rolls.map fun value => Numeral.ofNat value.toNat) := by
    simp [listedRolls, numeral, Numeral.ofInt_natCast, Function.comp_def]
  rw [written, listedItems_intercalate]
  · exact Numeral.mapM_uint32?_ofNat rolls
  · simpa using nonempty
  · intro item member
    obtain ⟨value, -, rfl⟩ := List.mem_map.mp member
    exact Numeral.not_mem_ofNat rfl _

theorem mapM_uint32?_tooManyRolls :
    (listedItems tooManyRolls.toList).mapM Numeral.uint32? = none := by
  decide

theorem integer?_numeral (value : Int) : Numeral.integer? (numeral value).toList = some value := by
  rw [numeral, String.toList_ofList, Numeral.integer?_ofInt]

/-- What the fields say that are there only for a modifier. -/
def totals (roll : Roll) (outcome : Outcome) : List (String × Int) :=
  [("Base Total", outcome.baseTotal.toInt), ("Modifier", roll.modifier.toInt),
    ("Grand Total", outcome.grandTotal.toInt)]

/-- The values of the dice that a reply shows: none if they are too many. -/
def Game.shownRolls (game : Game) (roll : Roll) (outcome : Outcome) : Option (List UInt32) :=
  if game.limits.maxDisplayedRolls < roll.count then none else some outcome.rolls

/-- What a reader finds in the reply to a rolled command. -/
structure Message.Tells (message : Message) (game : Game) (roll : Roll) (outcome : Outcome) :
    Prop where
  parse_expression : ∃ expression, message.expression? = some expression ∧
    parse expression = .ok (.roll { roll with reason := none })
  tooMany_iff : message.attachment.fields[1]?.map Field.value = some tooManyRolls ↔
    game.limits.maxDisplayedRolls < roll.count
  rolls?_eq : message.rolls? = game.shownRolls roll outcome
  length_rolls : outcome.rolls.length = roll.count.toNat
  value?_eq_none_iff : ∀ title ∈ ["Base Total", "Modifier", "Grand Total"],
    message.value? title = none ↔ roll.modifier = 0
  baseTotal?_eq : roll.modifier ≠ 0 →
    message.number? "Base Total" = some ((outcome.rolls.map UInt32.toNat).sum : Int)
  modifier?_eq : roll.modifier ≠ 0 → message.number? "Modifier" = some roll.modifier.toInt
  grandTotal?_eq : roll.modifier ≠ 0 → message.number? "Grand Total" = message.total?
  total?_eq : message.total? =
    some ((outcome.rolls.map UInt32.toNat).sum + roll.modifier.toInt)
  reason_eq : message.value? "Reason" = roll.reason

namespace ReplyStyle

variable (style : ReplyStyle) (user : String) (roll : Roll) (outcome : Outcome)

theorem expression?_success :
    (style.success user roll outcome).expression? = some roll.expression := by
  have opened : dropOpening? "Rolling ".toList ("Rolling " ++ roll.expression).toList =
      some roll.expression.toList := by
    rw [dropOpening?_eq_some_iff, String.toList_append]
  rw [Message.expression?, title_success, Option.bind_some, opened, Option.map_some,
    String.ofList_toList]

theorem total?_success :
    (style.success user roll outcome).total? = some outcome.grandTotal.toInt := by
  -- The user may have asterisks in the name; the total has none, so its two are the last.
  have absent : '*' ∉ Numeral.ofInt outcome.grandTotal.toInt := by
    intro member
    rcases Numeral.isDigit_or_minus_of_mem_ofInt member with digit | minus
    · cases digit
    · cases minus
  have text_eq : (style.success user roll outcome).attachment.text.toList =
      ((mention user).toList ++ " rolled ".toList ++
        '*' :: Numeral.ofInt outcome.grandTotal.toInt) ++ '*' :: [] := by
    simp [numeral]
  rw [Message.total?, text_eq, cutLast?_append _ List.not_mem_nil, Option.bind_some,
    cutLast?_append _ absent, Option.bind_some, Numeral.integer?_ofInt]

theorem rollsValue_eq_tooManyRolls_iff (nonempty : outcome.rolls ≠ []) :
    style.rollsValue roll outcome = tooManyRolls ↔ style.maxDisplayedRolls < roll.count := by
  rw [rollsValue]
  split
  case isTrue many => exact iff_of_true rfl many
  case isFalse few =>
    refine iff_of_false (fun same => ?_) few
    -- Listed values can be read, and the remark cannot.
    have listed := mapM_uint32?_listedItems nonempty
    rw [same, mapM_uint32?_tooManyRolls] at listed
    cases listed

theorem rolls?_success (nonempty : outcome.rolls ≠ []) :
    (style.success user roll outcome).rolls? =
      if style.maxDisplayedRolls < roll.count then none else some outcome.rolls := by
  have second : (style.success user roll outcome).attachment.fields[1]?.map Field.value =
      some (style.rollsValue roll outcome) := rfl
  obtain ⟨field, here, shown⟩ := Option.map_eq_some_iff.mp second
  rw [Message.rolls?, here, Option.bind_some, shown, rollsValue]
  split
  · exact mapM_uint32?_tooManyRolls
  · exact mapM_uint32?_listedItems nonempty

theorem value?_success {title : String} (other : title ∉ ["Die", "Roll", "Rolls"]) :
    (style.success user roll outcome).value? title =
      (((modifierFields roll outcome ++ reasonFields roll.reason).find?
        fun field => field.title == title).map Field.value) := by
  simp only [List.mem_cons, List.not_mem_nil, or_false, not_or] at other
  obtain ⟨notDie, notRoll, notRolls⟩ := other
  have notSecond : (if roll.count = 1 then "Roll" else "Rolls") ≠ title := by
    split
    · exact Ne.symm notRoll
    · exact Ne.symm notRolls
  rw [Message.value?, success, List.find?_cons_of_neg (by simpa using Ne.symm notDie),
    List.find?_cons_of_neg (by simpa using notSecond)]

theorem totals_cases {title : String} {value : Int} (listed : (title, value) ∈ totals roll outcome) :
    title = "Base Total" ∧ value = outcome.baseTotal.toInt ∨
      title = "Modifier" ∧ value = roll.modifier.toInt ∨
        title = "Grand Total" ∧ value = outcome.grandTotal.toInt := by
  simpa [totals] using listed

theorem value?_total {title : String} {value : Int}
    (listed : (title, value) ∈ totals roll outcome) (nonempty : roll.reason ≠ some "") :
    (style.success user roll outcome).value? title =
      if roll.modifier = 0 then none else some (numeral value) := by
  have other : title ∉ ["Die", "Roll", "Rolls"] ∧ title ≠ "Reason" := by
    rcases totals_cases roll outcome listed with ⟨rfl, -⟩ | ⟨rfl, -⟩ | ⟨rfl, -⟩ <;> decide
  have noReason : (reasonFields roll.reason).find? (fun field => field.title == title) = none := by
    rw [reasonFields_eq nonempty, List.find?_eq_none]
    intro field member
    obtain ⟨reason, -, rfl⟩ := Option.map_eq_some_iff.mp (Option.mem_toList.mp member)
    simpa using other.2.symm
  rw [value?_success style user roll outcome other.1, List.find?_append, noReason, Option.or_none,
    modifierFields]
  split
  case isTrue => rfl
  case isFalse =>
    rcases totals_cases roll outcome listed with ⟨rfl, rfl⟩ | ⟨rfl, rfl⟩ | ⟨rfl, rfl⟩ <;> rfl

theorem value?_reason (nonempty : roll.reason ≠ some "") :
    (style.success user roll outcome).value? "Reason" = roll.reason := by
  have noTotal : (modifierFields roll outcome).find? (fun field => field.title == "Reason") =
      none := by
    rw [modifierFields]
    split <;> rfl
  rw [value?_success style user roll outcome (by decide), List.find?_append, noTotal,
    Option.none_or, reasonFields_eq nonempty]
  cases roll.reason <;> rfl

theorem number?_total {title : String} {value : Int}
    (listed : (title, value) ∈ totals roll outcome) (nonempty : roll.reason ≠ some "")
    (modified : roll.modifier ≠ 0) :
    (style.success user roll outcome).number? title = some value := by
  rw [Message.number?, value?_total style user roll outcome listed nonempty, if_neg modified,
    Option.bind_some, integer?_numeral]

end ReplyStyle

/-- Two rolls of which the same message tells are the same, and so are the values shown. -/
theorem Message.Tells.eq_and_shownRolls_eq {message : Message} {game other : Game}
    {roll otherRoll : Roll} {outcome otherOutcome : Outcome}
    (tells : message.Tells game roll outcome)
    (otherTells : message.Tells other otherRoll otherOutcome) :
    roll = otherRoll ∧ game.shownRolls roll outcome = other.shownRolls otherRoll otherOutcome := by
  refine ⟨?_, by rw [← tells.rolls?_eq, otherTells.rolls?_eq]⟩
  obtain ⟨expression, shown, parsed⟩ := tells.parse_expression
  obtain ⟨otherExpression, otherShown, otherParsed⟩ := otherTells.parse_expression
  have sameExpression : expression = otherExpression :=
    Option.some.inj (shown.symm.trans otherShown)
  have sameReason : roll.reason = otherRoll.reason := by
    rw [← tells.reason_eq, otherTells.reason_eq]
  rw [sameExpression, otherParsed, Except.ok.injEq, Command.roll.injEq] at parsed
  cases roll
  cases otherRoll
  cases parsed
  cases sameReason
  rfl

namespace Game

variable {σ : Type} [Randomness σ] [LawfulRandomness σ] {game : Game} {text : String}
  {source : σ} {roll : Roll} {outcome : Outcome}

theorem tells_reply (fits : game.limits.maxDice.toNat * game.limits.maxSides.toNat < 2 ^ 62)
    (rolled : (game.play text source).1 = .rolled roll outcome) (user : String) :
    (game.reply (.rolled roll outcome) user).Tells game roll outcome := by
  rw [reply_rolled]
  obtain ⟨parsed, admits, shows⟩ := shows_of_rolled fits rolled
  have nonempty := reason_ne_empty parsed
  have thrown : outcome.rolls ≠ [] := by
    have many : 1 ≤ roll.count.toNat := UInt32.le_iff_toNat_le.mp admits.minDice_le
    rw [← List.length_pos_iff, shows.length_eq]
    exact many
  have modifier_ne := (Command.canonical_of_parse parsed).modifier_ne
  constructor
  case parse_expression =>
    refine ⟨roll.expression, game.style.expression?_success user roll outcome, ?_⟩
    rw [Command.parse_expression, if_neg modifier_ne]
  case tooMany_iff =>
    exact Option.some_inj.trans (game.style.rollsValue_eq_tooManyRolls_iff roll outcome thrown)
  case rolls?_eq => exact game.style.rolls?_success user roll outcome thrown
  case length_rolls => exact shows.length_eq
  case value?_eq_none_iff =>
    intro title total
    have titles_eq : (totals roll outcome).map Prod.fst =
        ["Base Total", "Modifier", "Grand Total"] := rfl
    rw [← titles_eq, List.mem_map] at total
    obtain ⟨⟨title, value⟩, listed, rfl⟩ := total
    rw [game.style.value?_total user roll outcome listed nonempty]
    simp
  case baseTotal?_eq =>
    intro modified
    rw [← shows.baseTotal_eq]
    exact game.style.number?_total user roll outcome (by simp [totals]) nonempty modified
  case modifier?_eq =>
    intro modified
    exact game.style.number?_total user roll outcome (by simp [totals]) nonempty modified
  case grandTotal?_eq =>
    intro modified
    rw [game.style.total?_success]
    exact game.style.number?_total user roll outcome (by simp [totals]) nonempty modified
  case total?_eq =>
    rw [game.style.total?_success, shows.grandTotal_eq, shows.baseTotal_eq]
  case reason_eq => exact game.style.value?_reason user roll outcome nonempty

/-- The reply to a rolled command tells the roll, the values of its dice unless they are too
many, and their totals, whatever the limits and the source.  So commands that are rolled, in
the same game or in different ones, have the same reply only if they ask for the same roll
and the same values are shown. -/
theorem reply_tells_roll
    (fits : game.limits.maxDice.toNat * game.limits.maxSides.toNat < 2 ^ 62)
    (rolled : (game.play text source).1 = .rolled roll outcome) (user : String) :
    (game.reply (.rolled roll outcome) user).Tells game roll outcome ∧
    ∀ {τ : Type} [Randomness τ] [LawfulRandomness τ] (other : Game) (otherText otherUser : String)
      (otherSource : τ) (otherRoll : Roll) (otherOutcome : Outcome),
      other.limits.maxDice.toNat * other.limits.maxSides.toNat < 2 ^ 62 →
      (other.play otherText otherSource).1 = .rolled otherRoll otherOutcome →
      roll ≠ otherRoll ∨
        game.shownRolls roll outcome ≠ other.shownRolls otherRoll otherOutcome →
      game.reply (.rolled roll outcome) user ≠
        other.reply (.rolled otherRoll otherOutcome) otherUser := by
  have tells := tells_reply fits rolled user
  refine ⟨tells, ?_⟩
  intro τ _ _ other otherText otherUser otherSource otherRoll otherOutcome otherFits otherRolled
    differ same
  have otherTells := tells_reply otherFits otherRolled otherUser
  rw [← same] at otherTells
  obtain ⟨sameRoll, sameShown⟩ := tells.eq_and_shownRolls_eq otherTells
  exact differ.elim (fun different => different sameRoll) (fun different => different sameShown)

/-- A total below zero for a user whose name has an asterisk, and the same values rolled
without a reason. -/
theorem reply_tells_roll_negative_total :
    let game : Game := ⟨{}, "/roll"⟩
    let outcome : Outcome := ⟨[4, 6, 4], 14, -6⟩
    let message := game.reply (.rolled ⟨3, 6, -20, some "für"⟩ outcome) "U*1"
    message.rolls? = some [4, 6, 4] ∧ message.number? "Grand Total" = some (-6) ∧
      message ≠ game.reply (.rolled ⟨3, 6, -20, none⟩ outcome) "U*1" := by
  intro game outcome message
  have fits : game.limits.maxDice.toNat * game.limits.maxSides.toNat < 2 ^ 62 := by decide
  have rolled : (game.play "3D6-20 Für" (Script.mk [4, 7])).1 =
      .rolled ⟨3, 6, -20, some "für"⟩ outcome := by
    decide +kernel
  have plain : (game.play "3d6-20" (Script.mk [4, 7])).1 =
      .rolled ⟨3, 6, -20, none⟩ outcome := by
    decide +kernel
  obtain ⟨tells, differs⟩ := reply_tells_roll fits rolled "U*1"
  refine ⟨tells.rolls?_eq, ?_, ?_⟩
  · rw [tells.grandTotal?_eq (by decide), tells.total?_eq]
    rfl
  · exact differs game _ _ _ _ _ fits plain (.inl (by decide))

end Game

end SlashDice
