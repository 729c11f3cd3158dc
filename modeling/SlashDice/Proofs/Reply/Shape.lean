import SlashDice.Proofs.Dice.CommandText
import SlashDice.Proofs.Dice.Game

/-!
# The shape of a reply

Who sees a reply, its colour and its fields tell what became of the command: it was
rolled, it was rejected, or it asked for help.  The fields of a rolled command follow
from its count, its modifier and what was typed after its first word.
-/

namespace SlashDice

open Command (parse afterWord)
open Text (isBlank)

namespace Message

variable {message : Message}

/-- A message to the channel with the colour of success. -/
structure IsSuccess (message : Message) : Prop where
  visibility_eq : message.visibility = .channel
  tone_eq : message.attachment.tone = .success

/-- A message to the sender with the colour of errors and one field, without title and
footer. -/
structure IsFailure (message : Message) : Prop where
  visibility_eq : message.visibility = .sender
  tone_eq : message.attachment.tone = .error
  title_eq : message.attachment.title = none
  footer_eq : message.attachment.footer = none
  length_fields : message.attachment.fields.length = 1

/-- A message to the sender with the colour of information and two fields. -/
structure IsHelp (message : Message) : Prop where
  visibility_eq : message.visibility = .sender
  tone_eq : message.attachment.tone = .info
  length_fields : message.attachment.fields.length = 2

/-- The fields and the footer of a reply to a roll, with a reason or without. -/
structure Lists (message : Message) (roll : Roll) (reasoned : Bool) : Prop where
  fieldTitles_eq : message.fieldTitles =
    ["Die", if roll.count = 1 then "Roll" else "Rolls"] ++
      (if roll.modifier = 0 then [] else ["Base Total", "Modifier", "Grand Total"]) ++
        if reasoned then ["Reason"] else []
  length_fields : message.attachment.fields.length =
    2 + 3 * (if roll.modifier = 0 then 0 else 1) + if reasoned then 1 else 0
  footer_eq_some_iff : message.attachment.footer = some coinFooter ↔ roll.sides = 2
  footer_eq_none_iff : message.attachment.footer = none ↔ roll.sides ≠ 2

end Message

namespace ReplyStyle

variable (style : ReplyStyle) (user : String)

theorem isSuccess_success (roll : Roll) (outcome : Outcome) :
    (style.success user roll outcome).IsSuccess :=
  ⟨rfl, rfl⟩

theorem isFailure_failure (refusal : Refusal) : (style.failure user refusal).IsFailure :=
  ⟨rfl, rfl, rfl, rfl, rfl⟩

theorem isHelp_help : (style.help user).IsHelp :=
  ⟨rfl, rfl, rfl⟩

theorem reasonFields_eq {reason : Option String} (nonempty : reason ≠ some "") :
    reasonFields reason = (reason.map fun reason => Field.mk "Reason" reason false).toList := by
  cases reason with
  | none => rfl
  | some reason =>
      rw [ne_eq, Option.some.injEq] at nonempty
      rw [reasonFields, if_neg nonempty]
      rfl

theorem lists_success {roll : Roll} (nonempty : roll.reason ≠ some "") (outcome : Outcome) :
    (style.success user roll outcome).Lists roll roll.reason.isSome := by
  have fieldTitles_eq : (style.success user roll outcome).fieldTitles =
      ["Die", if roll.count = 1 then "Roll" else "Rolls"] ++
        (if roll.modifier = 0 then [] else ["Base Total", "Modifier", "Grand Total"]) ++
          if roll.reason.isSome then ["Reason"] else [] := by
    rw [Message.fieldTitles, success, reasonFields_eq nonempty, modifierFields]
    cases roll.reason <;> by_cases plain : roll.modifier = 0 <;> simp [plain]
  constructor
  case fieldTitles_eq => exact fieldTitles_eq
  case length_fields =>
    have lengths := congrArg List.length fieldTitles_eq
    rw [Message.fieldTitles, List.length_map] at lengths
    rw [lengths]
    split_ifs <;> rfl
  case footer_eq_some_iff => simp
  case footer_eq_none_iff => simp

end ReplyStyle

namespace Game

variable {σ : Type} [Randomness σ] {game : Game} {text : String}

theorem isSuccess_reply_iff (game : Game) (turn : Turn) (user : String) :
    (game.reply turn user).IsSuccess ↔ ∃ roll outcome, turn = .rolled roll outcome := by
  cases turn with
  | help => exact iff_of_false (fun shape => nomatch shape.tone_eq) nofun
  | rejected refusal => exact iff_of_false (fun shape => nomatch shape.tone_eq) nofun
  | rolled roll outcome =>
      exact iff_of_true (game.style.isSuccess_success user roll outcome) ⟨roll, outcome, rfl⟩

theorem isFailure_reply_iff (game : Game) (turn : Turn) (user : String) :
    (game.reply turn user).IsFailure ↔ ∃ refusal, turn = .rejected refusal := by
  cases turn with
  | help => exact iff_of_false (fun shape => nomatch shape.tone_eq) nofun
  | rejected refusal =>
      exact iff_of_true (game.style.isFailure_failure user refusal) ⟨refusal, rfl⟩
  | rolled roll outcome => exact iff_of_false (fun shape => nomatch shape.tone_eq) nofun

theorem isHelp_reply_iff (game : Game) (turn : Turn) (user : String) :
    (game.reply turn user).IsHelp ↔ turn = .help := by
  cases turn with
  | help => exact iff_of_true (game.style.isHelp_help user) rfl
  | rejected refusal => exact iff_of_false (fun shape => nomatch shape.tone_eq) nofun
  | rolled roll outcome => exact iff_of_false (fun shape => nomatch shape.tone_eq) nofun

theorem reason_ne_empty {roll : Roll} (parsed : parse text = .ok (.roll roll)) :
    roll.reason ≠ some "" := by
  intro empty
  have tidy := (Command.canonical_of_parse parsed).reason_tidy "" empty
  exact tidy.ne_nil rfl

/-- The shape of a reply tells what became of the command, whatever the limits and the source:
a success tells of a roll, a failure of a rejection, and help of a call for help.  The fields
of a success are the die and the rolls, the totals if there is a modifier, and the reason if
something that is not blank was typed after the first word; two-sided dice have a footer. -/
theorem reply_shape_tells_turn (game : Game) (text user : String) (source : σ) :
    let turn := (game.play text source).1
    let message := (game.answer text user source).1
    (∃ attachment, message.toJson = .record
      [("response_type", .text message.visibility.word), ("attachments", .list [attachment])]) ∧
    (message.IsSuccess ↔ ∃ roll outcome, turn = .rolled roll outcome) ∧
    (message.IsFailure ↔ ∃ refusal, turn = .rejected refusal) ∧
    (message.IsHelp ↔ turn = .help) ∧
    ∀ roll outcome, turn = .rolled roll outcome →
      parse text = .ok (.roll roll) ∧
        message.Lists roll ((afterWord text).any fun c => !isBlank c) := by
  intro turn message
  refine ⟨⟨_, rfl⟩, game.isSuccess_reply_iff turn user, game.isFailure_reply_iff turn user,
    game.isHelp_reply_iff turn user, ?_⟩
  intro roll outcome rolled
  obtain ⟨parsed, -⟩ := request_of_rolled rolled
  refine ⟨parsed, ?_⟩
  have lists := game.style.lists_success user (reason_ne_empty parsed) outcome
  have reasoned : roll.reason.isSome = (afterWord text).any fun c => !isBlank c := by
    rw [Bool.eq_iff_iff, List.any_eq_true, ← Option.ne_none_iff_isSome, ne_eq,
      Command.reason_eq_none_iff parsed]
    simp
  have message_eq : message = game.style.success user roll outcome :=
    congrArg (fun turn => game.reply turn user) rolled
  rw [message_eq, ← reasoned]
  exact lists

/-- A modifier that is too large leaves no totals, and the reason is found behind two blank
characters. -/
theorem reply_shape_tells_turn_large_modifier :
    let game : Game := ⟨{}, "/roll"⟩
    let message := (game.answer "2D2+2147483648  Für" "U1" (Script.mk [1, 9])).1
    (game.play "2D2+2147483648  Für" (Script.mk [1, 9])).1 =
        .rolled ⟨2, 2, 0, some "für"⟩ ⟨[1, 2], 3, 3⟩ ∧
      message.IsSuccess ∧ message.fieldTitles = ["Die", "Rolls", "Reason"] ∧
      message.attachment.footer = some coinFooter := by
  intro game message
  have rolled : (game.play "2D2+2147483648  Für" (Script.mk [1, 9])).1 =
      .rolled ⟨2, 2, 0, some "für"⟩ ⟨[1, 2], 3, 3⟩ := by
    decide +kernel
  obtain ⟨-, success, -, -, lists⟩ := game.reply_shape_tells_turn "2D2+2147483648  Für" "U1"
    (Script.mk [1, 9])
  have shown := (lists _ _ rolled).2
  have reasoned : ((afterWord "2D2+2147483648  Für").any fun c => !isBlank c) = true := by
    decide +kernel
  rw [reasoned] at shown
  exact ⟨rolled, success.mpr ⟨_, _, rolled⟩, shown.fieldTitles_eq,
    shown.footer_eq_some_iff.mpr rfl⟩

end Game
end SlashDice
