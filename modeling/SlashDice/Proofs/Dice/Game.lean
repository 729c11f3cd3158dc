import SlashDice.Dice.Game
import SlashDice.Proofs.Dice.Command
import SlashDice.Proofs.Dice.Limits
import SlashDice.Proofs.Dice.Throw
import SlashDice.Random.Script

/-!
# Commands that are rolled

A command is rolled exactly if it asks for a roll within the limits.  The roll is
thrown as it was asked for, its outcome shows it, and its dice are all that is drawn
from the source; a roll outside the limits is rejected with the first limit that it
breaks.
-/

namespace SlashDice

open Command (parse parse_cases typedText typedWord exists_typed_of_parse)

/-- The bounds of the draws that belong to a turn. -/
def Turn.draws : Turn → List (UInt32 × UInt32)
  | .rolled roll _ => List.replicate roll.count.toNat (1, roll.sides)
  | .help | .rejected _ => []

namespace Game

variable {σ : Type} [Randomness σ] {game : Game} {text : String}

theorem play_of_help (parsed : parse text = .ok .help) (source : σ) :
    game.play text source = (.help, source) := by
  rw [play, parsed]

theorem play_of_refusal {refusal : Refusal} (parsed : parse text = .error refusal) (source : σ) :
    game.play text source = (.rejected refusal, source) := by
  rw [play, parsed]

theorem play_of_roll {roll : Roll} (parsed : parse text = .ok (.roll roll)) (source : σ) :
    game.play text source = game.playRoll roll source := by
  rw [play, parsed]

theorem play_of_fault {roll : Roll} {fault : LimitFault} (parsed : parse text = .ok (.roll roll))
    (broken : game.limits.check roll = .error fault) (source : σ) :
    game.play text source = (.rejected (.outOfLimits fault), source) := by
  rw [play_of_roll parsed, playRoll, broken]

theorem play_of_admitted {roll : Roll} {request : AdmittedRoll game.limits}
    (parsed : parse text = .ok (.roll roll)) (admitted : game.limits.check roll = .ok request)
    (source : σ) :
    game.play text source =
      (.rolled roll (request.throwDice source).1, (request.throwDice source).2) := by
  rw [play_of_roll parsed, playRoll, admitted, ← Limits.roll_of_check admitted]

/-- The courses that a command can take. -/
inductive Course (game : Game) (text : String) (source : σ) : Turn × σ → Prop
  | help : parse text = .ok .help → Course game text source (.help, source)
  | malformed {given : String} : parse text = .error (.malformed given) →
      Course game text source (.rejected (.malformed given), source)
  | outOfLimits {roll : Roll} {fault : LimitFault} : parse text = .ok (.roll roll) →
      game.limits.check roll = .error fault →
      Course game text source (.rejected (.outOfLimits fault), source)
  | rolled {roll : Roll} {request : AdmittedRoll game.limits} : parse text = .ok (.roll roll) →
      game.limits.check roll = .ok request →
      Course game text source
        (.rolled roll (request.throwDice source).1, (request.throwDice source).2)

theorem course_play (game : Game) (text : String) (source : σ) :
    Course game text source (game.play text source) := by
  rcases parse_cases text with ⟨-, parsed⟩ | ⟨-, roll, parsed⟩ | ⟨-, -, parsed⟩
  · rw [play_of_help parsed]
    exact .help parsed
  · cases checked : game.limits.check roll with
    | error fault =>
        rw [play_of_fault parsed checked]
        exact .outOfLimits parsed checked
    | ok request =>
        rw [play_of_admitted parsed checked]
        exact .rolled parsed checked
  · rw [play_of_refusal parsed]
    exact .malformed parsed

/-- A traced source takes the same course, and is asked for the draws of the turn. -/
theorem play_traced (game : Game) (text : String) (traced : Traced σ) :
    game.play text traced =
      ((game.play text traced.source).1, ⟨(game.play text traced.source).2,
        traced.requested ++ (game.play text traced.source).1.draws⟩) := by
  have course := game.course_play text traced.source
  generalize game.play text traced.source = played at course ⊢
  cases course with
  | help parsed => rw [play_of_help parsed, Turn.draws, List.append_nil]
  | malformed parsed => rw [play_of_refusal parsed, Turn.draws, List.append_nil]
  | outOfLimits parsed broken => rw [play_of_fault parsed broken, Turn.draws, List.append_nil]
  | rolled parsed admitted =>
      rw [play_of_admitted parsed admitted, AdmittedRoll.throwDice_traced,
        Limits.roll_of_check admitted]
      rfl

theorem draws_ordered (game : Game) (text : String) (source : σ) :
    ∀ bounds ∈ (game.play text source).1.draws, bounds.1 ≤ bounds.2 := by
  have course := game.course_play text source
  generalize game.play text source = played at course
  cases course with
  | help => exact List.forall_mem_nil _
  | malformed => exact List.forall_mem_nil _
  | outOfLimits => exact List.forall_mem_nil _
  | @rolled roll request parsed admitted =>
      intro bounds member
      rw [List.eq_of_mem_replicate member, ← Limits.roll_of_check admitted]
      exact request.admitted.one_le_sides

/-- A command that is rolled asked for its roll, which is within the limits and is thrown. -/
theorem request_of_rolled {roll : Roll} {outcome : Outcome} {source : σ}
    (rolled : (game.play text source).1 = .rolled roll outcome) :
    parse text = .ok (.roll roll) ∧ ∃ request : AdmittedRoll game.limits, request.roll = roll ∧
      (request.throwDice source).1 = outcome := by
  have course := game.course_play text source
  generalize game.play text source = played at course rolled
  cases course with
  | help => cases rolled
  | malformed => cases rolled
  | outOfLimits => cases rolled
  | rolled parsed admitted =>
      cases rolled
      exact ⟨parsed, _, Limits.roll_of_check admitted, rfl⟩

theorem exists_rolled_iff (game : Game) (text : String) (source : σ) :
    (∃ roll outcome, (game.play text source).1 = .rolled roll outcome) ↔
      ∃ roll, parse text = .ok (.roll roll) ∧ game.limits.Admits roll := by
  constructor
  · rintro ⟨roll, outcome, rolled⟩
    obtain ⟨parsed, request, rfl, -⟩ := request_of_rolled rolled
    exact ⟨_, parsed, request.admitted⟩
  · rintro ⟨roll, parsed, admits⟩
    obtain ⟨request, admitted⟩ :=
      (game.limits.check_decides roll).ok_iff.mpr (Limits.allHold_checks_iff.mpr admits)
    rw [play_of_admitted parsed admitted]
    exact ⟨roll, _, rfl⟩

theorem shows_of_rolled [LawfulRandomness σ] {roll : Roll} {outcome : Outcome} {source : σ}
    (fits : game.limits.maxDice.toNat * game.limits.maxSides.toNat < 2 ^ 62)
    (rolled : (game.play text source).1 = .rolled roll outcome) :
    parse text = .ok (.roll roll) ∧ game.limits.Admits roll ∧ outcome.Shows roll := by
  obtain ⟨parsed, request, rfl, rfl⟩ := request_of_rolled rolled
  exact ⟨parsed, request.admitted, request.shows_throwDice fits source⟩

theorem rejected_outOfLimits_iff (game : Game) (text : String) (source : σ)
    (fault : LimitFault) :
    (game.play text source).1 = .rejected (.outOfLimits fault) ↔
      ∃ roll, parse text = .ok (.roll roll) ∧
        Check.FirstFailure (game.limits.checks roll) fault := by
  constructor
  · intro rejected
    have course := game.course_play text source
    generalize game.play text source = played at course rejected
    cases course with
    | help => cases rejected
    | malformed => cases rejected
    | @outOfLimits roll _ parsed broken =>
        cases rejected
        exact ⟨roll, parsed, ((game.limits.check_decides roll).error_iff fault).mp broken⟩
    | rolled => cases rejected
  · rintro ⟨roll, parsed, first⟩
    rw [play_of_fault parsed (((game.limits.check_decides roll).error_iff fault).mpr first)]

/-- The number that stands in for too many sides to be read is beyond every limit but
the widest one, so the sides that are thrown are the sides that were typed. -/
theorem sides_of_rolled {roll : Roll} (parsed : parse text = .ok (.roll roll))
    (admits : game.limits.Admits roll) (narrow : game.limits.maxSides.toNat < UInt32.size - 1)
    (nonblank : typedText text ≠ []) :
    ∃ token, Token.Typed (typedWord text) token ∧
      roll.sides.toNat = Text.Numeral.decimal token.sides := by
  obtain ⟨token, typed, denotes⟩ := exists_typed_of_parse parsed nonblank
  refine ⟨token, typed, ?_⟩
  have bound := UInt32.le_iff_toNat_le.mp admits.le_maxSides
  have read := denotes.sides_eq
  split at read
  case isTrue => exact read
  case isFalse => omega

/-- Playing is sound and complete for the limits.  A command is rolled exactly if it
asks for a roll within them; then that roll is thrown, and its outcome shows it.  A
roll outside them is rejected with the first limit that it breaks.  The source is
never asked for a number between crossed bounds.  The sides that are thrown are the
ones that were typed, unless every number of 32 bits is allowed. -/
theorem play_sound_complete [LawfulRandomness σ] (game : Game)
    (fits : game.limits.maxDice.toNat * game.limits.maxSides.toNat < 2 ^ 62) (text : String)
    (source : σ) :
    ((∃ roll outcome, (game.play text source).1 = .rolled roll outcome) ↔
      ∃ roll, parse text = .ok (.roll roll) ∧ 2 ≤ roll.sides ∧
        roll.sides ≤ game.limits.maxSides ∧ 1 ≤ roll.count ∧
        roll.count ≤ game.limits.maxDice) ∧
    (∀ roll outcome, (game.play text source).1 = .rolled roll outcome →
      parse text = .ok (.roll roll) ∧ outcome.Shows roll) ∧
    (∀ fault, (game.play text source).1 = .rejected (.outOfLimits fault) ↔
      ∃ roll, parse text = .ok (.roll roll) ∧
        Check.FirstFailure (game.limits.checks roll) fault) ∧
    (∀ traced : Traced σ, ∃ asked,
      (game.play text traced).2.requested = traced.requested ++ asked ∧
        ∀ bounds ∈ asked, bounds.1 ≤ bounds.2) ∧
    (game.limits.maxSides.toNat < UInt32.size - 1 → typedText text ≠ [] →
      ∀ roll outcome, (game.play text source).1 = .rolled roll outcome →
        ∃ token, Token.Typed (typedWord text) token ∧
          roll.sides.toNat = Text.Numeral.decimal token.sides) := by
  refine ⟨?_, ?_, game.rejected_outOfLimits_iff text source, ?_, ?_⟩
  · rw [exists_rolled_iff]
    refine exists_congr fun roll => and_congr_right fun _ => ?_
    constructor
    · rintro ⟨manySides, manyDice, fewDice, fewSides⟩
      exact ⟨manySides, fewSides, manyDice, fewDice⟩
    · rintro ⟨manySides, fewSides, manyDice, fewDice⟩
      exact ⟨manySides, manyDice, fewDice, fewSides⟩
  · intro roll outcome rolled
    obtain ⟨parsed, -, shows⟩ := shows_of_rolled fits rolled
    exact ⟨parsed, shows⟩
  · intro traced
    refine ⟨(game.play text traced.source).1.draws, ?_, draws_ordered game text traced.source⟩
    rw [play_traced]
  · intro narrow nonblank roll outcome rolled
    obtain ⟨parsed, admits, -⟩ := shows_of_rolled fits rolled
    exact sides_of_rolled parsed admits narrow nonblank

/-- Two dice from a script whose second value is too large for them. -/
theorem play_sound_complete_two_dice :
    let game : Game := ⟨{}, "/roll"⟩
    let outcome : Outcome := ⟨[3, 6], 9, 10⟩
    game.limits.maxDice.toNat * game.limits.maxSides.toNat < 2 ^ 62 ∧
      (game.play "2D06+1 Für" (Script.mk [3, 250])).1 =
        .rolled ⟨2, 6, 1, some "für"⟩ outcome ∧
      outcome.Shows ⟨2, 6, 1, some "für"⟩ ∧
      ∃ token, Token.Typed (typedWord "2D06+1 Für") token ∧
        6 = Text.Numeral.decimal token.sides := by
  intro game outcome
  have fits : game.limits.maxDice.toNat * game.limits.maxSides.toNat < 2 ^ 62 := by decide
  have rolled : (game.play "2D06+1 Für" (Script.mk [3, 250])).1 =
      .rolled ⟨2, 6, 1, some "für"⟩ outcome := by decide +kernel
  have whole := play_sound_complete game fits "2D06+1 Für" (Script.mk [3, 250])
  have typed := whole.2.2.2.2 (by decide) (by decide +kernel) _ _ rolled
  exact ⟨fits, rolled, (whole.2.1 _ _ rolled).2, typed⟩

end Game
end SlashDice
