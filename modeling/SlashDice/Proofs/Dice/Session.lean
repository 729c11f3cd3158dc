import SlashDice.Dice.Session
import SlashDice.Proofs.Dice.Game
import SlashDice.Proofs.Random.Script

/-!
# Numbers over whole sessions

Only turns that are rolled take numbers from the source, one for each die.  So with a
script the dice of a turn show the values that come after those of all turns before
it, and calls that roll nothing can be left out or put in between without a change
for the others.
-/

namespace SlashDice

namespace Turn

def isRolled : Turn → Bool
  | rolled _ _ => true
  | help | rejected _ => false

/-- How many dice a turn throws: none if it is not rolled. -/
def dice : Turn → Nat
  | rolled roll _ => roll.count.toNat
  | help | rejected _ => 0

/-- The dice of a turn, if it is rolled, show the values from a place on in the endless
repetition of a script. -/
def Follows (values : List UInt32) (offset : Nat) (turn : Turn) : Prop :=
  ∀ roll outcome, turn = rolled roll outcome →
    outcome.rolls = (List.range roll.count.toNat).map fun die =>
      Script.replayed values 1 roll.sides (offset + die)

end Turn

namespace Game

variable {σ : Type} [Randomness σ] {game : Game} {text : String}

theorem play_snd_of_not_rolled {source : σ} (idle : (game.play text source).1.isRolled = false) :
    (game.play text source).2 = source := by
  have course := game.course_play text source
  generalize game.play text source = played at course idle ⊢
  cases course with
  | help => rfl
  | malformed => rfl
  | outOfLimits => rfl
  | rolled => cases idle

/-- A turn takes the values that come next, and leaves the script behind them. -/
theorem play_rotate (game : Game) (text : String) (values : List UInt32) (offset : Nat) :
    let played := game.play text (Script.mk (values.rotate offset))
    played.1.Follows values offset ∧ played.2 = ⟨values.rotate (offset + played.1.dice)⟩ := by
  intro played
  have course := game.course_play text (Script.mk (values.rotate offset))
  change Course game text _ played at course
  generalize played = result at course ⊢
  cases course with
  | help => exact ⟨nofun, rfl⟩
  | malformed => exact ⟨nofun, rfl⟩
  | outOfLimits => exact ⟨nofun, rfl⟩
  | @rolled roll request parsed admitted =>
      have drawn := Script.drawDice_rotate request.admitted.one_le_sides request.roll.count.toNat
        values offset
      rw [AdmittedRoll.throwDice, drawn, Limits.roll_of_check admitted]
      refine ⟨?_, rfl⟩
      rintro _ _ ⟨rfl, rfl⟩
      rfl

end Game

namespace Session

variable {σ : Type} [Randomness σ] {game : Game}

def Call.replyTo (game : Game) (turn : Turn) : Call → Reply
  | play _ => .turn turn
  | answer _ user => .message (game.reply turn user)

@[simp]
theorem replies_cons (first : Call) (rest : List Call) (source : σ) :
    replies game (first :: rest) source =
      first.replyTo game (game.play first.text source).1 ::
        replies game rest (game.play first.text source).2 := by
  cases first <;> rfl

/-- The state of the source when some calls have been made. -/
def sourceAfter (game : Game) (calls : List Call) (source : σ) : σ :=
  calls.foldl (fun source asked => (game.play asked.text source).2) source

theorem getElem?_turns (game : Game) (calls : List Call) (place : Nat) (source : σ) :
    (turns game calls source)[place]? = calls[place]?.map fun asked =>
      (game.play asked.text (sourceAfter game (calls.take place) source)).1 := by
  induction calls generalizing place source with
  | nil => rfl
  | cons first rest induction =>
      cases place with
      | zero => rfl
      | succ place => exact induction place _

theorem replies_eq (calls : List Call) (source : σ) :
    replies game calls source =
      List.zipWith (fun asked turn => asked.replyTo game turn) calls
        (turns game calls source) := by
  induction calls generalizing source with
  | nil => rfl
  | cons first rest induction =>
      rw [replies_cons, induction, turns_cons, List.zipWith_cons_cons]

/-- How many dice some turns throw together. -/
def diceThrown (turns : List Turn) : Nat :=
  (turns.map Turn.dice).sum

theorem sourceAfter_rotate (game : Game) (calls : List Call) (values : List UInt32) (offset : Nat) :
    sourceAfter game calls (Script.mk (values.rotate offset)) =
      ⟨values.rotate (offset +
        diceThrown (turns game calls (Script.mk (values.rotate offset))))⟩ := by
  induction calls generalizing offset with
  | nil => rfl
  | cons first rest induction =>
      have next := (game.play_rotate first.text values offset).2
      rw [sourceAfter, List.foldl_cons, next]
      refine (induction _).trans ?_
      simp only [turns_cons, next, diceThrown, List.map_cons, List.sum_cons, Nat.add_assoc]

/-- The items of a list that are not marked. -/
def unmarked {α : Type} (items : List (α × Bool)) : List α :=
  (items.filter fun item => !item.2).map Prod.fst

@[simp]
theorem unmarked_cons_true {α : Type} (item : α) (items : List (α × Bool)) :
    unmarked ((item, true) :: items) = unmarked items :=
  rfl

@[simp]
theorem unmarked_cons_false {α : Type} (item : α) (items : List (α × Bool)) :
    unmarked ((item, false) :: items) = item :: unmarked items :=
  rfl

/-- Without some calls that roll nothing, the other calls give back what they give back
with them. -/
theorem replies_unmarked (items : List (Call × Bool)) (source : σ)
    (idle : ∀ (place : Nat) (asked : Call) (turn : Turn), items[place]? = some (asked, true) →
      (turns game (items.map Prod.fst) source)[place]? = some turn → turn.isRolled = false) :
    replies game (unmarked items) source =
      unmarked ((replies game (items.map Prod.fst) source).zip (items.map Prod.snd)) := by
  induction items generalizing source with
  | nil => rfl
  | cons first rest induction =>
      obtain ⟨asked, mark⟩ := first
      have later := induction (game.play asked.text source).2 fun place =>
        idle (place + 1)
      rw [List.map_cons, List.map_cons, replies_cons, List.zip_cons_cons]
      cases mark with
      | false => rw [unmarked_cons_false, unmarked_cons_false, replies_cons, later]
      | true =>
          have unchanged := Game.play_snd_of_not_rolled (idle 0 asked _ rfl rfl)
          rw [unchanged] at later
          rw [unmarked_cons_true, unmarked_cons_true, unchanged, later]

/-- Over a whole session numbers go to rolled turns only.  The dice of a turn show the
values of the script that come after as many as the turns before it threw dice, and
its totals are those of its dice.  Calls that are answered with help or rejected may
be left out, or put in, and every other call gives back the same. -/
theorem rolled_turns_follow_script (game : Game)
    (fits : game.limits.maxDice.toNat * game.limits.maxSides.toNat < 2 ^ 62)
    (values : List UInt32) :
    (∀ (calls : List Call) (place : Nat) (asked : Call), calls[place]? = some asked →
      ∃ turn, (turns game calls (Script.mk values))[place]? = some turn ∧
        (replies game calls (Script.mk values))[place]? = some (asked.replyTo game turn) ∧
        ∀ roll outcome, turn = .rolled roll outcome →
          outcome.Shows roll ∧
          outcome.rolls = (List.range roll.count.toNat).map fun die =>
            Script.replayed values 1 roll.sides
              (diceThrown (turns game (calls.take place) (Script.mk values)) + die)) ∧
    ∀ items : List (Call × Bool),
      (∀ (place : Nat) (asked : Call) (turn : Turn), items[place]? = some (asked, true) →
        (turns game (items.map Prod.fst) (Script.mk values))[place]? = some turn →
          turn = .help ∨ ∃ refusal, turn = .rejected refusal) →
      replies game (unmarked items) (Script.mk values) =
        unmarked ((replies game (items.map Prod.fst) (Script.mk values)).zip
          (items.map Prod.snd)) := by
  constructor
  · intro calls place asked here
    have start : Script.mk (values.rotate 0) = Script.mk values :=
      congrArg Script.mk values.rotate_zero
    have before := sourceAfter_rotate game (calls.take place) values 0
    rw [start, Nat.zero_add] at before
    have played := getElem?_turns game calls place (Script.mk values)
    rw [here, Option.map_some, before] at played
    refine ⟨_, played, ?_, ?_⟩
    · rw [replies_eq, List.getElem?_zipWith_eq_some]
      exact ⟨asked, _, here, played, rfl⟩
    · intro roll outcome rolled
      exact ⟨(Game.shows_of_rolled fits rolled).2.2,
        (game.play_rotate asked.text values _).1 roll outcome rolled⟩
  · intro items idle
    refine replies_unmarked items _ fun place asked turn here played => ?_
    rcases idle place asked turn here played with rfl | ⟨refusal, rfl⟩ <;> rfl

/-- A rejected call between two throws from three values: the second throw goes on with
the value that is left and starts over. -/
theorem rolled_turns_follow_script_rejected_between :
    let game : Game := ⟨{}, "/roll"⟩
    let calls : List Call := [.play "2d8", .answer "0d0" "U1", .play "2d6"]
    let rolled : Turn := .rolled ⟨2, 6, 0, none⟩ ⟨[6, 4], 10, 10⟩
    game.limits.maxDice.toNat * game.limits.maxSides.toNat < 2 ^ 62 ∧
      (replies game calls (Script.mk [4, 7, 50]))[2]? = some (.turn rolled) ∧
      diceThrown (turns game (calls.take 2) (Script.mk [4, 7, 50])) = 2 ∧
      ([6, 4] = (List.range 2).map fun die => Script.replayed [4, 7, 50] 1 6 (2 + die)) ∧
      replies game [.play "2d8", .play "2d6"] (Script.mk [4, 7, 50]) =
        unmarked ((replies game calls (Script.mk [4, 7, 50])).zip [false, true, false]) := by
  intro game calls rolled
  have fits : game.limits.maxDice.toNat * game.limits.maxSides.toNat < 2 ^ 62 := by decide
  have played : turns game calls (Script.mk [4, 7, 50]) =
      [.rolled ⟨2, 8, 0, none⟩ ⟨[4, 7], 11, 11⟩, .rejected (.outOfLimits .tooFewSides),
        rolled] := by
    decide +kernel
  have before : diceThrown (turns game (calls.take 2) (Script.mk [4, 7, 50])) = 2 := by
    decide +kernel
  have whole := rolled_turns_follow_script game fits [4, 7, 50]
  obtain ⟨turn, here, replied, follows⟩ := whole.1 calls 2 (.play "2d6") rfl
  rw [played] at here
  cases here
  have shown := (follows _ _ rfl).2
  rw [before] at shown
  refine ⟨fits, replied, before, shown, ?_⟩
  refine whole.2 (calls.zip [false, true, false]) ?_
  intro place asked turn marked turned
  change (turns game calls (Script.mk [4, 7, 50]))[place]? = some turn at turned
  rw [played] at turned
  match place with
  | 0 => cases marked
  | 1 =>
      cases turned
      exact .inr ⟨_, rfl⟩
  | 2 => cases marked
  | _ + 3 => cases marked

end Session
end SlashDice
