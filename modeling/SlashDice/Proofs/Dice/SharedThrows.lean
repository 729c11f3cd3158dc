import Mathlib.Data.List.Induction
import SlashDice.Dice.SharedThrows
import SlashDice.Proofs.Dice.Throw
import SlashDice.Proofs.Random.Script

/-!
# Throws that share a script

However the single draws of several throws interleave, each draw takes the value at
which the script stands, so the script is always behind as many values as draws were
made.  What a throw has drawn is told by the draws of the schedule that are its own,
and once it is complete its outcome is that of its own dice.
-/

namespace SlashDice
namespace SharedThrows

variable {limits : Limits} {requests : List (AdmittedRoll limits)} {values : List UInt32}
  {schedule : List Nat} {place : Nat}

/-- The draws of a schedule, counted from zero, that one of the throws makes. -/
def drawsOf (schedule : List Nat) (place : Nat) : List Nat :=
  (List.range schedule.length).filter fun draw => schedule[draw]? == some place

/-- Each draw of an interleaving belongs to one of the rolls, and none of them draws more
often than it has dice. -/
def Interleaves (requests : List (AdmittedRoll limits)) (schedule : List Nat) : Prop :=
  ∀ place ∈ schedule, ∃ request, requests[place]? = some request ∧
    schedule.count place ≤ request.roll.count.toNat

/-- A throw takes the first value of the shared script, moved between one and its sides;
the value goes to the end of the script, and no other throw changes. -/
structure Draws (before after : SharedThrows limits Script) (place : Nat) (value : UInt32) :
    Prop where
  value_first : before.source.values.head? = some value
  value_last : after.source.values = before.source.values.tail ++ [value]
  throws_eq : ∃ throwing, before.throws[place]? = some throwing ∧ throwing.isComplete = false ∧
    after.throws = before.throws.set place
      ⟨throwing.request,
        throwing.drawn ++ [Script.clamp 1 throwing.request.roll.sides value]⟩

theorem drawsOf_concat (schedule : List Nat) (last place : Nat) :
    drawsOf (schedule ++ [last]) place =
      drawsOf schedule place ++ if last = place then [schedule.length] else [] := by
  have before : ∀ draw ∈ List.range schedule.length,
      ((schedule ++ [last])[draw]? == some place) = (schedule[draw]? == some place) := by
    intro draw member
    rw [List.getElem?_append_left (List.mem_range.mp member)]
  rw [drawsOf, List.length_append, List.length_singleton, List.range_succ, List.filter_append,
    List.filter_congr before, drawsOf]
  by_cases same : last = place <;> simp [same]

theorem length_drawsOf (schedule : List Nat) (place : Nat) :
    (drawsOf schedule place).length = schedule.count place := by
  induction schedule using List.reverseRecOn with
  | nil => rfl
  | append_singleton schedule last induction =>
      rw [drawsOf_concat, List.length_append, induction, List.count_append]
      by_cases same : last = place <;> simp [same]

theorem Interleaves.of_append {later : List Nat}
    (interleaves : Interleaves requests (schedule ++ later)) : Interleaves requests schedule := by
  intro place member
  obtain ⟨request, here, few⟩ := interleaves place (List.mem_append_left later member)
  rw [List.count_append] at few
  exact ⟨request, here, by omega⟩

theorem Interleaves.take (interleaves : Interleaves requests schedule) (n : Nat) :
    Interleaves requests (schedule.take n) := by
  rw [← List.take_append_drop n schedule] at interleaves
  exact interleaves.of_append

theorem Interleaves.count_lt (interleaves : Interleaves requests (schedule ++ [place])) :
    ∃ request, requests[place]? = some request ∧
      schedule.count place < request.roll.count.toNat := by
  obtain ⟨request, here, few⟩ := interleaves place (by simp)
  rw [List.count_append, List.count_singleton_self] at few
  exact ⟨request, here, by omega⟩

/-- A roll with the values that its draws of a schedule show. -/
def throwAfter (values : List UInt32) (schedule : List Nat) (place : Nat)
    (request : AdmittedRoll limits) : ThrowUnderWay limits :=
  ⟨request, (drawsOf schedule place).map (Script.replayed values 1 request.roll.sides)⟩

theorem isComplete_throwAfter {request : AdmittedRoll limits} :
    (throwAfter values schedule place request).isComplete = true ↔
      schedule.count place = request.roll.count.toNat := by
  simp [ThrowUnderWay.isComplete, throwAfter, length_drawsOf]

/-- The throws and the script after a schedule. -/
def stateAfter (requests : List (AdmittedRoll limits)) (values : List UInt32)
    (schedule : List Nat) : SharedThrows limits Script :=
  ⟨requests.mapIdx (throwAfter values schedule), ⟨values.rotate schedule.length⟩⟩

theorem getElem?_throws_stateAfter :
    (stateAfter requests values schedule).throws[place]? =
      requests[place]?.map (throwAfter values schedule place) := by
  rw [stateAfter, List.getElem?_mapIdx]

/-- The next draw of an incomplete throw shows the value at which the script stands. -/
theorem drawOne_throwAfter {request : AdmittedRoll limits}
    (left : schedule.count place < request.roll.count.toNat) :
    (throwAfter values schedule place request).drawOne (Script.mk (values.rotate schedule.length)) =
      (throwAfter values (schedule ++ [place]) place request,
        ⟨values.rotate (schedule ++ [place]).length⟩) := by
  have incomplete : ¬ (throwAfter values schedule place request).isComplete = true := by
    rw [isComplete_throwAfter]
    omega
  rw [ThrowUnderWay.drawOne, if_neg incomplete]
  simp only [throwAfter, Script.drawOrdered_rotate, drawsOf_concat, if_true, List.map_append,
    List.map_singleton, List.length_append, List.length_singleton]

theorem step_stateAfter (interleaves : Interleaves requests (schedule ++ [place])) :
    (stateAfter requests values schedule).step place =
      stateAfter requests values (schedule ++ [place]) := by
  obtain ⟨request, here, left⟩ := interleaves.count_lt
  rw [step, getElem?_throws_stateAfter, here, Option.map_some]
  simp only [stateAfter, drawOne_throwAfter left]
  congr 1
  ext other throwing
  rw [List.getElem?_set, List.getElem?_mapIdx, List.getElem?_mapIdx]
  by_cases same : place = other
  · subst same
    obtain ⟨inside, rfl⟩ := List.getElem?_eq_some_iff.mp here
    simp [inside]
  · simp [same, throwAfter, drawsOf_concat]

theorem start_eq_stateAfter : start requests (Script.mk values) = stateAfter requests values [] := by
  rw [start, stateAfter, List.length_nil, List.rotate_zero]
  congr 1
  ext place throwing
  simp [throwAfter, drawsOf]

/-- After an interleaving the script is behind its draws, and each throw holds the values of
its own draws. -/
theorem run_eq_stateAfter (interleaves : Interleaves requests schedule) :
    (start requests (Script.mk values)).run schedule = stateAfter requests values schedule := by
  -- From the end: the last draw is the one that finds the script turned by all others.
  induction schedule using List.reverseRecOn with
  | nil => exact start_eq_stateAfter
  | append_singleton schedule place induction =>
      have before := induction interleaves.of_append
      rw [run] at before ⊢
      rw [List.foldl_append, before, List.foldl_cons, List.foldl_nil, step_stateAfter interleaves]

theorem draws_stateAfter {value : UInt32}
    (interleaves : Interleaves requests (schedule ++ [place]))
    (here : values[schedule.length % values.length]? = some value) :
    Draws (stateAfter requests values schedule) (stateAfter requests values (schedule ++ [place]))
      place value := by
  have first : (values.rotate schedule.length).head? = some value := by
    rw [Script.head?_rotate, here]
  obtain ⟨request, found, left⟩ := interleaves.count_lt
  constructor
  case value_first => exact first
  case value_last =>
    obtain ⟨rest, split⟩ := List.head?_eq_some_iff.mp first
    have turned := List.rotate_rotate values schedule.length 1
    rw [split] at turned
    simp [stateAfter, split, ← turned]
  case throws_eq =>
    refine ⟨throwAfter values schedule place request, ?_, ?_, ?_⟩
    · rw [getElem?_throws_stateAfter, found, Option.map_some]
    · rw [Bool.eq_false_iff, ne_eq, isComplete_throwAfter]
      omega
    · rw [← step_stateAfter interleaves, step, getElem?_throws_stateAfter, found, Option.map_some]
      simp only [stateAfter, drawOne_throwAfter left]
      simp [throwAfter, drawsOf_concat, Script.replayed, here]

theorem outcome?_throwAfter {request : AdmittedRoll limits}
    (fits : limits.maxDice.toNat * limits.maxSides.toNat < 2 ^ 62)
    (complete : schedule.count place = request.roll.count.toNat) :
    ∃ outcome, (throwAfter values schedule place request).outcome? = some outcome ∧
      outcome.rolls = (throwAfter values schedule place request).drawn ∧
      outcome.Shows request.roll := by
  refine ⟨_, if_pos (isComplete_throwAfter.mpr complete), rfl, ?_⟩
  apply Outcome.shows_ofRolls
  · simpa [throwAfter, length_drawsOf] using complete
  · intro value member
    obtain ⟨draw, -, rfl⟩ := List.mem_map.mp member
    exact Script.replayed_between values request.admitted.one_le_sides draw
  · exact request.count_mul_sides_lt fits

/-- Throws that interleave draw from their script without loss and without giving a value
twice.  After some draws the script is turned by their number, each draw takes the value
that its number leads to, and a throw holds the values of its own draws in order; a throw
is complete when it has made as many draws as it has dice, and its outcome shows its roll. -/
theorem interleaved_draws_follow_script
    (fits : limits.maxDice.toNat * limits.maxSides.toNat < 2 ^ 62) (nonempty : values ≠ [])
    (interleaves : Interleaves requests schedule) :
    let state := fun draws => (start requests (Script.mk values)).run (schedule.take draws)
    (∀ draws ≤ schedule.length,
      (state draws).source = ⟨values.rotate (draws % values.length)⟩) ∧
    (∀ draw place, schedule[draw]? = some place →
      ∃ value, values[draw % values.length]? = some value ∧
        Draws (state draw) (state (draw + 1)) place value) ∧
    ∀ draws place request, requests[place]? = some request →
      ∃ throwing, (state draws).throws[place]? = some throwing ∧ throwing.request = request ∧
        throwing.drawn = (drawsOf (schedule.take draws) place).map
          (Script.replayed values 1 request.roll.sides) ∧
        (throwing.isComplete = true ↔
          (schedule.take draws).count place = request.roll.count.toNat) ∧
        (throwing.isComplete = true → ∃ outcome, throwing.outcome? = some outcome ∧
          outcome.rolls = throwing.drawn ∧ outcome.Shows request.roll) := by
  intro state
  have state_eq : ∀ draws, state draws = stateAfter requests values (schedule.take draws) :=
    fun draws => run_eq_stateAfter (interleaves.take draws)
  refine ⟨?_, ?_, ?_⟩
  · intro draws within
    rw [state_eq, stateAfter, List.length_take_of_le within, List.rotate_mod]
  · intro draw place here
    obtain ⟨within, rfl⟩ := List.getElem?_eq_some_iff.mp here
    have positive : 0 < values.length := List.length_pos_of_ne_nil nonempty
    have next : schedule.take (draw + 1) = schedule.take draw ++ [schedule[draw]] :=
      List.take_succ_eq_append_getElem within
    have value_here := List.getElem?_eq_getElem (Nat.mod_lt draw positive)
    refine ⟨_, value_here, ?_⟩
    have interleaves_next := interleaves.take (draw + 1)
    rw [state_eq, state_eq, next]
    rw [next] at interleaves_next
    apply draws_stateAfter interleaves_next
    rwa [List.length_take_of_le (Nat.le_of_lt within)]
  · intro draws place request here
    refine ⟨throwAfter values (schedule.take draws) place request, ?_, rfl, rfl,
      isComplete_throwAfter, ?_⟩
    · rw [state_eq, getElem?_throws_stateAfter, here, Option.map_some]
    · intro complete
      exact outcome?_throwAfter fits (isComplete_throwAfter.mp complete)

/-- Two throws of two dice that take turns at three values, one of them too large. -/
theorem interleaved_draws_follow_script_two_throws :
    let limits : Limits := ⟨10, 8, 10⟩
    let first : AdmittedRoll limits := ⟨⟨2, 8, 1, none⟩, by constructor <;> decide⟩
    let second : AdmittedRoll limits := ⟨⟨2, 6, -2, none⟩, by constructor <;> decide⟩
    let schedule := [0, 1, 1, 0]
    let shared := (start [first, second] (Script.mk [4, 7, 50])).run schedule
    limits.maxDice.toNat * limits.maxSides.toNat < 2 ^ 62 ∧ [4, 7, 50] ≠ ([] : List UInt32) ∧
      Interleaves [first, second] schedule ∧ shared.source = ⟨[7, 50, 4]⟩ ∧
      ∃ throwing outcome, shared.throws[1]? = some throwing ∧ throwing.drawn = [6, 6] ∧
        throwing.outcome? = some outcome ∧ outcome.rolls = [6, 6] ∧
        outcome.Shows ⟨2, 6, -2, none⟩ := by
  intro limits first second schedule shared
  have fits : limits.maxDice.toNat * limits.maxSides.toNat < 2 ^ 62 := by decide
  have nonempty : [4, 7, 50] ≠ ([] : List UInt32) := by decide
  have interleaves : Interleaves [first, second] schedule := by
    intro place member
    have either : place = 0 ∨ place = 1 := by
      simp only [schedule, List.mem_cons, List.not_mem_nil, or_false] at member
      omega
    rcases either with rfl | rfl
    · exact ⟨first, rfl, by decide⟩
    · exact ⟨second, rfl, by decide⟩
  obtain ⟨turned, -, thrown⟩ := interleaved_draws_follow_script fits nonempty interleaves
  obtain ⟨throwing, here, -, drawn, complete, shown⟩ := thrown 4 1 second rfl
  obtain ⟨outcome, found, rolls, shows⟩ := shown (complete.mpr rfl)
  have values : throwing.drawn = [6, 6] := drawn.trans (by decide)
  exact ⟨fits, nonempty, interleaves, turned 4 (Nat.le_refl 4), throwing, outcome, here, values,
    found, rolls.trans values, shows⟩

end SharedThrows
end SlashDice
