import SlashDice.Proofs.Random.Script
import SlashDice.Random.Lock

/-!
# Replaying a script behind a lock

Every draw turns the script by one value, whether it is answered or refused, and a
poisoned lock changes no answer.  So the answers to any draws depend only on their bounds
and on their places in the endless repetition of the values.
-/

namespace SlashDice
namespace Script

variable {low high : UInt32} {values : List UInt32} {place : Nat}

/-- The answer to a draw at a place in the endless repetition of some values: none if
there are values and the bounds are crossed. -/
def answerAt (values : List UInt32) (low high : UInt32) (place : Nat) : Option UInt32 :=
  if values ≠ [] ∧ high < low then none else some (replayed values low high place)

theorem answerAt_eq_none_iff :
    answerAt values low high place = none ↔ values ≠ [] ∧ high < low := by
  simp [answerAt]

theorem toNat_clamp (ordered : low ≤ high) (value : UInt32) :
    (clamp low high value).toNat = max low.toNat (min value.toNat high.toNat) := by
  rw [UInt32.le_iff_toNat_le] at ordered
  unfold clamp
  split
  case isTrue below =>
    rw [UInt32.lt_iff_toNat_lt] at below
    omega
  case isFalse notBelow =>
    rw [UInt32.not_lt, UInt32.le_iff_toNat_le] at notBelow
    split
    case isTrue above =>
      rw [UInt32.lt_iff_toNat_lt] at above
      omega
    case isFalse notAbove =>
      rw [UInt32.not_lt, UInt32.le_iff_toNat_le] at notAbove
      omega

/-- A draw between bounds in order moves the value of its place between them. -/
theorem answerAt_of_value {value : UInt32} (ordered : low ≤ high)
    (here : values[place % values.length]? = some value) :
    ∃ number, answerAt values low high place = some number ∧
      number.toNat = max low.toNat (min value.toNat high.toNat) := by
  have uncrossed : ¬(values ≠ [] ∧ high < low) :=
    fun crossed => UInt32.not_lt.mpr ordered crossed.2
  refine ⟨clamp low high value, ?_, toNat_clamp ordered value⟩
  rw [answerAt, if_neg uncrossed, replayed, here]

theorem draw_fst_of_crossed (nonempty : values ≠ []) (crossed : high < low) :
    (draw low high ⟨values⟩).1 = none := by
  obtain ⟨value, rest, rfl⟩ := List.exists_cons_of_ne_nil nonempty
  rw [draw_cons, if_neg (UInt32.not_le.mpr crossed)]

theorem draw_rotate (low high : UInt32) (values : List UInt32) (place : Nat) :
    draw low high ⟨values.rotate place⟩ =
      (answerAt values low high place, ⟨values.rotate (place + 1)⟩) := by
  refine Prod.ext ?_ ?_
  · by_cases refused : values ≠ [] ∧ high < low
    · rw [answerAt, if_pos refused]
      exact draw_fst_of_crossed (mt List.rotate_eq_nil_iff.mp refused.1) refused.2
    · rw [answerAt, if_neg refused]
      by_cases empty : values = []
      · rw [empty]
        rfl
      · exact draw_fst (UInt32.not_lt.mp fun crossed => refused ⟨empty, crossed⟩) values place
  · exact (draw_snd low high _).trans (congrArg Script.mk (List.rotate_rotate values place 1))

/-- A lock that is poisoned hides nothing, and a draw that is refused poisons it. -/
theorem drawLocked_rotate (low high : UInt32) (values : List UInt32) (place : Nat)
    (isPoisoned : Bool) :
    drawLocked low high ⟨⟨values.rotate place⟩, isPoisoned⟩ =
      (answerAt values low high place,
        ⟨⟨values.rotate (place + 1)⟩,
          isPoisoned || (answerAt values low high place).isNone⟩) := by
  simp only [drawLocked, Locked.hold, Locked.enter_eq, draw_rotate]

/-- Some draws give the answers of the places that come next, and leave the script
behind them; the lock is poisoned if one of them was refused. -/
theorem drawAllLocked_rotate (bounds : List (UInt32 × UInt32)) (values : List UInt32)
    (place : Nat) (isPoisoned : Bool) :
    let answers := bounds.mapIdx fun call pair => answerAt values pair.1 pair.2 (place + call)
    drawAllLocked bounds ⟨⟨values.rotate place⟩, isPoisoned⟩ =
      (answers, ⟨⟨values.rotate (place + bounds.length)⟩,
        isPoisoned || answers.any Option.isNone⟩) := by
  induction bounds generalizing place isPoisoned with
  | nil => simp [drawAllLocked]
  | cons pair rest induction =>
      intro answers
      have shifted (call : Nat) : place + 1 + call = place + (call + 1) := by omega
      have later : answers = answerAt values pair.1 pair.2 place ::
          rest.mapIdx fun call pair => answerAt values pair.1 pair.2 (place + 1 + call) := by
        simp only [answers, List.mapIdx_cons, shifted, Nat.add_zero]
      simp only [drawAllLocked, drawLocked_rotate, induction, later, shifted, List.length_cons,
        List.any_cons, Bool.or_assoc]

theorem drawAllLocked_concat (bounds : List (UInt32 × UInt32)) (low high : UInt32)
    (locked : Locked Script) :
    (drawAllLocked (bounds ++ [(low, high)]) locked).2 =
      (drawLocked low high (drawAllLocked bounds locked).2).2 := by
  induction bounds generalizing locked with
  | nil => rfl
  | cons pair rest induction => exact induction _

/-- The answers to the first of some draws from a new script, and what is behind the lock
after them. -/
def firstDraws (values : List UInt32) (bounds : List (UInt32 × UInt32)) (calls : Nat) :
    List (Option UInt32) × Locked Script :=
  drawAllLocked (bounds.take calls) ⟨⟨values⟩, false⟩

theorem firstDraws_eq (values : List UInt32) (bounds : List (UInt32 × UInt32)) (calls : Nat) :
    firstDraws values bounds calls =
      ((bounds.take calls).mapIdx fun call pair => answerAt values pair.1 pair.2 call,
        ⟨⟨values.rotate (bounds.take calls).length⟩,
          (firstDraws values bounds calls).1.any Option.isNone⟩) := by
  have run := drawAllLocked_rotate (bounds.take calls) values 0 false
  simp only [List.rotate_zero, Nat.zero_add, Bool.false_or] at run
  simp only [firstDraws, run]

/-- Draws from a script behind a lock, with any bounds.  After some of them the script is
turned by their number, so it holds the same values as before.  A draw is refused exactly
if there are values and its bounds are crossed, which poisons the lock; otherwise it gives
the value of its place in the endless repetition, moved between its bounds, or the lower
bound if there are no values.  A refused draw uses up its value as any other draw does, and
the draws behind it are answered all the same. -/
theorem locked_draws_replay_script (values : List UInt32) (bounds : List (UInt32 × UInt32)) :
    (∀ calls ≤ bounds.length, (firstDraws values bounds calls).1.length = calls ∧
      (firstDraws values bounds calls).2.content.values = values.rotate (calls % values.length) ∧
      (firstDraws values bounds calls).2.content.values.Perm values ∧
      (firstDraws values bounds calls).2.isPoisoned =
        (firstDraws values bounds calls).1.any Option.isNone) ∧
    ∀ call low high, bounds[call]? = some (low, high) →
      ∃ answer, drawLocked low high (firstDraws values bounds call).2 =
          (answer, (firstDraws values bounds (call + 1)).2) ∧
        (∀ calls, call < calls → (firstDraws values bounds calls).1[call]? = some answer) ∧
        (answer = none ↔ values ≠ [] ∧ high < low) ∧
        (values = [] → answer = some low) ∧
        ∀ value, values[call % values.length]? = some value → low ≤ high →
          ∃ number, answer = some number ∧
            number.toNat = max low.toNat (min value.toNat high.toNat) := by
  refine ⟨?_, ?_⟩
  · intro calls within
    have length : (bounds.take calls).length = calls := List.length_take_of_le within
    refine ⟨?_, ?_, ?_, congrArg (·.2.isPoisoned) (firstDraws_eq values bounds calls)⟩
    · rw [firstDraws_eq, List.length_mapIdx, length]
    · rw [firstDraws_eq, length, List.rotate_mod]
    · rw [firstDraws_eq]
      exact List.rotate_perm values _
  · intro call low high here
    obtain ⟨within, same⟩ := List.getElem?_eq_some_iff.mp here
    refine ⟨answerAt values low high call, ?_, ?_, answerAt_eq_none_iff, ?_, ?_⟩
    · have next : bounds.take (call + 1) = bounds.take call ++ [(low, high)] := by
        rw [List.take_succ_eq_append_getElem within, same]
      refine Prod.ext ?_ ?_
      · rw [firstDraws_eq, drawLocked_rotate, List.length_take_of_le (Nat.le_of_lt within)]
      · simp only [firstDraws, next, drawAllLocked_concat]
    · intro calls before
      rw [firstDraws_eq, List.getElem?_mapIdx, List.getElem?_take_of_lt before, here,
        Option.map_some]
    · rintro rfl
      rfl
    · exact fun value valueHere ordered => answerAt_of_value ordered valueHere

/-- Two values, and a draw between crossed bounds between two others: it is refused and uses
up the second value, and the draw behind it gives the first one again. -/
theorem locked_draws_replay_script_crossed_between :
    let drawn := firstDraws [4, 50] [(1, 6), (9, 2), (1, 3)]
    (drawn 2).2.content.values = [4, 50] ∧ (drawn 2).2.isPoisoned = true ∧
      (drawn 3).1[1]? = some none ∧ (drawn 3).1[2]? = some (some 3) := by
  intro drawn
  obtain ⟨turned, answered⟩ := locked_draws_replay_script [4, 50] [(1, 6), (9, 2), (1, 3)]
  obtain ⟨-, values, -, poisoned⟩ := turned 2 (by decide)
  obtain ⟨refused, -, second, crossed, -⟩ := answered 1 9 2 rfl
  obtain ⟨answer, -, third, -, -, moved⟩ := answered 2 1 3 rfl
  obtain ⟨number, rfl, moves⟩ := moved 4 rfl (by decide)
  have isThree : number = 3 := UInt32.toNat_inj.mp moves
  refine ⟨values, poisoned.trans rfl, ?_, ?_⟩
  · rw [second 3 (by decide), crossed.mpr (by decide)]
  · rw [third 3 (by decide), isThree]

end Script
end SlashDice
