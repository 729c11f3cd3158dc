import Mathlib.Data.List.Rotate
import SlashDice.Random.Script

/-!
# Replaying a script

Each draw turns a script by one value, so after some draws it stands at their number
in the endless repetition of its values.  Dice that are thrown from there show the
values that come next, moved between one and the sides.
-/

namespace SlashDice
namespace Script

open Randomness

/-- The number at a place in the endless repetition of some values, moved into the
bounds of a draw; the lower bound if there are no values. -/
def replayed (values : List UInt32) (low high : UInt32) (place : Nat) : UInt32 :=
  match values[place % values.length]? with
  | some value => clamp low high value
  | none => low

theorem replayed_between (values : List UInt32) {low high : UInt32} (ordered : low ≤ high)
    (place : Nat) :
    low ≤ replayed values low high place ∧ replayed values low high place ≤ high := by
  unfold replayed
  split
  · exact clamp_between _ ordered
  · exact ⟨UInt32.le_refl low, ordered⟩

theorem draw_snd (low high : UInt32) (script : Script) :
    (script.draw low high).2 = ⟨script.values.rotate 1⟩ := by
  obtain ⟨values⟩ := script
  cases values with
  | nil => rfl
  | cons value rest => simp

theorem head?_rotate (values : List UInt32) (offset : Nat) :
    (values.rotate offset).head? = values[offset % values.length]? := by
  cases values with
  | nil => simp
  | cons value rest =>
      rw [← List.rotate_mod, List.head?_rotate (Nat.mod_lt _ (by simp))]

/-- A draw between bounds in order gives the value at which the script stands. -/
theorem draw_fst {low high : UInt32} (ordered : low ≤ high) (values : List UInt32)
    (offset : Nat) :
    (draw low high ⟨values.rotate offset⟩).1 = some (replayed values low high offset) := by
  have first := head?_rotate values offset
  rw [replayed]
  cases turned : values.rotate offset with
  | nil =>
      rw [turned] at first
      simp [← first]
  | cons value rest =>
      rw [turned] at first
      simp [← first, ordered]

theorem drawOrdered_rotate {low high : UInt32} (ordered : low ≤ high) (values : List UInt32)
    (offset : Nat) :
    drawOrdered low high ordered (Script.mk (values.rotate offset)) =
      (replayed values low high offset, ⟨values.rotate (offset + 1)⟩) := by
  refine Prod.ext ?_ ?_
  · exact Option.some.inj ((Option.some_get _).trans (draw_fst ordered values offset))
  · exact (draw_snd low high _).trans (congrArg Script.mk (List.rotate_rotate values offset 1))

theorem drawDice_rotate {sides : UInt32} (ordered : 1 ≤ sides) (count : Nat)
    (values : List UInt32) (offset : Nat) :
    drawDice sides ordered count (Script.mk (values.rotate offset)) =
      ((List.range count).map fun die => replayed values 1 sides (offset + die),
        ⟨values.rotate (offset + count)⟩) := by
  induction count generalizing offset with
  | zero => rfl
  | succ count induction =>
      simp only [drawDice, drawOrdered_rotate, induction, Nat.add_assoc, Nat.add_comm 1]
      rw [List.range_succ_eq_map, List.map_cons, List.map_map]
      rfl

end Script
end SlashDice
