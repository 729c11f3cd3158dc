import SlashDice.Random.Source

/-!
# Scripted numbers

A script is a fixed list of values that is replayed in a circle.  Each draw
takes the first value and puts it back at the end, also when the bounds of the
draw are crossed and no number can be given.  An empty script always gives the
lower bound.
-/

namespace SlashDice

/-- The values of a script, the next one first. -/
structure Script where
  values : List UInt32
  deriving DecidableEq, Repr

namespace Script

/-- The nearest number to a value within two bounds in order. -/
def clamp (low high value : UInt32) : UInt32 :=
  if value < low then low else if high < value then high else value

/-- Replays the next value, moved into the bounds. -/
def draw (low high : UInt32) (script : Script) : Option UInt32 × Script :=
  match script.values with
  | [] => (some low, script)
  | value :: rest =>
    (if low ≤ high then some (clamp low high value) else none, ⟨rest ++ [value]⟩)

@[simp]
theorem draw_nil (low high : UInt32) : draw low high ⟨[]⟩ = (some low, ⟨[]⟩) :=
  rfl

@[simp]
theorem draw_cons (low high value : UInt32) (rest : List UInt32) :
    draw low high ⟨value :: rest⟩ =
      (if low ≤ high then some (clamp low high value) else none, ⟨rest ++ [value]⟩) :=
  rfl

instance : Randomness Script where
  draw := draw
  draw_isSome := by
    rintro low high ⟨_ | ⟨value, rest⟩⟩ ordered
    · simp
    · simp [ordered]

@[simp]
theorem randomness_draw (low high : UInt32) (script : Script) :
    Randomness.draw low high script = script.draw low high :=
  rfl

theorem clamp_between {low high : UInt32} (value : UInt32) (ordered : low ≤ high) :
    low ≤ clamp low high value ∧ clamp low high value ≤ high := by
  unfold clamp
  split
  · exact ⟨UInt32.le_refl low, ordered⟩
  · split
    · exact ⟨ordered, UInt32.le_refl high⟩
    · exact ⟨UInt32.not_lt.mp ‹_›, UInt32.not_lt.mp ‹_›⟩

instance : LawfulRandomness Script where
  between := by
    rintro low high value ⟨_ | ⟨first, rest⟩⟩ ordered drawn
    · rw [randomness_draw, draw_nil] at drawn
      cases drawn
      exact ⟨UInt32.le_refl _, ordered⟩
    · rw [randomness_draw, draw_cons, if_pos ordered] at drawn
      cases drawn
      exact clamp_between first ordered

end Script
end SlashDice
