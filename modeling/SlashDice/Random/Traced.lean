import SlashDice.Random.Source

/-!
# Traced numbers

A source that hands out the numbers of another one and keeps the bounds of every
draw that is asked of it, refused draws included.  The numbers do not depend on
what is kept.
-/

namespace SlashDice

/-- A source with the bounds of the draws asked of it so far, the latest last. -/
structure Traced (σ : Type) where
  source : σ
  requested : List (UInt32 × UInt32) := []

namespace Traced

variable {σ : Type} [Randomness σ]

/-- Asks the source inside and keeps the bounds. -/
def draw (low high : UInt32) (traced : Traced σ) : Option UInt32 × Traced σ :=
  let drawn := Randomness.draw low high traced.source
  (drawn.1, ⟨drawn.2, traced.requested ++ [(low, high)]⟩)

instance : Randomness (Traced σ) where
  draw := draw
  draw_isSome traced ordered := Randomness.draw_isSome traced.source ordered

instance [LawfulRandomness σ] : LawfulRandomness (Traced σ) where
  between traced ordered drawn := LawfulRandomness.between traced.source ordered drawn

@[simp]
theorem drawOrdered_fst (low high : UInt32) (ordered : low ≤ high) (traced : Traced σ) :
    (Randomness.drawOrdered low high ordered traced).1 =
      (Randomness.drawOrdered low high ordered traced.source).1 :=
  rfl

@[simp]
theorem drawOrdered_snd (low high : UInt32) (ordered : low ≤ high) (traced : Traced σ) :
    (Randomness.drawOrdered low high ordered traced).2 =
      ⟨(Randomness.drawOrdered low high ordered traced.source).2,
        traced.requested ++ [(low, high)]⟩ :=
  rfl

/-- Some dice of the same sides show what they show without the trace, and ask for
one draw from one to the sides each. -/
theorem drawDice_eq (sides : UInt32) (ordered : 1 ≤ sides) (count : Nat) (traced : Traced σ) :
    Randomness.drawDice sides ordered count traced =
      ((Randomness.drawDice sides ordered count traced.source).1,
        ⟨(Randomness.drawDice sides ordered count traced.source).2,
          traced.requested ++ List.replicate count (1, sides)⟩) := by
  induction count generalizing traced with
  | zero => simp [Randomness.drawDice]
  | succ count induction =>
      simp only [Randomness.drawDice, drawOrdered_fst, drawOrdered_snd, induction,
        List.append_assoc, List.singleton_append, List.replicate_succ]

end Traced
end SlashDice
