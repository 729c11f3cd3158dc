/-!
# Random sources

A source hands out whole numbers between two bounds and goes on to its next
state.  Bounds in the wrong order are refused; bounds in order never are.
-/

namespace SlashDice

/-- States of a source of numbers.  A draw between crossed bounds may be
refused; a draw between bounds in order gives a number. -/
class Randomness (σ : Type) where
  draw : (low high : UInt32) → σ → Option UInt32 × σ
  draw_isSome : ∀ {low high : UInt32} (source : σ), low ≤ high →
    (draw low high source).1.isSome = true

/-- The sources whose numbers lie between the bounds of the draw. -/
class LawfulRandomness (σ : Type) [Randomness σ] : Prop where
  between : ∀ {low high value : UInt32} (source : σ), low ≤ high →
    (Randomness.draw low high source).1 = some value → low ≤ value ∧ value ≤ high

namespace Randomness

variable {σ : Type} [Randomness σ]

/-- The number that a draw between bounds in order gives, and the next state. -/
def drawOrdered (low high : UInt32) (ordered : low ≤ high) (source : σ) : UInt32 × σ :=
  ((draw low high source).1.get (draw_isSome source ordered), (draw low high source).2)

/-- The values of several dice of the same sides, drawn one after the other. -/
def drawDice (sides : UInt32) (ordered : 1 ≤ sides) : Nat → σ → List UInt32 × σ
  | 0, source => ([], source)
  | count + 1, source =>
    let (value, next) := drawOrdered 1 sides ordered source
    let (values, last) := drawDice sides ordered count next
    (value :: values, last)

@[simp]
theorem length_drawDice (sides : UInt32) (ordered : 1 ≤ sides) (count : Nat) (source : σ) :
    (drawDice sides ordered count source).1.length = count := by
  induction count generalizing source with
  | zero => rfl
  | succ count induction => simp [drawDice, induction]

theorem drawOrdered_between [LawfulRandomness σ] {low high : UInt32} (ordered : low ≤ high)
    (source : σ) :
    low ≤ (drawOrdered low high ordered source).1 ∧
      (drawOrdered low high ordered source).1 ≤ high :=
  LawfulRandomness.between source ordered (Option.some_get _).symm

theorem between_of_mem_drawDice [LawfulRandomness σ] {sides : UInt32} (ordered : 1 ≤ sides)
    (count : Nat) (source : σ) :
    ∀ value ∈ (drawDice sides ordered count source).1, 1 ≤ value ∧ value ≤ sides := by
  induction count generalizing source with
  | zero => exact List.forall_mem_nil _
  | succ count induction =>
      exact List.forall_mem_cons.mpr ⟨drawOrdered_between ordered source, induction _⟩

end Randomness
end SlashDice
