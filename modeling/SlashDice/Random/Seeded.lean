import SlashDice.Random.Source

/-!
# Seeded numbers

A generator that mixes a counter of 64 bits.  The same seed gives the same
numbers, and every number lies between the bounds of its draw.
-/

namespace SlashDice

structure Seeded where
  counter : UInt64
  deriving DecidableEq, Repr

namespace Seeded

def ofSeed (seed : UInt64) : Seeded :=
  ⟨seed⟩

def advance (generator : Seeded) : Seeded :=
  ⟨generator.counter + 0x9E3779B97F4A7C15⟩

def bits (generator : Seeded) : UInt64 :=
  let first := (generator.counter ^^^ (generator.counter >>> 30)) * 0xBF58476D1CE4E5B9
  let second := (first ^^^ (first >>> 27)) * 0x94D049BB133111EB
  second ^^^ (second >>> 31)

/-- One of the numbers between two bounds in order; crossed bounds are refused. -/
def draw (low high : UInt32) (generator : Seeded) : Option UInt32 × Seeded :=
  if low ≤ high then
    let width := high.toNat - low.toNat + 1
    (some (UInt32.ofNat (low.toNat + generator.advance.bits.toNat % width)),
      generator.advance)
  else
    (none, generator)

instance : Randomness Seeded where
  draw := draw
  draw_isSome := by
    intro low high generator ordered
    simp [draw, ordered]

instance : LawfulRandomness Seeded where
  between := by
    intro low high value generator ordered drawn
    change (generator.draw low high).1 = some value at drawn
    simp only [draw, ordered, if_true, Option.some.injEq] at drawn
    have bound : low.toNat ≤ high.toNat := UInt32.le_iff_toNat_le.mp ordered
    have remainder := Nat.mod_lt generator.advance.bits.toNat
      (show 0 < high.toNat - low.toNat + 1 by omega)
    have small := high.toNat_lt
    have exact : value.toNat =
        low.toNat + generator.advance.bits.toNat % (high.toNat - low.toNat + 1) := by
      rw [← drawn, UInt32.toNat_ofNat']
      exact Nat.mod_eq_of_lt (by omega)
    constructor
    · exact UInt32.le_iff_toNat_le.mpr (by omega)
    · exact UInt32.le_iff_toNat_le.mpr (by omega)

end Seeded
end SlashDice
