import SlashDice.Dice.Throw

/-!
# Throws that share a source

Several throws may be under way at once.  Each takes its dice one at a time from
the same source, and a schedule says which of them draws next.  A throw that is
not interrupted is the throw of `AdmittedRoll.throwDice`.
-/

namespace SlashDice

/-- A throw under way: the roll and the values drawn so far, in order. -/
structure ThrowUnderWay (limits : Limits) where
  request : AdmittedRoll limits
  drawn : List UInt32 := []

namespace ThrowUnderWay

variable {σ : Type} [Randomness σ] {limits : Limits}

def isComplete (throwing : ThrowUnderWay limits) : Bool :=
  throwing.drawn.length == throwing.request.roll.count.toNat

def outcome? (throwing : ThrowUnderWay limits) : Option Outcome :=
  if throwing.isComplete then
    some (Outcome.ofRolls throwing.drawn throwing.request.roll.modifier)
  else
    none

def drawOne (throwing : ThrowUnderWay limits) (source : σ) : ThrowUnderWay limits × σ :=
  if throwing.isComplete then
    (throwing, source)
  else
    let (value, next) :=
      Randomness.drawOrdered 1 throwing.request.roll.sides
        throwing.request.admitted.one_le_sides source
    (⟨throwing.request, throwing.drawn ++ [value]⟩, next)

end ThrowUnderWay

/-- Throws under way and the source that they share. -/
structure SharedThrows (limits : Limits) (σ : Type) where
  throws : List (ThrowUnderWay limits)
  source : σ

namespace SharedThrows

variable {σ : Type} [Randomness σ] {limits : Limits}

def start (requests : List (AdmittedRoll limits)) (source : σ) : SharedThrows limits σ :=
  ⟨requests.map fun request => ⟨request, []⟩, source⟩

def step (shared : SharedThrows limits σ) (place : Nat) : SharedThrows limits σ :=
  match shared.throws[place]? with
  | some throwing =>
    let (later, next) := throwing.drawOne shared.source
    ⟨shared.throws.set place later, next⟩
  | none => shared

def run (shared : SharedThrows limits σ) (schedule : List Nat) : SharedThrows limits σ :=
  schedule.foldl step shared

/-- A throw on its own draws the rest of its dice one after the other. -/
theorem run_replicate (request : AdmittedRoll limits) (missing : Nat) (drawn : List UInt32)
    (source : σ) (rest : drawn.length + missing = request.roll.count.toNat) :
    run ⟨[⟨request, drawn⟩], source⟩ (List.replicate missing 0) =
      ⟨[⟨request, drawn ++ (Randomness.drawDice request.roll.sides
          request.admitted.one_le_sides missing source).1⟩],
        (Randomness.drawDice request.roll.sides
          request.admitted.one_le_sides missing source).2⟩ := by
  induction missing generalizing drawn source with
  | zero => simp [run, Randomness.drawDice]
  | succ missing induction =>
      have incomplete : (⟨request, drawn⟩ : ThrowUnderWay limits).isComplete = false := by
        simp only [ThrowUnderWay.isComplete, beq_eq_false_iff_ne]
        omega
      have first : step ⟨[⟨request, drawn⟩], source⟩ 0 =
          ⟨[⟨request, drawn ++ [(Randomness.drawOrdered 1 request.roll.sides
              request.admitted.one_le_sides source).1]⟩],
            (Randomness.drawOrdered 1 request.roll.sides
              request.admitted.one_le_sides source).2⟩ := by
        simp [step, ThrowUnderWay.drawOne, incomplete]
      rw [List.replicate_succ, run, List.foldl_cons, first]
      refine (induction _ _ ?_).trans ?_
      · simp only [List.length_append, List.length_singleton]
        omega
      · simp [Randomness.drawDice]

/-- A throw that is not interrupted has the outcome of throwing its dice at
once, and leaves the source in the same state. -/
theorem run_alone (request : AdmittedRoll limits) (source : σ) :
    let alone := (start [request] source).run (List.replicate request.roll.count.toNat 0)
    (alone.throws.map ThrowUnderWay.outcome?, alone.source) =
      ([some (request.throwDice source).1], (request.throwDice source).2) := by
  have whole := run_replicate request request.roll.count.toNat [] source (Nat.zero_add _)
  simp only [start, List.map_cons, List.map_nil, whole]
  simp [ThrowUnderWay.outcome?, ThrowUnderWay.isComplete,
    Randomness.length_drawDice, AdmittedRoll.throwDice]

end SharedThrows
end SlashDice
