/-!
# Checks in order

Several conditions are checked one after the other, and the first that does not
hold is reported.  A computation decides a list of checks if it succeeds exactly
when all of them hold, and otherwise reports exactly the first failure.
-/

namespace SlashDice

/-- A condition, and the fault that is reported when it does not hold. -/
structure Check (φ : Type) where
  fault : φ
  holds : Prop

namespace Check

variable {φ α : Type} {check : Check φ} {checks rest : List (Check φ)} {fault : φ}

def AllHold (checks : List (Check φ)) : Prop :=
  ∀ check ∈ checks, check.holds

/-- The fault belongs to the first condition that does not hold. -/
def FirstFailure (checks : List (Check φ)) (fault : φ) : Prop :=
  ∃ passed failed rest, checks = passed ++ failed :: rest ∧
    AllHold passed ∧ ¬ failed.holds ∧ failed.fault = fault

/-- The result succeeds if all conditions hold, and otherwise names the first
failure. -/
structure Decides (checks : List (Check φ)) (result : Except φ α) : Prop where
  ok_iff : (∃ value, result = .ok value) ↔ AllHold checks
  error_iff : ∀ fault, result = .error fault ↔ FirstFailure checks fault

@[simp]
theorem allHold_cons : AllHold (check :: rest) ↔ check.holds ∧ AllHold rest :=
  List.forall_mem_cons

@[simp]
theorem not_firstFailure_nil : ¬ FirstFailure [] fault := by
  rintro ⟨passed, failed, rest, split, -⟩
  simp at split

@[simp]
theorem firstFailure_cons :
    FirstFailure (check :: rest) fault ↔
      (¬ check.holds ∧ check.fault = fault) ∨ (check.holds ∧ FirstFailure rest fault) := by
  constructor
  · rintro ⟨passed, failed, later, split, before, failure, named⟩
    cases passed with
    | nil =>
        obtain ⟨rfl, rfl⟩ := List.cons.inj split
        exact .inl ⟨failure, named⟩
    | cons first passed =>
        obtain ⟨rfl, rfl⟩ := List.cons.inj split
        have both := allHold_cons.mp before
        exact .inr ⟨both.1, passed, failed, later, rfl, both.2, failure, named⟩
  · rintro (⟨failure, named⟩ | ⟨here, passed, failed, later, rfl, before, failure, named⟩)
    · exact ⟨[], check, rest, rfl, List.forall_mem_nil _, failure, named⟩
    · exact ⟨check :: passed, failed, later, rfl, allHold_cons.mpr ⟨here, before⟩, failure,
        named⟩

@[simp]
theorem decides_nil (value : α) : Decides ([] : List (Check φ)) (.ok value) where
  ok_iff := ⟨fun _ => List.forall_mem_nil _, fun _ => ⟨value, rfl⟩⟩
  error_iff _ := by
    constructor
    · intro same
      cases same
    · intro failure
      exact absurd failure not_firstFailure_nil

theorem decides_cons_of_holds {result : Except φ α} (here : check.holds)
    (later : Decides rest result) : Decides (check :: rest) result where
  ok_iff := by
    rw [later.ok_iff, allHold_cons]
    exact ⟨fun all => ⟨here, all⟩, And.right⟩
  error_iff fault := by
    rw [later.error_iff, firstFailure_cons]
    exact ⟨fun failure => .inr ⟨here, failure⟩,
      fun either => either.elim (fun now => absurd here now.1) And.right⟩

theorem decides_cons_of_not_holds (failure : ¬ check.holds) :
    Decides (check :: rest) (.error check.fault : Except φ α) where
  ok_iff := by
    rw [allHold_cons]
    constructor
    · rintro ⟨value, same⟩
      cases same
    · intro all
      exact absurd all.1 failure
  error_iff fault := by
    rw [firstFailure_cons, Except.error.injEq]
    exact ⟨fun same => .inl ⟨failure, same⟩,
      fun either => either.elim And.right fun later => absurd later.1 failure⟩

/-- A fault that is reported at once when its condition does not hold, and otherwise
leaves the result to the checks after it. -/
theorem decides_dite {broken : Prop} [Decidable broken] {result : ¬ broken → Except φ α}
    (reported : broken ↔ ¬ check.holds) (later : ∀ passed, Decides rest (result passed)) :
    Decides (check :: rest)
      (if failure : broken then .error check.fault else result failure) := by
  split
  case isTrue failure => exact decides_cons_of_not_holds (reported.mp failure)
  case isFalse passed =>
    exact decides_cons_of_holds (Classical.not_not.mp (mt reported.mpr passed)) (later passed)

end Check
end SlashDice
