import SlashDice.Audit.Log
import SlashDice.Proofs.Settings
import SlashDice.Random.Script

/-!
# Rolls in the columns of the audit table

A record has a row exactly if every value of a die fits a column of 32 bits with a
sign; the row has the same values in the same order, and a record without one is
refused before there is a query.  Under settings that pass their check every roll has
a row, and no sum of its values comes near the bounds of 64 bits.
-/

namespace SlashDice

section Columns

variable {rolls : List UInt32} {columns : List Int32} {entry : AuditRecord} {row : AuditRow}

theorem columnValue?_eq_some_iff {value : UInt32} {column : Int32} :
    columnValue? value = some column ↔ column.toInt = value.toNat := by
  have high := column.toInt_lt
  unfold columnValue?
  split
  case isTrue small =>
    have exact := Int32.toInt_ofNat_of_lt small
    rw [Option.some.injEq, ← exact, Int32.toInt_inj, eq_comm]
  case isFalse large =>
    apply iff_of_false nofun
    omega

theorem columnValue?_eq_none_iff {value : UInt32} :
    columnValue? value = none ↔ 2 ^ 31 - 1 < value.toNat := by
  unfold columnValue?
  split
  · apply iff_of_false nofun
    omega
  · apply iff_of_true rfl
    omega

/-- Columns are found for some values exactly if they show the same numbers. -/
theorem mapM_columnValue?_eq_some_iff :
    rolls.mapM columnValue? = some columns ↔
      columns.map Int32.toInt = rolls.map fun value => (value.toNat : Int) := by
  induction rolls generalizing columns with
  | nil => simp [eq_comm]
  | cons value rolls induction =>
      simp only [List.mapM_cons, Option.bind_eq_bind, Option.bind_eq_some_iff,
        columnValue?_eq_some_iff, induction, Option.pure_def, Option.some.injEq, List.map_cons]
      constructor
      · rintro ⟨first, here, rest, later, rfl⟩
        rw [List.map_cons, here, later]
      · intro same
        obtain ⟨first, rest, rfl, here, later⟩ := List.map_eq_cons_iff.mp same
        exact ⟨first, here, rest, later, rfl⟩

theorem mapM_columnValue?_eq_none_iff :
    rolls.mapM columnValue? = none ↔ ∃ value ∈ rolls, 2 ^ 31 - 1 < value.toNat := by
  induction rolls with
  | nil => simp
  | cons value rolls induction =>
      rw [List.exists_mem_cons_iff, ← induction, ← columnValue?_eq_none_iff, List.mapM_cons]
      cases columnValue? value with
      | none => simp
      | some first => cases rolls.mapM columnValue? <;> simp

theorem ofRecord_eq_ok_iff :
    AuditRow.ofRecord entry = .ok row ↔
      row.entry = entry ∧
        row.rolls.map Int32.toInt = entry.rolls.map fun value => (value.toNat : Int) := by
  obtain ⟨source, columns⟩ := row
  rw [← mapM_columnValue?_eq_some_iff, AuditRow.ofRecord]
  cases entry.rolls.mapM columnValue? <;> simp [eq_comm]

theorem ofRecord_eq_error_iff {fault : AuditFault} :
    AuditRow.ofRecord entry = .error fault ↔
      fault = .rollTooLarge ∧ ∃ value ∈ entry.rolls, 2 ^ 31 - 1 < value.toNat := by
  rw [← mapM_columnValue?_eq_none_iff, AuditRow.ofRecord]
  cases entry.rolls.mapM columnValue? <;> simp [eq_comm]

theorem exists_row_of_small (small : ∀ value ∈ entry.rolls, value.toNat ≤ 2 ^ 31 - 1) :
    ∃ row, AuditRow.ofRecord entry = .ok row := by
  cases made : AuditRow.ofRecord entry with
  | ok row => exact ⟨row, rfl⟩
  | error fault =>
      obtain ⟨-, value, inRolls, large⟩ := ofRecord_eq_error_iff.mp made
      have bound := small value inRolls
      omega

end Columns

namespace AuditLog

variable {m : Type → Type} [Monad m] (query : AuditRow → m (Except AuditFault Unit))
  {entry : AuditRecord}

theorem insertRecord_of_row {row : AuditRow} (made : AuditRow.ofRecord entry = .ok row) :
    insertRecord query entry = query row := by
  rw [insertRecord, made]

theorem insertRecord_of_fault {fault : AuditFault}
    (refused : AuditRow.ofRecord entry = .error fault) :
    insertRecord query entry = pure (.error fault) := by
  rw [insertRecord, refused]

end AuditLog

namespace Outcome

@[simp]
theorem valueSum_append (first rest : List UInt32) :
    valueSum (first ++ rest) = valueSum first + valueSum rest := by
  simp [valueSum]

theorem valueSum_take_le (rolls : List UInt32) (taken : Nat) :
    valueSum (rolls.take taken) ≤ valueSum rolls := by
  have whole := valueSum_append (rolls.take taken) (rolls.drop taken)
  rw [List.take_append_drop] at whole
  omega

/-- No sum wraps around: not that of the first values, not that of all of them, and not
the latter with any modifier. -/
structure NeverWraps (outcome : Outcome) : Prop where
  partialSum_eq : ∀ taken, (total (outcome.rolls.take taken)).toInt =
    valueSum (outcome.rolls.take taken)
  baseTotal_eq : outcome.baseTotal.toInt = valueSum outcome.rolls
  modified_eq : ∀ modifier : Int32,
    (outcome.baseTotal + modifier.toInt64).toInt = outcome.baseTotal.toInt + modifier.toInt

theorem neverWraps_ofRolls {rolls : List UInt32} (fits : valueSum rolls < 2 ^ 62)
    (modifier : Int32) : (ofRolls rolls modifier).NeverWraps := by
  constructor
  case partialSum_eq =>
    intro taken
    apply toInt_total
    have part := valueSum_take_le rolls taken
    simp only [ofRolls]
    omega
  case baseTotal_eq => exact (exact_ofRolls fits modifier).baseTotal_eq
  case modified_eq => exact fun other => (exact_ofRolls fits other).grandTotal_eq

end Outcome

namespace Settings

variable {settings : Settings} {σ : Type} [Randomness σ] {name text : String} {source : σ}
  {roll : Roll} {outcome : Outcome}

theorem Usable.neverWraps_of_rolled (usable : settings.Usable)
    (rolled : (Game.play ⟨settings.limits, name⟩ text source).1 = .rolled roll outcome) :
    outcome.NeverWraps := by
  obtain ⟨-, request, rfl, rfl⟩ := Game.request_of_rolled rolled
  exact Outcome.neverWraps_ofRolls (usable.valueSum_lt request source) _

theorem Usable.value_le_of_rolled [LawfulRandomness σ] (usable : settings.Usable)
    (rolled : (Game.play ⟨settings.limits, name⟩ text source).1 = .rolled roll outcome) :
    ∀ value ∈ outcome.rolls, value.toNat ≤ 1000000 := by
  obtain ⟨-, admits, shows⟩ := Game.shows_of_rolled usable.maxDice_mul_maxSides_lt rolled
  intro value inRolls
  have sides : roll.sides ≤ 1000000 := UInt32.le_trans admits.le_maxSides usable.maxSides_le
  exact UInt32.le_iff_toNat_le.mp (UInt32.le_trans (shows.within value inRolls).2 sides)

end Settings

/-- Under settings that pass their check, no sum of the values of a roll wraps around, with
any modifier, and the record of the roll has a row, so that the audit table is asked to
keep it.  A record has no row exactly if some value is too large for its column, and then
there is no query at all; the row of a record has its values in their order. -/
theorem accepted_rolls_fit :
    (∀ settings : Settings, settings.check = .ok () →
      ∀ {σ : Type} [Randomness σ] [LawfulRandomness σ] (name text : String) (source : σ)
        (roll : Roll) (outcome : Outcome),
        (Game.play ⟨settings.limits, name⟩ text source).1 = .rolled roll outcome →
          outcome.NeverWraps ∧ outcome.Exact roll.modifier ∧
          Outcome.valueSum outcome.rolls ≤ 100000 * 1000000 ∧
          ∀ user team rolledAt,
            let entry : AuditRecord := .ofThrow user team roll outcome rolledAt
            ∃ row, AuditRow.ofRecord entry = .ok row ∧
              ∀ insert, (AuditLog.database insert).write entry = insert row) ∧
    ∀ entry : AuditRecord,
      ((∃ fault, AuditRow.ofRecord entry = .error fault) ↔
        ∃ value ∈ entry.rolls, 2 ^ 31 - 1 < value.toNat) ∧
      ((∃ value ∈ entry.rolls, 2 ^ 31 - 1 < value.toNat) →
        ∀ {m : Type → Type} [Monad m] (query : AuditRow → m (Except AuditFault Unit)),
          AuditLog.insertRecord query entry = pure (.error .rollTooLarge)) ∧
      ∀ row, AuditRow.ofRecord entry = .ok row →
        row.entry = entry ∧
          row.rolls.map Int32.toInt = entry.rolls.map fun value => (value.toNat : Int) := by
  constructor
  · intro settings accepted σ _ _ name text source roll outcome rolled
    have usable := Settings.check_eq_ok_iff.mp accepted
    have most := usable.value_le_of_rolled rolled
    refine ⟨usable.neverWraps_of_rolled rolled, usable.exact_of_rolled rolled, ?_, ?_⟩
    · obtain ⟨-, admits, shows⟩ := Game.shows_of_rolled usable.maxDice_mul_maxSides_lt rolled
      have sum := Outcome.valueSum_le_of_le most
      have few := UInt32.le_iff_toNat_le.mp
        (UInt32.le_trans admits.le_maxDice usable.maxDice_le)
      rw [shows.length_eq] at sum
      exact sum.trans (Nat.mul_le_mul_right _ few)
    · intro user team rolledAt
      have small : ∀ value ∈ (AuditRecord.ofThrow user team roll outcome rolledAt).rolls,
          value.toNat ≤ 2 ^ 31 - 1 := fun value inRolls => (most value inRolls).trans (by decide)
      obtain ⟨row, made⟩ := exists_row_of_small small
      exact ⟨row, made, fun insert => AuditLog.insertRecord_of_row (m := Id) insert made⟩
  · intro entry
    refine ⟨by simp [ofRecord_eq_error_iff], ?_, fun row => ofRecord_eq_ok_iff.mp⟩
    intro large m _ query
    exact AuditLog.insertRecord_of_fault query (ofRecord_eq_error_iff.mpr ⟨rfl, large⟩)

/-- The largest dice and modifier that settings may allow, and a record with a value that
no die shows: a table that counts its queries is asked for none. -/
theorem accepted_rolls_fit_largest :
    let settings : Settings :=
      { Settings.standard with mode := .development, maxDice := 100000, maxSides := 1000000 }
    let game : Game := ⟨settings.limits, "/roll"⟩
    let roll : Roll := ⟨2, 1000000, 2147483647, none⟩
    let outcome : Outcome := ⟨[1000000, 1000000], 2000000, 2149483647⟩
    let entry : AuditRecord := .ofThrow "U1" none roll outcome ⟨0, 0⟩
    let counted (_ : AuditRow) : StateM Nat (Except AuditFault Unit) :=
      fun queries => (.ok (), queries + 1)
    settings.check = .ok () ∧
      (game.play "2d1000000+2147483647" (Script.mk [4294967295])).1 = .rolled roll outcome ∧
      outcome.NeverWraps ∧
      AuditRow.ofRecord entry = .ok ⟨entry, [1000000, 1000000]⟩ ∧
      [1000000, 1000000].map Int32.toInt = entry.rolls.map (fun value => (value.toNat : Int)) ∧
      AuditLog.insertRecord counted { entry with rolls := [1, 2147483648, 3] } 0 =
        (.error .rollTooLarge, 0) := by
  intro settings game roll outcome entry counted
  obtain ⟨thrown, recorded⟩ := accepted_rolls_fit
  have rolled : (game.play "2d1000000+2147483647" (Script.mk [4294967295])).1 =
      .rolled roll outcome := by
    decide +kernel
  have made : AuditRow.ofRecord entry = .ok ⟨entry, [1000000, 1000000]⟩ := rfl
  refine ⟨rfl, rolled, (thrown settings rfl "/roll" _ _ roll outcome rolled).1, made,
    ((recorded entry).2.2 _ made).2, ?_⟩
  rw [(recorded { entry with rolls := [1, 2147483648, 3] }).2.1 ⟨2147483648, by simp, by decide⟩]
  rfl

end SlashDice
