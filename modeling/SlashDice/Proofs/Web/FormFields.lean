import SlashDice.Proofs.Entries
import SlashDice.Web.Form

/-!
# Fields of a form

A form gives a field at most once if its name stands in one pair at most, and then the
place of that pair does not matter: its value is found.
-/

namespace SlashDice
namespace Web
namespace Form

variable {fields seen : List String} {pairs : List (String × String)} {field value : String}

/-- How often a field is given. -/
def timesGiven (pairs : List (String × String)) (field : String) : Nat :=
  (pairs.map Prod.fst).count field

/-- What a form gives for a field: the value of a pair with its name, or the empty text
if there is no such pair. -/
def Gives (pairs : List (String × String)) (field value : String) : Prop :=
  (field, value) ∈ pairs ∨ timesGiven pairs field = 0 ∧ value = ""

theorem timesGiven_cons (name value : String) (rest : List (String × String)) (field : String) :
    timesGiven ((name, value) :: rest) field =
      timesGiven rest field + if name = field then 1 else 0 := by
  simp [timesGiven, List.count_cons]

theorem one_le_timesGiven (member : (field, value) ∈ pairs) : 1 ≤ timesGiven pairs field :=
  List.count_pos_iff.mpr (List.mem_map_of_mem member)

/-- No field is seen again exactly if those seen before are not given, and the others
once at most. -/
theorem repeatedAfter?_eq_none_iff : repeatedAfter? fields seen pairs = none ↔
    ∀ field ∈ fields, timesGiven pairs field + (if field ∈ seen then 1 else 0) ≤ 1 := by
  induction pairs generalizing seen with
  | nil =>
      refine iff_of_true rfl fun field _ => ?_
      change 0 + _ ≤ 1
      split <;> decide
  | cons pair rest induction =>
      obtain ⟨name, value⟩ := pair
      simp only [repeatedAfter?, timesGiven_cons, Bool.and_eq_true, List.contains_iff_mem]
      by_cases again : name ∈ fields ∧ name ∈ seen
      · rw [if_pos again]
        refine iff_of_false nofun fun atMost => ?_
        have twice := atMost name again.1
        rw [if_pos rfl, if_pos again.2] at twice
        omega
      · rw [if_neg again, induction]
        refine forall₂_congr fun field inFields => ?_
        by_cases same : name = field
        · subst same
          have new : name ∉ seen := fun old => again ⟨inFields, old⟩
          simp [new]
        · simp [same, Ne.symm same]

theorem firstRepeated?_eq_none_iff : firstRepeated? fields pairs = none ↔
    ∀ field ∈ fields, timesGiven pairs field ≤ 1 := by
  simp [firstRepeated?, repeatedAfter?_eq_none_iff]

/-- The field that is seen again is one of the fields, and it is given twice, counting
those seen before. -/
theorem twice_of_repeatedAfter?_eq_some (found : repeatedAfter? fields seen pairs = some field) :
    field ∈ fields ∧ 1 < timesGiven pairs field + (if field ∈ seen then 1 else 0) := by
  induction pairs generalizing seen with
  | nil => cases found
  | cons pair rest induction =>
      obtain ⟨name, value⟩ := pair
      simp only [repeatedAfter?, Bool.and_eq_true, List.contains_iff_mem] at found
      rw [timesGiven_cons]
      by_cases again : name ∈ fields ∧ name ∈ seen
      · rw [if_pos again] at found
        cases found
        refine ⟨again.1, ?_⟩
        rw [if_pos rfl, if_pos again.2]
        omega
      · rw [if_neg again] at found
        obtain ⟨inFields, twice⟩ := induction found
        refine ⟨inFields, ?_⟩
        by_cases same : name = field
        · subst same
          have new : name ∉ seen := fun old => again ⟨inFields, old⟩
          simpa [new] using twice
        · simpa [same, Ne.symm same] using twice

theorem twice_of_firstRepeated?_eq_some (found : firstRepeated? fields pairs = some field) :
    field ∈ fields ∧ 1 < timesGiven pairs field := by
  simpa using twice_of_repeatedAfter?_eq_some found

theorem lookup_of_mem (once : timesGiven pairs field ≤ 1) (member : (field, value) ∈ pairs) :
    pairs.lookup field = some value :=
  Entries.lookup_of_mem once member

/-- What is found for a field, empty if nothing is, is what the form gives. -/
theorem getD_lookup_of_gives (once : timesGiven pairs field ≤ 1)
    (gives : Gives pairs field value) : (pairs.lookup field).getD "" = value := by
  rcases gives with member | ⟨absent, rfl⟩
  · rw [lookup_of_mem once member, Option.getD_some]
  · cases found : pairs.lookup field with
    | none => rfl
    | some content =>
        obtain ⟨before, after, rfl, -⟩ := List.lookup_eq_some_iff.mp found
        have given : 1 ≤ timesGiven (before ++ (field, content) :: after) field :=
          one_le_timesGiven (List.mem_append_right _ (List.mem_cons_self ..))
        omega

end Form
end Web
end SlashDice
