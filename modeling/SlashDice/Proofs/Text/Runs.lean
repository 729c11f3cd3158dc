/-!
# Runs of characters

A text can be cut after the run of characters of one kind that it begins with.
The cut is found again when the text is put together from a run and from a rest
that does not go on with it.
-/

namespace SlashDice
namespace Text

section Runs

variable {p : Char → Bool} {run rest : List Char}

/-- What may stand after a run: nothing, or a text that starts with a character of
another kind. -/
def EndsRun (p : Char → Bool) (rest : List Char) : Prop :=
  ∀ c ∈ rest.head?, p c = false

theorem endsRun_nil : EndsRun p [] := by
  intro c here
  cases here

theorem endsRun_cons {first : Char} (other : p first = false) (rest : List Char) :
    EndsRun p (first :: rest) := by
  intro c here
  cases here
  exact other

theorem takeWhile_append_of_endsRun (inRun : ∀ c ∈ run, p c = true) (ends : EndsRun p rest) :
    (run ++ rest).takeWhile p = run := by
  rw [List.takeWhile_append_of_pos inRun]
  cases rest with
  | nil => rw [List.takeWhile_nil, List.append_nil]
  | cons first rest =>
      rw [List.takeWhile_cons_of_neg (by simp [ends first rfl]), List.append_nil]

theorem dropWhile_append_of_endsRun (inRun : ∀ c ∈ run, p c = true) (ends : EndsRun p rest) :
    (run ++ rest).dropWhile p = rest := by
  rw [List.dropWhile_append_of_pos inRun]
  cases rest with
  | nil => rfl
  | cons first rest => rw [List.dropWhile_cons_of_neg (by simp [ends first rfl])]

/-- An opening of one kind ends before the first character of another kind. -/
theorem prefix_takeWhile {text : List Char} (inRun : ∀ c ∈ run, p c = true)
    (opens : run <+: text) : run <+: text.takeWhile p := by
  obtain ⟨rest, rfl⟩ := opens
  rw [List.takeWhile_append_of_pos inRun]
  exact List.prefix_append run _

theorem endsRun_dropWhile (p : Char → Bool) (text : List Char) :
    EndsRun p (text.dropWhile p) := by
  intro c here
  have stopped := List.head?_dropWhile_not p text
  rwa [Option.mem_def.mp here] at stopped

end Runs

end Text
end SlashDice
