import Mathlib.Data.List.DropRight
import SlashDice.Proofs.Text.Runs
import SlashDice.Text.Blank

/-!
# Trimmed texts and first words

A trimmed text has no blank character at either end, so trimming again changes
nothing.  The first word of a text ends where the text ends or at a blank
character.
-/

namespace SlashDice
namespace Text

theorem trimStart_eq_self_iff {text : List Char} :
    trimStart text = text ↔ ∀ c ∈ text.head?, isBlank c = false := by
  cases text with
  | nil => simp [trimStart]
  | cons first rest =>
      rw [trimStart, List.dropWhile_eq_self_iff]
      simp

theorem trimEnd_eq_rdropWhile (text : List Char) : trimEnd text = text.rdropWhile isBlank :=
  rfl

theorem head?_of_head?_trimEnd {text : List Char} {c : Char} (here : c ∈ (trimEnd text).head?) :
    c ∈ text.head? := by
  obtain ⟨removed, split⟩ := List.rdropWhile_prefix isBlank (l := text)
  rw [← trimEnd_eq_rdropWhile] at split
  rw [Option.mem_def] at here
  rw [← split, List.head?_append, here]
  rfl

@[simp]
theorem trim_trim (text : List Char) : trim (trim text) = trim text := by
  have noBlankStart : trimStart (trim text) = trim text := by
    rw [trimStart_eq_self_iff]
    intro c here
    have start : trimStart (trimStart text) = trimStart text := List.dropWhile_idempotent _ _
    exact trimStart_eq_self_iff.mp start c (head?_of_head?_trimEnd here)
  rw [trim, noBlankStart]
  exact List.rdropWhile_idempotent _ _

theorem trimEnd_eq_self_iff {text : List Char} :
    trimEnd text = text ↔ ∀ c ∈ text.getLast?, isBlank c = false := by
  rw [trimEnd_eq_rdropWhile, List.rdropWhile_eq_self_iff]
  constructor
  · intro stops c last
    obtain ⟨nonempty, rfl⟩ := List.mem_getLast?_eq_getLast last
    simpa using stops nonempty
  · intro stops nonempty
    simp [stops _ (List.getLast_mem_getLast? nonempty)]

/-- Trimming leaves the texts as they are that have no blank character at their
ends. -/
theorem trim_eq_self_iff {text : List Char} :
    trim text = text ↔
      (∀ c ∈ text.head?, isBlank c = false) ∧ ∀ c ∈ text.getLast?, isBlank c = false := by
  constructor
  · intro trimmed
    have start : trimStart (trimStart text) = trimStart text := List.dropWhile_idempotent _ _
    constructor
    · intro c here
      rw [← trimmed] at here
      exact trimStart_eq_self_iff.mp start c (head?_of_head?_trimEnd here)
    · rw [← trimmed]
      exact trimEnd_eq_self_iff.mp (List.rdropWhile_idempotent _ _)
  · rintro ⟨head, last⟩
    rw [trim, trimStart_eq_self_iff.mpr head, trimEnd_eq_self_iff.mpr last]

theorem trim_eq_nil_iff {text : List Char} : trim text = [] ↔ ∀ c ∈ text, isBlank c = true := by
  rw [trim, trimEnd_eq_rdropWhile, List.rdropWhile_eq_nil_iff]
  constructor
  · intro blank c member
    rw [← List.takeWhile_append_dropWhile (p := isBlank) (l := text), List.mem_append] at member
    exact member.elim List.mem_takeWhile_imp (blank c)
  · intro blank c member
    exact blank c ((List.dropWhile_suffix _).subset member)

theorem mem_of_mem_trim {text : List Char} {c : Char} (member : c ∈ trim text) : c ∈ text :=
  (List.dropWhile_suffix _).subset ((List.rdropWhile_prefix isBlank _).subset member)

theorem trim_cons_of_isBlank {first : Char} (blank : isBlank first = true) (rest : List Char) :
    trim (first :: rest) = trim rest := by
  rw [trim, trim, trimStart, List.dropWhile_cons_of_pos blank, trimStart]

theorem trim_append_of_blank {before after : List Char} (text : List Char)
    (blankBefore : ∀ c ∈ before, isBlank c = true) (blankAfter : ∀ c ∈ after, isBlank c = true) :
    trim (before ++ text ++ after) = trim text := by
  have noStart : trimStart (before ++ (text ++ after)) = trimStart (text ++ after) :=
    List.dropWhile_append_of_pos blankBefore
  have noEnd (kept : List Char) : trimEnd (kept ++ after) = trimEnd kept := by
    rw [trimEnd, List.reverse_append, List.dropWhile_append_of_pos, trimEnd]
    simpa using blankAfter
  rw [List.append_assoc, trim, noStart]
  by_cases allBlank : trimStart text = []
  · have nothing : trimStart (text ++ after) = [] := by
      simp only [trimStart, List.dropWhile_eq_nil_iff] at allBlank ⊢
      exact List.forall_mem_append.mpr ⟨allBlank, blankAfter⟩
    rw [nothing, trim, allBlank]
  · have kept : trimStart (text ++ after) = trimStart text ++ after := by
      rw [trimStart, List.dropWhile_append, if_neg (by simpa [trimStart] using allBlank),
        trimStart]
    rw [kept, noEnd, trim]

/-- Trimming removes the blank characters that a text starts with, and then blank
characters at its end. -/
theorem exists_append_trim (text : List Char) :
    ∃ after, text.takeWhile isBlank ++ trim text ++ after = text ∧
      ∀ c ∈ after, isBlank c = true := by
  have atEnd : trim text ++ (trimStart text).rtakeWhile isBlank = trimStart text :=
    List.rdropWhile_append_rtakeWhile
  refine ⟨(trimStart text).rtakeWhile isBlank, ?_, fun c => List.mem_rtakeWhile_imp⟩
  rw [List.append_assoc, atEnd, trimStart, List.takeWhile_append_dropWhile]

/-- What may stand after a word: nothing, or a text that starts with a blank
character. -/
def EndsWord (rest : List Char) : Prop :=
  EndsRun (fun c => !isBlank c) rest

theorem isBlank_of_endsWord {first : Char} {rest : List Char} (ends : EndsWord (first :: rest)) :
    isBlank first = true := by
  have stopped := ends first rfl
  simpa using stopped

theorem endsWord_cons {first : Char} (blank : isBlank first = true) (rest : List Char) :
    EndsWord (first :: rest) := by
  refine endsRun_cons ?_ rest
  rw [blank]
  rfl

theorem endsWord_of_blank {gap : List Char} (blank : ∀ c ∈ gap, isBlank c = true) :
    EndsWord gap := by
  cases gap with
  | nil => exact endsRun_nil
  | cons first gap => exact endsWord_cons (blank first List.mem_cons_self) gap

theorem isBlank_of_mem_takeWhile {text : List Char} {c : Char}
    (member : c ∈ text.takeWhile fun c => !isBlank c) : isBlank c = false := by
  have kept := List.mem_takeWhile_imp member
  simpa using kept

/-- A word is the first word of every text that it begins and that does not go on
with it. -/
theorem takeWhile_append_of_endsWord {word rest : List Char}
    (inWord : ∀ c ∈ word, isBlank c = false) (ends : EndsWord rest) :
    (word ++ rest).takeWhile (fun c => !isBlank c) = word := by
  refine takeWhile_append_of_endsRun (fun c member => ?_) ends
  rw [inWord c member]
  rfl

end Text
end SlashDice
