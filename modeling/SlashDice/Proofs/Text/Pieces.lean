import Mathlib.Data.List.TakeWhile
import SlashDice.Text.Pieces

/-!
# What stands before and after a separator

The part before the first separator, the cut at the last one, what the ways to cut a
list say of a list without any separator, and the rest of a list after its opening.  The
pieces between separators are those of `List.splitOn`, and none of them has a separator.
-/

namespace SlashDice
namespace Text

variable {α : Type} [BEq α] [LawfulBEq α] {separator : α} {text : List α}

omit [LawfulBEq α] in
theorem pieces_eq_splitOn (separator : α) (text : List α) :
    pieces separator text = text.splitOn separator := by
  induction text with
  | nil => rfl
  | cons head rest induction =>
      obtain ⟨piece, more, found⟩ := List.exists_cons_of_ne_nil (List.splitOn_ne_nil separator rest)
      rw [List.splitOn, List.splitOnP_cons_eq_if_modifyHead, ← List.splitOn, pieces, induction,
        found]
      rfl

omit [LawfulBEq α] in
theorem pieces_ne_nil (separator : α) (text : List α) : pieces separator text ≠ [] := by
  rw [pieces_eq_splitOn]
  exact List.splitOn_ne_nil separator text

theorem eq_of_pieces_eq_singleton {β : Type} [DecidableEq β] {separator : β} {text piece : List β}
    (uncut : pieces separator text = [piece]) : piece = text := by
  have joined : [separator].intercalate (text.splitOn separator) = text :=
    List.intercalate_splitOn separator
  rwa [← pieces_eq_splitOn, uncut, List.intercalate_singleton] at joined

theorem not_mem_of_mem_pieces {piece : List α} (member : piece ∈ pieces separator text) :
    separator ∉ piece := by
  induction text generalizing piece with
  | nil =>
      rw [List.mem_singleton.mp member]
      exact List.not_mem_nil
  | cons head rest induction =>
      obtain ⟨first, more, found⟩ := List.exists_cons_of_ne_nil (pieces_ne_nil separator rest)
      rw [pieces, found] at member
      rw [found] at induction
      split at member
      case isTrue =>
        rcases List.mem_cons.mp member with rfl | later
        · exact List.not_mem_nil
        · exact induction later
      case isFalse other =>
        rcases List.mem_cons.mp member with rfl | later
        · rw [List.mem_cons, not_or]
          exact ⟨fun same => other (beq_iff_eq.mpr same.symm), induction List.mem_cons_self⟩
        · exact induction (List.mem_cons_of_mem _ later)

theorem not_beq_of_not_mem (absent : separator ∉ text) :
    ∀ item ∈ text, (!(item == separator)) = true := by
  intro item member
  have other : item ≠ separator := fun same => absent (same ▸ member)
  rw [beq_eq_false_iff_ne.mpr other]
  rfl

theorem beforeFirst_of_not_mem (absent : separator ∉ text) :
    beforeFirst separator text = text :=
  List.takeWhile_eq_self_iff.mpr (not_beq_of_not_mem absent)

theorem beforeFirst_append (absent : separator ∉ text) (rest : List α) :
    beforeFirst separator (text ++ separator :: rest) = text := by
  rw [beforeFirst, List.takeWhile_append_of_pos (not_beq_of_not_mem absent),
    List.takeWhile_cons_of_neg (by simp), List.append_nil]

theorem not_mem_beforeFirst (separator : α) (text : List α) :
    separator ∉ beforeFirst separator text := by
  intro member
  simpa using List.mem_takeWhile_imp member

/-- A list is what stands before its first separator, or goes on with that separator. -/
theorem eq_beforeFirst_or (separator : α) (text : List α) :
    text = beforeFirst separator text ∨
      ∃ rest, text = beforeFirst separator text ++ separator :: rest := by
  have split := List.takeWhile_append_dropWhile (p := fun item => !(item == separator)) (l := text)
  cases after : text.dropWhile fun item => !(item == separator) with
  | nil =>
      rw [after, List.append_nil] at split
      exact .inl split.symm
  | cons head rest =>
      have stopped := List.head?_dropWhile_not (fun item => !(item == separator)) text
      rw [after] at stopped split
      simp only [List.head?_cons, Bool.not_eq_false', beq_iff_eq] at stopped
      rw [stopped] at split
      exact .inr ⟨rest, split.symm⟩

theorem not_mem_of_cutLast?_eq_none (uncut : cutLast? separator text = none) :
    separator ∉ text := by
  induction text with
  | nil => exact List.not_mem_nil
  | cons head rest induction =>
      rw [cutLast?] at uncut
      split at uncut
      case h_1 => cases uncut
      case h_2 none_found =>
        split at uncut
        case isTrue => cases uncut
        case isFalse other =>
          rw [List.mem_cons, not_or]
          exact ⟨fun same => other (beq_iff_eq.mpr same.symm), induction none_found⟩

/-- A list is cut at a separator that none comes after, and nowhere else. -/
theorem cutLast?_eq_some_iff {before after : List α} :
    cutLast? separator text = some (before, after) ↔
      text = before ++ separator :: after ∧ separator ∉ after := by
  constructor
  · intro cut
    induction text generalizing before with
    | nil => cases cut
    | cons head rest induction =>
        rw [cutLast?] at cut
        split at cut
        case h_1 front back found =>
          cases cut
          obtain ⟨split, absent⟩ := induction found
          exact ⟨congrArg (head :: ·) split, absent⟩
        case h_2 uncut =>
          rw [Option.ite_none_right_eq_some] at cut
          obtain ⟨same, parts⟩ := cut
          cases parts
          exact ⟨by rw [eq_of_beq same, List.nil_append], not_mem_of_cutLast?_eq_none uncut⟩
  · rintro ⟨rfl, absent⟩
    exact cutLast?_append before absent

theorem cutFirst?_of_not_mem (absent : separator ∉ text) : cutFirst? separator text = none := by
  induction text with
  | nil => rfl
  | cons head rest induction =>
      rw [List.mem_cons, not_or] at absent
      have other : ¬(head == separator) = true := fun same => absent.1 (eq_of_beq same).symm
      rw [cutFirst?, if_neg other, induction absent.2]
      rfl

theorem dropOpening?_eq_some_iff {opening rest : List α} :
    dropOpening? opening text = some rest ↔ text = opening ++ rest := by
  rw [dropOpening?, Option.ite_none_right_eq_some, List.isPrefixOf_iff_prefix, Option.some.injEq]
  constructor
  · rintro ⟨⟨rest, rfl⟩, rfl⟩
    rw [List.drop_left]
  · rintro rfl
    exact ⟨List.prefix_append _ _, List.drop_left⟩

end Text
end SlashDice
