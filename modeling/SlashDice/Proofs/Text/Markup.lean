import Mathlib.Data.List.Basic
import SlashDice.Text.Markup

/-!
# Escaped texts

No entity has a character that is replaced after it, so replacing the five characters in
turn writes each character of the text on its own.  Hence an escaped text has no
character that begins or ends a tag or a quotation, its ampersands begin entities, and
undoing the entities gives the text back.
-/

namespace SlashDice
namespace Text
namespace Markup

section Replacements

variable {table : List (Char × List Char)}

def escapeChar (table : List (Char × List Char)) (c : Char) : List Char :=
  (table.lookup c).getD [c]

/-- No entity has a character that is replaced after it. -/
def InOrder (table : List (Char × List Char)) : Prop :=
  table.Pairwise fun earlier later => later.1 ∉ earlier.2

theorem escapeChar_of_not_mem {c : Char} (absent : ∀ entity ∈ table, entity.1 ≠ c) :
    escapeChar table c = [c] := by
  rw [escapeChar, List.lookup_eq_none_iff.mpr, Option.getD_none]
  exact fun entity member => bne_iff_ne.mpr (absent entity member).symm

theorem replace_escapeChar {entity : Char × List Char} (later : ∀ other ∈ table, other.1 ∉ entity.2)
    (c : Char) :
    (if c = entity.1 then entity.2 else [c]).flatMap (escapeChar table) =
      escapeChar (entity :: table) c := by
  by_cases same : c = entity.1
  · -- No later replacement finds anything in the entity.
    have untouched : entity.2.flatMap (escapeChar table) = entity.2.flatMap fun d => [d] :=
      List.flatMap_congr fun d member =>
        escapeChar_of_not_mem fun other place equal => later other place (equal ▸ member)
    rw [if_pos same, untouched, List.flatMap_singleton', same, escapeChar,
      List.lookup_cons_self, Option.getD_some]
  · rw [if_neg same, List.flatMap_singleton, escapeChar, escapeChar, List.lookup_cons,
      beq_eq_false_iff_ne.mpr same]

/-- Replacements in order write each character on its own. -/
theorem foldl_replace (ordered : InOrder table) (text : List Char) :
    table.foldl replace text = text.flatMap (escapeChar table) := by
  induction table generalizing text with
  | nil => exact (List.flatMap_singleton' text).symm
  | cons entity rest induction =>
      obtain ⟨later, ordered⟩ := List.pairwise_cons.mp ordered
      rw [List.foldl_cons, induction ordered, replace, List.flatMap_assoc]
      exact List.flatMap_congr fun c _ => replace_escapeChar later c

end Replacements

section Escape

variable {c mark : Char} {entity text after : List Char}

theorem escape_eq (text : List Char) : escape text = text.flatMap (escapeChar entities) := by
  refine foldl_replace ?_ text
  unfold InOrder
  decide

@[simp]
theorem escape_cons (c : Char) (text : List Char) :
    escape (c :: text) = escapeChar entities c ++ escape text := by
  rw [escape_eq, escape_eq, List.flatMap_cons]

theorem escapeChar_cases (c : Char) :
    (∃ entity, (c, entity) ∈ entities ∧ escapeChar entities c = entity) ∨
      (∀ entity ∈ entities, entity.1 ≠ c) ∧ escapeChar entities c = [c] := by
  cases found : entities.lookup c with
  | none =>
      have absent : ∀ entity ∈ entities, entity.1 ≠ c := fun entity member =>
        (bne_iff_ne.mp (List.lookup_eq_none_iff.mp found entity member)).symm
      exact .inr ⟨absent, escapeChar_of_not_mem absent⟩
  | some entity =>
      obtain ⟨before, rest, split, -⟩ := List.lookup_eq_some_iff.mp found
      refine .inl ⟨entity, ?_, by rw [escapeChar, found, Option.getD_some]⟩
      rw [split]
      exact List.mem_append_right before List.mem_cons_self

theorem exists_tail_of_mem (member : (c, entity) ∈ entities) :
    ∃ tail, entity = '&' :: tail ∧ '&' ∉ tail := by
  have all : ∀ pair ∈ entities, pair.2 = '&' :: pair.2.tail ∧ '&' ∉ pair.2.tail := by decide
  exact ⟨entity.tail, all _ member⟩

theorem not_mem_escape (replaced : mark ∈ entities.map Prod.fst)
    (foreign : ∀ pair ∈ entities, mark ∉ pair.2) (text : List Char) : mark ∉ escape text := by
  intro member
  rw [escape_eq, List.mem_flatMap] at member
  obtain ⟨c, -, here⟩ := member
  rcases escapeChar_cases c with ⟨entity, isEntity, written⟩ | ⟨absent, written⟩
  · rw [written] at here
    exact foreign _ isEntity here
  · rw [written, List.mem_singleton] at here
    obtain ⟨pair, isEntity, same⟩ := List.mem_map.mp replaced
    exact absent pair isEntity (same.trans here)

theorem suffix_of_not_mem (absent : mark ∉ text) {rest : List Char}
    (found : mark :: after <:+ text ++ rest) : mark :: after <:+ rest := by
  induction text with
  | nil => exact found
  | cons c text induction =>
      rw [List.mem_cons, not_or] at absent
      rcases List.suffix_cons_iff.mp found with same | later
      · exact absurd (List.cons.inj same).1 absent.1
      · exact induction absent.2 later

/-- Every ampersand of an escaped text begins an entity. -/
theorem exists_entity_of_suffix (found : '&' :: after <:+ escape text) :
    ∃ c entity, (c, entity) ∈ entities ∧ entity <+: '&' :: after := by
  induction text with
  | nil => simp [escape_eq] at found
  | cons c text induction =>
      rw [escape_cons] at found
      rcases escapeChar_cases c with ⟨entity, isEntity, written⟩ | ⟨absent, written⟩
      · obtain ⟨tail, rfl, absent⟩ := exists_tail_of_mem isEntity
        rw [written, List.cons_append] at found
        rcases List.suffix_cons_iff.mp found with same | later
        · exact ⟨c, _, isEntity, escape text, same.symm⟩
        · exact induction (suffix_of_not_mem absent later)
      · have other : '&' ∉ [c] := by
          rw [List.mem_singleton]
          exact absent ('&', "&amp;".toList) List.mem_cons_self
        rw [written] at found
        exact induction (suffix_of_not_mem other found)

theorem unescape_cons (other : c ≠ '&') (rest : List Char) :
    unescape (c :: rest) = c :: unescape rest := by
  rw [unescape]
  all_goals exact fun _ same => absurd same other

theorem unescape_escapeChar (c : Char) (rest : List Char) :
    unescape (escapeChar entities c ++ rest) = c :: unescape rest := by
  rcases escapeChar_cases c with ⟨entity, isEntity, written⟩ | ⟨absent, written⟩
  · rw [written]
    simp only [entities, List.mem_cons, List.not_mem_nil, or_false, Prod.mk.injEq] at isEntity
    rcases isEntity with ⟨rfl, rfl⟩ | ⟨rfl, rfl⟩ | ⟨rfl, rfl⟩ | ⟨rfl, rfl⟩ | ⟨rfl, rfl⟩ <;> rfl
  · rw [written]
    exact unescape_cons (absent ('&', "&amp;".toList) List.mem_cons_self).symm rest

@[simp]
theorem unescape_escape (text : List Char) : unescape (escape text) = text := by
  induction text with
  | nil => rfl
  | cons c text induction => rw [escape_cons, unescape_escapeChar, induction]

theorem escape_injective : Function.Injective escape :=
  Function.LeftInverse.injective unescape_escape

end Escape

section Tags

@[simp]
theorem readTags_cons (place : Place) (c : Char) (rest : List Char) :
    readTags place (c :: rest) =
      ((place.step c).1 ++ (readTags (place.step c).2 rest).1,
        (readTags (place.step c).2 rest).2) :=
  rfl

theorem readTags_append (place : Place) (text rest : List Char) :
    readTags place (text ++ rest) =
      ((readTags place text).1 ++ (readTags (readTags place text).2 rest).1,
        (readTags (readTags place text).2 rest).2) := by
  induction text generalizing place with
  | nil => rfl
  | cons c text induction =>
      rw [List.cons_append, readTags_cons, readTags_cons, induction, List.append_assoc]

theorem readTags_of_not_mem {text : List Char} (absent : '<' ∉ text) :
    readTags .text text = ([], .text) := by
  induction text with
  | nil => rfl
  | cons c text induction =>
      rw [List.mem_cons, not_or] at absent
      have stays : Place.text.step c = ([], .text) := by
        rw [Place.step, if_neg (Ne.symm absent.1)]
      rw [readTags_cons, stays, induction absent.2, List.append_nil]

end Tags

end Markup
end Text
end SlashDice
