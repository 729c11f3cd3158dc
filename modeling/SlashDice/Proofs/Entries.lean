import Mathlib.Data.List.Count
import Mathlib.Data.List.Nodup

/-!
# Lists of named entries

What is looked up in a list of named entries is an entry of that name.  If no other entry
has the name, its place in the list does not matter.
-/

namespace SlashDice
namespace Entries

variable {α : Type} {entries others : List (String × α)} {name : String} {item : α}

theorem mem_of_lookup (found : entries.lookup name = some item) : (name, item) ∈ entries := by
  obtain ⟨before, after, rfl, -⟩ := List.lookup_eq_some_iff.mp found
  exact List.mem_append_right _ List.mem_cons_self

theorem lookup_eq_none_iff : entries.lookup name = none ↔ name ∉ entries.map Prod.fst := by
  rw [List.lookup_eq_none_iff, List.mem_map, not_exists]
  refine forall_congr' fun entry => ?_
  rw [bne_iff_ne, not_and, Ne, eq_comm]

theorem lookup_of_mem (once : (entries.map Prod.fst).count name ≤ 1)
    (member : (name, item) ∈ entries) : entries.lookup name = some item := by
  induction entries with
  | nil => cases member
  | cons entry rest induction =>
      rw [List.map_cons, List.count_cons] at once
      rcases List.mem_cons.mp member with rfl | later
      · exact List.lookup_cons_self
      · have again : 0 < (rest.map Prod.fst).count name :=
          List.count_pos_iff.mpr (List.mem_map_of_mem later)
        have other : (name == entry.1) = false := by
          rw [beq_eq_false_iff_ne]
          intro same
          rw [if_pos (beq_iff_eq.mpr same.symm)] at once
          omega
        rw [List.lookup_cons, other]
        exact induction (by omega) later

/-- Entries of other names can be left out. -/
theorem lookup_filter {keeps : String → Bool} (kept : keeps name = true) :
    (entries.filter fun entry => keeps entry.1).lookup name = entries.lookup name := by
  induction entries with
  | nil => rfl
  | cons entry rest induction =>
      rw [List.filter_cons, List.lookup_cons]
      split
      · rw [List.lookup_cons, induction]
      next dropped =>
        have other : (name == entry.1) = false :=
          beq_eq_false_iff_ne.mpr fun same => dropped (same ▸ kept)
        rw [other, induction]

/-- With every name once, entries in another order are found the same. -/
theorem lookup_perm (distinct : (entries.map Prod.fst).Nodup) (perm : others.Perm entries)
    (name : String) : others.lookup name = entries.lookup name := by
  have onceEntries := List.nodup_iff_count_le_one.mp distinct name
  have onceOthers : (others.map Prod.fst).count name ≤ 1 := by
    rwa [(perm.map Prod.fst).count_eq]
  cases found : others.lookup name with
  | none =>
      rw [lookup_eq_none_iff, (perm.map Prod.fst).mem_iff] at found
      exact (lookup_eq_none_iff.mpr found).symm
  | some item => exact (lookup_of_mem onceEntries (perm.mem_iff.mp (mem_of_lookup found))).symm

end Entries
end SlashDice
