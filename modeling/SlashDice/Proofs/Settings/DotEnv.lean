import Mathlib.Data.List.Basic
import SlashDice.Settings.DotEnv

/-!
# The variables that a file of assignments depends on

A value in a file may refer to a variable.  What a file assigns depends only on the
variables that it refers to.
-/

namespace SlashDice
namespace DotEnv

def Part.name? : Part → Option String
  | char _ => none
  | reference name => some (String.ofList name)

/-- The names of the variables that the values of some assignments refer to. -/
def referredIn (spelled : List Assignment) : List String :=
  spelled.flatMap fun assignment => assignment.value.filterMap Part.name?

/-- The variables that a file refers to are the same. -/
def AgreeOn (file : String) (bindings others : Variables) : Prop :=
  ∀ name ∈ referredIn (spelled file), bindings.lookup name = others.lookup name

variable {bindings others : Variables}

theorem expand_congr {part : Part}
    (agree : ∀ name ∈ part.name?, bindings.lookup name = others.lookup name) :
    part.expand bindings = part.expand others := by
  cases part with
  | char c => rfl
  | reference name => rw [Part.expand, Part.expand, agree _ rfl]

theorem Assignment.expand_congr {assignment : Assignment}
    (agree : ∀ name ∈ assignment.value.filterMap Part.name?,
      bindings.lookup name = others.lookup name) :
    assignment.expand bindings = assignment.expand others := by
  refine congrArg String.ofList (List.flatMap_congr fun part member => ?_)
  exact DotEnv.expand_congr fun name named =>
    agree name (List.mem_filterMap.mpr ⟨part, member, named⟩)

theorem lookup_assign (bindings : Variables) (name value other : String) :
    (assign bindings name value).lookup other =
      (bindings.lookup other).or (if other = name then some value else none) := by
  unfold assign
  split
  next found =>
    split
    next same =>
      subst same
      exact (Option.or_of_isSome found).symm
    next => rw [Option.or_none]
  next =>
    rw [List.lookup_append]
    by_cases same : other = name
    · subst same
      rw [List.lookup_cons_self, if_pos rfl]
    · rw [List.lookup_cons, beq_eq_false_iff_ne.mpr same, List.lookup_nil, if_neg same]

/-- The variables agree on the names behind an assignment as well: it is made on both
sides, or each side keeps what it has. -/
theorem expandAll_congr {spelled : List Assignment}
    (agree : ∀ name ∈ referredIn spelled, bindings.lookup name = others.lookup name) :
    expandAll bindings spelled = expandAll others spelled := by
  induction spelled generalizing bindings others with
  | nil => rfl
  | cons assignment rest induction =>
      have here : assignment.expand bindings = assignment.expand others :=
        Assignment.expand_congr fun name member => agree name (List.mem_append_left _ member)
      have later : expandAll (assign bindings assignment.name (assignment.expand others)) rest =
          expandAll (assign others assignment.name (assignment.expand others)) rest := by
        refine induction fun name member => ?_
        rw [lookup_assign, lookup_assign, agree name (List.mem_append_right _ member)]
      rw [expandAll, expandAll, here, later]

/-- A file assigns the same if the variables that it refers to are the same. -/
theorem assignments_congr {file : String} (agree : AgreeOn file bindings others) :
    assignments bindings file = assignments others file :=
  expandAll_congr agree

end DotEnv
end SlashDice
