/-!
# Cutting lists at a separator

Three ways to cut: into all the pieces between separators, at the first
separator, and at the last one.
-/

namespace SlashDice
namespace Text

variable {α : Type} [BEq α]

/-- The pieces between the separators: one more piece than there are
separators, so an empty list has one empty piece. -/
def pieces (separator : α) : List α → List (List α)
  | [] => [[]]
  | head :: rest =>
    if head == separator then
      [] :: pieces separator rest
    else
      match pieces separator rest with
      | [] => [[head]]
      | piece :: more => (head :: piece) :: more

/-- What stands before and after the first separator, if there is one. -/
def cutFirst? (separator : α) : List α → Option (List α × List α)
  | [] => none
  | head :: rest =>
    if head == separator then
      some ([], rest)
    else
      (cutFirst? separator rest).map fun parts => (head :: parts.1, parts.2)

/-- What stands before and after the last separator, if there is one. -/
def cutLast? (separator : α) : List α → Option (List α × List α)
  | [] => none
  | head :: rest =>
    match cutLast? separator rest with
    | some (before, after) => some (head :: before, after)
    | none => if head == separator then some ([], rest) else none

/-- What stands before the first separator: everything if there is none. -/
def beforeFirst (separator : α) (text : List α) : List α :=
  text.takeWhile fun item => !(item == separator)

def dropOpening? (opening : List α) (text : List α) : Option (List α) :=
  if opening.isPrefixOf text then some (text.drop opening.length) else none

variable [LawfulBEq α] {separator : α}

theorem pieces_of_not_mem {text : List α} (absent : separator ∉ text) :
    pieces separator text = [text] := by
  induction text with
  | nil => rfl
  | cons head rest induction =>
      rw [List.mem_cons, not_or] at absent
      have other : ¬(head == separator) = true := fun same =>
        absent.1 (eq_of_beq same).symm
      rw [pieces, if_neg other, induction absent.2]

theorem pieces_append {text : List α} (absent : separator ∉ text) (rest : List α) :
    pieces separator (text ++ separator :: rest) = text :: pieces separator rest := by
  induction text with
  | nil => simp [pieces]
  | cons head tail induction =>
      rw [List.mem_cons, not_or] at absent
      have other : ¬(head == separator) = true := fun same =>
        absent.1 (eq_of_beq same).symm
      rw [List.cons_append, pieces, if_neg other, induction absent.2]

theorem pieces_intercalate {parts : List (List α)} (nonempty : parts ≠ [])
    (absent : ∀ part ∈ parts, separator ∉ part) :
    pieces separator (List.intercalate [separator] parts) = parts := by
  induction parts with
  | nil => exact absurd rfl nonempty
  | cons part rest induction =>
      rw [List.forall_mem_cons] at absent
      cases rest with
      | nil => simpa [List.intercalate] using pieces_of_not_mem absent.1
      | cons next more =>
          have joined : List.intercalate [separator] (part :: next :: more) =
              part ++ separator :: List.intercalate [separator] (next :: more) := by
            simp [List.intercalate]
          rw [joined, pieces_append absent.1, induction (List.cons_ne_nil _ _) absent.2]

theorem cutFirst?_append {text : List α} (absent : separator ∉ text) (rest : List α) :
    cutFirst? separator (text ++ separator :: rest) = some (text, rest) := by
  induction text with
  | nil => simp [cutFirst?]
  | cons head tail induction =>
      rw [List.mem_cons, not_or] at absent
      have other : ¬(head == separator) = true := fun same =>
        absent.1 (eq_of_beq same).symm
      rw [List.cons_append, cutFirst?, if_neg other, induction absent.2]
      rfl

theorem cutLast?_of_not_mem {text : List α} (absent : separator ∉ text) :
    cutLast? separator text = none := by
  induction text with
  | nil => rfl
  | cons head rest induction =>
      rw [List.mem_cons, not_or] at absent
      have other : ¬(head == separator) = true := fun same =>
        absent.1 (eq_of_beq same).symm
      simp only [cutLast?, induction absent.2, other]
      rfl

theorem cutLast?_append (text : List α) {rest : List α} (absent : separator ∉ rest) :
    cutLast? separator (text ++ separator :: rest) = some (text, rest) := by
  induction text with
  | nil => simp [cutLast?, cutLast?_of_not_mem absent]
  | cons head tail induction =>
      simp only [List.cons_append, cutLast?, induction]

end Text
end SlashDice
