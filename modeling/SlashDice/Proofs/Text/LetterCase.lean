import SlashDice.Proofs.Text.Ascii
import SlashDice.Proofs.Text.Blank
import SlashDice.Text.LetterCase.Lemmas

/-!
# Words and lower-casing

Lower-casing neither makes nor removes a blank character, and it treats each word
on its own: the rule for the final sigma does not look past a blank character.
Into ASCII it brings no other letters than i and k from outside, and the i never
alone; so a text in lower case that has ASCII characters other than k only comes
from an ASCII text, and is that text with its ASCII letters in lower case.
-/

namespace SlashDice
namespace Text
namespace LetterCase

def blankPoints : List Nat :=
  [9, 10, 11, 12, 13, 0x20, 0x85, 0xA0, 0x1680, 0x2000, 0x2001, 0x2002, 0x2003, 0x2004, 0x2005,
    0x2006, 0x2007, 0x2008, 0x2009, 0x200A, 0x2028, 0x2029, 0x202F, 0x205F, 0x3000]

theorem isBlank_iff {c : Char} : isBlank c = true ↔ c.toNat ∈ blankPoints := by
  simp only [isBlank, blankPoints, Bool.or_eq_true, Bool.and_eq_true, decide_eq_true_eq,
    beq_iff_eq, List.mem_cons, List.not_mem_nil, or_false]
  omega

/-- A blank character is in lower case, and it is neither a letter with case nor
ignored between such letters. -/
theorem blank_facts {c : Char} (blank : isBlank c = true) :
    c ≠ 'Σ' ∧ lowerChar c = [c] ∧ isIgnorable c = false ∧ isCased c = false := by
  have all : ∀ point ∈ blankPoints, Char.ofNat point ≠ 'Σ' ∧
      lowerChar (Char.ofNat point) = [Char.ofNat point] ∧
      isIgnorable (Char.ofNat point) = false ∧ isCased (Char.ofNat point) = false := by
    decide +kernel
  have here := all c.toNat (isBlank_iff.mp blank)
  rwa [Char.ofNat_toNat] at here

/-- Whether no form of a run is a blank character. -/
def CaseRun.avoidsBlanks (run : CaseRun) : Bool :=
  blankPoints.all fun point => Nat.blt point run.target || Nat.blt run.lastTarget point

theorem lowerRuns_avoidBlanks : ∀ run ∈ lowerRuns, run.avoidsBlanks = true := by
  have all : lowerRuns.all CaseRun.avoidsBlanks = true := by decide +kernel
  exact List.all_eq_true.mp all

theorem isBlank_of_mem_lowerChar {c d : Char} (noSigma : c ≠ 'Σ') (member : d ∈ lowerChar c)
    (blank : isBlank d = true) : isBlank c = true := by
  rcases mem_lowerChar_cases noSigma member with
    ⟨ascii, rfl⟩ | ⟨-, rfl | rfl⟩ | ⟨-, -, form⟩
  · have all := Ascii.of_code_points
      (p := fun c => isBlank c.toLower = true → isBlank c = true) (by decide +kernel) ascii
    exact all blank
  · cases blank
  · cases blank
  · rcases lowerIn_cases c.toNat lowerRuns with same | ⟨run, inTable, covered, lowered⟩
    · have unchanged : d = c := Char.toNat_inj.mp (form.trans same)
      rwa [← unchanged]
    · exfalso
      have bounds := (CaseRun.covers_iff.mp covered).1
      have avoids := List.all_eq_true.mp (lowerRuns_avoidBlanks run inTable) d.toNat
        (isBlank_iff.mp blank)
      simp only [CaseRun.lastTarget, Bool.or_eq_true, Nat.blt_eq] at avoids
      rw [lowered, CaseRun.lower] at form
      omega

theorem toNat_lt_of_lowerChar {c : Char} (noSigma : c ≠ 'Σ')
    (plain : ∀ d ∈ lowerChar c, d.toNat < 0x80 ∧ d ≠ 'k') : c.toNat < 0x80 := by
  by_cases ascii : c.toNat < 0x80
  · exact ascii
  by_cases dotted : c = '\u0130'
  · subst c
    exact absurd (plain '\u0307' (by decide)).1 (by decide)
  exfalso
  obtain ⟨valid, -, -, place⟩ := lowerIn_facts (Nat.le_of_not_lt ascii) dotted noSigma
  have member : Char.ofNat (lowerIn c.toNat lowerRuns) ∈ lowerChar c := by
    rw [lowerChar, if_neg ascii, if_neg dotted]
    exact List.mem_singleton_self _
  obtain ⟨small, noK⟩ := plain _ member
  rw [toNat_ofNat valid] at small
  rcases place with outside | isK
  · omega
  · exact noK (by rw [isK])

/-- The characters that the first character of a text is lower-cased to. -/
def lowerHead (afterCased : Bool) (c : Char) (rest : List Char) : List Char :=
  if c = 'Σ' then [if afterCased && !startsCased rest then 'ς' else 'σ'] else lowerChar c

@[simp]
theorem lowerFrom_cons (afterCased : Bool) (c : Char) (rest : List Char) :
    lowerFrom afterCased (c :: rest) = lowerHead afterCased c rest ++
      lowerFrom (if isIgnorable c then afterCased else isCased c) rest :=
  rfl

theorem isBlank_of_mem_lowerHead {afterCased : Bool} {c d : Char} {rest : List Char}
    (member : d ∈ lowerHead afterCased c rest) (blank : isBlank d = true) :
    isBlank c = true := by
  unfold lowerHead at member
  split at member
  case isTrue =>
    rw [List.mem_singleton.mp member] at blank
    split at blank <;> cases blank
  case isFalse noSigma => exact isBlank_of_mem_lowerChar noSigma member blank

theorem lowerHead_ne_nil (afterCased : Bool) (c : Char) (rest : List Char) :
    lowerHead afterCased c rest ≠ [] := by
  unfold lowerHead lowerChar
  split_ifs <;> simp

/-- A text is blank in lower case exactly if it is blank. -/
theorem forall_isBlank_lowerFrom_iff {text : List Char} (afterCased : Bool) :
    (∀ d ∈ lowerFrom afterCased text, isBlank d = true) ↔ ∀ c ∈ text, isBlank c = true := by
  induction text generalizing afterCased with
  | nil => exact Iff.rfl
  | cons first rest induction =>
      rw [lowerFrom_cons, List.forall_mem_append, List.forall_mem_cons, induction]
      refine and_congr_left fun _ => ⟨?_, ?_⟩
      · intro blank
        obtain ⟨d, member⟩ := List.exists_mem_of_ne_nil _ (lowerHead_ne_nil afterCased first rest)
        exact isBlank_of_mem_lowerHead member (blank d member)
      · intro blank
        obtain ⟨noSigma, lowered, -, -⟩ := blank_facts blank
        simpa [lowerHead, noSigma, lowered] using blank

theorem toNat_lt_of_lowerHead {afterCased : Bool} {c : Char} {rest : List Char}
    (plain : ∀ d ∈ lowerHead afterCased c rest, d.toNat < 0x80 ∧ d ≠ 'k') :
    c.toNat < 0x80 := by
  unfold lowerHead at plain
  split at plain
  case isTrue =>
    have small := (plain _ (List.mem_singleton_self _)).1
    split at small <;> exact absurd small (by decide)
  case isFalse noSigma => exact toNat_lt_of_lowerChar noSigma plain

theorem isBlank_eq_false_of_mem_lowerFrom {word : List Char}
    (inWord : ∀ c ∈ word, isBlank c = false) (afterCased : Bool) :
    ∀ d ∈ lowerFrom afterCased word, isBlank d = false := by
  induction word generalizing afterCased with
  | nil => exact List.forall_mem_nil _
  | cons first rest induction =>
      rw [List.forall_mem_cons] at inWord
      intro d member
      rw [lowerFrom_cons, List.mem_append] at member
      rcases member with here | later
      · by_contra blank
        have firstBlank := isBlank_of_mem_lowerHead here (by simpa using blank)
        rw [inWord.1] at firstBlank
        cases firstBlank
      · exact induction inWord.2 _ d later

theorem toNat_lt_of_lowerFrom {afterCased : Bool} {text : List Char}
    (plain : ∀ d ∈ lowerFrom afterCased text, d.toNat < 0x80 ∧ d ≠ 'k') :
    ∀ c ∈ text, c.toNat < 0x80 := by
  induction text generalizing afterCased with
  | nil => exact List.forall_mem_nil _
  | cons first rest induction =>
      rw [lowerFrom_cons, List.forall_mem_append] at plain
      exact List.forall_mem_cons.mpr ⟨toNat_lt_of_lowerHead plain.1, induction plain.2⟩

theorem lowerFrom_of_ascii {text : List Char} (ascii : ∀ c ∈ text, c.toNat < 0x80)
    (afterCased : Bool) : lowerFrom afterCased text = text.map Char.toLower := by
  induction text generalizing afterCased with
  | nil => rfl
  | cons first rest induction =>
      rw [List.forall_mem_cons] at ascii
      have noSigma : first ≠ 'Σ' := by
        rintro rfl
        exact absurd ascii.1 (by decide)
      rw [lowerFrom_cons, lowerHead, if_neg noSigma, lowerChar, if_pos ascii.1,
        induction ascii.2]
      rfl

/-- Whether the last character that is not ignored is a letter with case, after a
word. -/
def casedAfter (afterCased : Bool) (word : List Char) : Bool :=
  word.foldl (fun after c => if isIgnorable c then after else isCased c) afterCased

/-- A blank character hides what comes after it from the rule for the final sigma. -/
theorem startsCased_append {rest : List Char} (ends : EndsWord rest) (word : List Char) :
    startsCased (word ++ rest) = startsCased word := by
  unfold startsCased
  rw [List.find?_append]
  cases found : word.find? fun c => !isIgnorable c with
  | some c => rfl
  | none =>
      cases rest with
      | nil => rfl
      | cons first rest =>
          obtain ⟨-, -, notIgnored, notCased⟩ := blank_facts (isBlank_of_endsWord ends)
          simp [notIgnored, notCased]

theorem lowerFrom_append {rest : List Char} (ends : EndsWord rest) (afterCased : Bool)
    (word : List Char) :
    lowerFrom afterCased (word ++ rest) =
      lowerFrom afterCased word ++ lowerFrom (casedAfter afterCased word) rest := by
  induction word generalizing afterCased with
  | nil => rfl
  | cons first word induction =>
      have sameHead : lowerHead afterCased first (word ++ rest) =
          lowerHead afterCased first word := by
        rw [lowerHead, startsCased_append ends, lowerHead]
      rw [List.cons_append, lowerFrom_cons, lowerFrom_cons, sameHead, induction,
        List.append_assoc]
      rfl

/-- A blank character hides what comes before it, too. -/
theorem lowerFrom_cons_of_isBlank {first : Char} (blank : isBlank first = true)
    (afterCased : Bool) (rest : List Char) :
    lowerFrom afterCased (first :: rest) = first :: lowerFrom false rest := by
  obtain ⟨noSigma, lowered, notIgnored, notCased⟩ := blank_facts blank
  rw [lowerFrom_cons, lowerHead, if_neg noSigma, lowered, notIgnored, notCased]
  rfl

end LetterCase

open LetterCase

variable {gap rest : List Char}

/-- A word and what follows it are lower-cased apart. -/
theorem lowercase_append_of_endsWord (ends : EndsWord rest) (word : List Char) :
    lowercase (word ++ rest) = lowercase word ++ lowercase rest := by
  rw [lowercase, lowerFrom_append ends]
  cases rest with
  | nil => rfl
  | cons first rest =>
      have blank := isBlank_of_endsWord ends
      rw [lowerFrom_cons_of_isBlank blank, lowercase, lowercase, lowerFrom_cons_of_isBlank blank]

theorem lowercase_blank_append (blank : ∀ c ∈ gap, isBlank c = true) (rest : List Char) :
    lowercase (gap ++ rest) = gap ++ lowercase rest := by
  induction gap with
  | nil => rfl
  | cons first gap induction =>
      rw [List.forall_mem_cons] at blank
      rw [List.cons_append, lowercase, lowerFrom_cons_of_isBlank blank.1, ← lowercase,
        induction blank.2, List.cons_append]

theorem lowercase_append_blank (blank : ∀ c ∈ gap, isBlank c = true) (text : List Char) :
    lowercase (text ++ gap) = lowercase text ++ gap := by
  have same := lowercase_blank_append blank []
  rw [List.append_nil] at same
  rw [lowercase_append_of_endsWord (endsWord_of_blank blank), same]
  exact congrArg (lowercase text ++ ·) (List.append_nil gap)

/-- The blank characters inside a text are kept where they are. -/
theorem lowercase_append_gap (nonempty : gap ≠ []) (blank : ∀ c ∈ gap, isBlank c = true)
    (text rest : List Char) :
    lowercase (text ++ gap ++ rest) = lowercase text ++ gap ++ lowercase rest := by
  have ends : EndsWord (gap ++ rest) := by
    obtain ⟨first, more, rfl⟩ := List.exists_cons_of_ne_nil nonempty
    exact endsWord_cons (blank first List.mem_cons_self) _
  rw [List.append_assoc, lowercase_append_of_endsWord ends, lowercase_blank_append blank,
    List.append_assoc]

theorem endsWord_lowercase (ends : EndsWord rest) : EndsWord (lowercase rest) := by
  cases rest with
  | nil => exact ends
  | cons first rest =>
      have blank := isBlank_of_endsWord ends
      rw [lowercase, lowerFrom_cons_of_isBlank blank]
      exact endsWord_cons blank _

theorem lowercase_split (text : List Char) :
    lowercase text = lowercase (text.takeWhile fun c => !isBlank c) ++
      lowercase (text.dropWhile fun c => !isBlank c) := by
  rw [← lowercase_append_of_endsWord (endsRun_dropWhile _ text), List.takeWhile_append_dropWhile]

theorem isBlank_of_mem_lowercase_takeWhile {text : List Char} {c : Char}
    (member : c ∈ lowercase (text.takeWhile fun c => !isBlank c)) : isBlank c = false :=
  isBlank_eq_false_of_mem_lowerFrom (fun _ inWord => isBlank_of_mem_takeWhile inWord) false c member

theorem takeWhile_lowercase (text : List Char) :
    (lowercase text).takeWhile (fun c => !isBlank c) =
      lowercase (text.takeWhile fun c => !isBlank c) := by
  rw [lowercase_split]
  exact takeWhile_append_of_endsWord (fun c => isBlank_of_mem_lowercase_takeWhile)
    (endsWord_lowercase (endsRun_dropWhile _ text))

/-- What follows the first word of a text in lower case is blank exactly if what follows the
first word of the text is blank. -/
theorem forall_isBlank_dropWhile_lowercase_iff (text : List Char) :
    (∀ c ∈ (lowercase text).dropWhile (fun c => !isBlank c), isBlank c = true) ↔
      ∀ c ∈ text.dropWhile (fun c => !isBlank c), isBlank c = true := by
  have ends := endsWord_lowercase (endsRun_dropWhile (fun c => !isBlank c) text)
  have inWord : ∀ c ∈ lowercase (text.takeWhile fun c => !isBlank c), (!isBlank c) = true := by
    intro c member
    simp [isBlank_of_mem_lowercase_takeWhile member]
  rw [lowercase_split, dropWhile_append_of_endsRun inWord ends]
  exact forall_isBlank_lowerFrom_iff false

/-- A text is brought to an ASCII word without a k by full lower-casing exactly if
its ASCII letters in lower case give that word. -/
theorem lowercase_eq_iff {text word : List Char} (plain : ∀ d ∈ word, d.toNat < 0x80 ∧ d ≠ 'k') :
    lowercase text = word ↔ text.map Char.toLower = word := by
  constructor
  · intro lowered
    have same : lowerFrom false text = word := lowered
    have ascii : ∀ c ∈ text, c.toNat < 0x80 := toNat_lt_of_lowerFrom (same.symm ▸ plain)
    rw [← lowerFrom_of_ascii ascii false, same]
  · intro lowered
    have ascii : ∀ c ∈ text, c.toNat < 0x80 := by
      intro c member
      have inWord : c.toLower ∈ word := lowered ▸ List.mem_map_of_mem member
      exact Ascii.toNat_toLower_lt_iff.mp (plain _ inWord).1
    rw [lowercase, lowerFrom_of_ascii ascii, lowered]

theorem lowercase_eq_self_iff {text : List Char} :
    lowercase text = text ↔ ∀ c ∈ text, IsLower c := by
  constructor
  · intro same c member
    rw [← same] at member
    exact isLower_of_mem_lowerFrom member
  · exact lowerFrom_of_isLower

theorem lowercase_eq_nil_iff {text : List Char} : lowercase text = [] ↔ text = [] :=
  (lowercase_eq_iff (List.forall_mem_nil _)).trans List.map_eq_nil_iff

theorem head?_lowercase {first : Char} (ascii : first.toNat < 0x80)
    (noLetter : first.isAlpha = false) (rest : List Char) :
    (lowercase (first :: rest)).head? = some first := by
  have same : first.toLower = first := (Ascii.toLower_eq_iff noLetter).mpr rfl
  have noSigma : first ≠ 'Σ' := by
    rintro rfl
    exact absurd ascii (by decide)
  rw [lowercase, lowerFrom, if_neg noSigma, lowerChar, if_pos ascii, same]
  rfl

end Text
end SlashDice
