import SlashDice.Proofs.Dice.Command
import SlashDice.Proofs.Text.Recasing
import SlashDice.Proofs.Text.Slice

/-!
# What cutting off the first word keeps

A text that is cut after its first word loses blank characters and nothing else, and
there is only one way to cut it.  The cut may be made before or after lower-casing, and
in the bytes of the text all offsets lie between characters.  So the reason of a roll is
what the player wrote after the first word, in lower case.
-/

namespace SlashDice

open Text

variable {text word gap rest tail : List Char}

/-- The longest opening of a text without a blank character. -/
structure IsFirstWord (word text : List Char) : Prop where
  opens : word <+: text
  nonblank : ∀ c ∈ word, isBlank c = false
  longest : ∀ opening, opening <+: text → (∀ c ∈ opening, isBlank c = false) →
    opening.length ≤ word.length

/-- The parts of a text that is cut after its first word: the word, the blank characters
between it and the rest, the rest, and the blank characters at the end. -/
structure WordCut (text word gap rest tail : List Char) : Prop where
  eq_append : text = word ++ gap ++ rest ++ tail
  first : IsFirstWord word text
  gap_blank : ∀ c ∈ gap, isBlank c = true
  gap_ne_nil : word ≠ text → gap ≠ []
  rest_head : ∀ c ∈ rest.head?, isBlank c = false
  rest_last : ∀ c ∈ rest.getLast?, isBlank c = false
  tail_blank : ∀ c ∈ tail, isBlank c = true

theorem isFirstWord_iff : IsFirstWord word text ↔ text.takeWhile (fun c => !isBlank c) = word := by
  have inside : ∀ opening, opening <+: text → (∀ c ∈ opening, isBlank c = false) →
      opening <+: text.takeWhile fun c => !isBlank c := fun opening opens nonblank =>
    prefix_takeWhile (fun c member => by rw [nonblank c member]; rfl) opens
  constructor
  · rintro ⟨opens, nonblank, longest⟩
    have noLonger := longest _ (List.takeWhile_prefix _) fun c => isBlank_of_mem_takeWhile
    exact ((inside word opens nonblank).eq_of_length_le noLonger).symm
  · rintro rfl
    exact ⟨List.takeWhile_prefix _, fun c => isBlank_of_mem_takeWhile,
      fun opening opens nonblank => (inside opening opens nonblank).length_le⟩

namespace WordCut

theorem dropWhile_eq (cut : WordCut text word gap rest tail) :
    text.dropWhile (fun c => !isBlank c) = gap ++ rest ++ tail := by
  have whole := List.takeWhile_append_dropWhile (p := fun c => !isBlank c) (l := text)
  rw [isFirstWord_iff.mp cut.first] at whole
  refine (List.append_right_inj word).mp (whole.trans ?_)
  rw [cut.eq_append]
  simp only [List.append_assoc]

theorem endsWord (cut : WordCut text word gap rest tail) : EndsWord (gap ++ rest ++ tail) := by
  rw [← cut.dropWhile_eq]
  exact endsRun_dropWhile _ text

theorem trim_rest (cut : WordCut text word gap rest tail) : trim rest = rest :=
  trim_eq_self_iff.mpr ⟨cut.rest_head, cut.rest_last⟩

end WordCut

theorem exists_wordCut (text : List Char) :
    ∃ gap tail, WordCut text (splitFirstWord text).1 gap (splitFirstWord text).2 tail := by
  let after := text.dropWhile fun c => !isBlank c
  have whole : (splitFirstWord text).1 ++ after = text := List.takeWhile_append_dropWhile
  have ends : EndsWord after := endsRun_dropWhile _ text
  obtain ⟨tail, afterWhole, tail_blank⟩ := exists_append_trim after
  obtain ⟨head, last⟩ := trim_eq_self_iff.mp (trim_trim after)
  refine ⟨after.takeWhile isBlank, tail, ?_, isFirstWord_iff.mpr rfl,
    fun c => List.mem_takeWhile_imp, ?_, head, last, tail_blank⟩
  case refine_1 =>
    rw [← afterWhole] at whole
    rw [List.append_assoc, List.append_assoc, ← List.append_assoc (after.takeWhile isBlank)]
    exact whole.symm
  case refine_2 =>
    intro other
    cases found : after with
    | nil =>
        rw [found, List.append_nil] at whole
        exact absurd whole other
    | cons first more =>
        rw [found] at ends
        rw [List.takeWhile_cons_of_pos (isBlank_of_endsWord ends)]
        exact List.cons_ne_nil _ _

/-- The first word and the trimmed rest are the parts of the only cut of the text. -/
theorem splitFirstWord_eq_iff :
    splitFirstWord text = (word, rest) ↔ ∃ gap tail, WordCut text word gap rest tail := by
  constructor
  · intro split
    have cut := exists_wordCut text
    rwa [split] at cut
  · rintro ⟨gap, tail, cut⟩
    rw [splitFirstWord, isFirstWord_iff.mp cut.first, cut.dropWhile_eq,
      trim_append_of_blank rest cut.gap_blank cut.tail_blank, cut.trim_rest]

namespace WordCut

theorem lowercased (cut : WordCut text word gap rest tail) :
    WordCut (lowercase text) (lowercase word) gap (lowercase rest) tail := by
  obtain ⟨head, last⟩ := trim_eq_self_iff.mp (trim_lowercase cut.trim_rest)
  refine ⟨?_, isFirstWord_iff.mpr ?_, cut.gap_blank, ?_, head, last, cut.tail_blank⟩
  case refine_1 =>
    have ends := cut.endsWord
    rw [List.append_assoc] at ends
    calc
      lowercase text = lowercase (word ++ (gap ++ (rest ++ tail))) := by
        rw [cut.eq_append, List.append_assoc, List.append_assoc]
      _ = lowercase word ++ (gap ++ (lowercase rest ++ tail)) := by
        rw [lowercase_append_of_endsWord ends, lowercase_blank_append cut.gap_blank,
          lowercase_append_blank cut.tail_blank]
      _ = lowercase word ++ gap ++ lowercase rest ++ tail := by
        rw [List.append_assoc, List.append_assoc]
  case refine_2 => rw [takeWhile_lowercase, isFirstWord_iff.mp cut.first]
  case refine_3 => exact fun other => cut.gap_ne_nil fun same => other (congrArg lowercase same)

theorem tail_eq_nil (cut : WordCut text word gap rest tail) (trimmed : trim text = text) :
    tail = [] := by
  by_contra nonempty
  have last := List.getLast_mem_getLast? nonempty
  have textLast : tail.getLast nonempty ∈ text.getLast? := by
    rw [cut.eq_append, List.getLast?_append_of_ne_nil _ nonempty]
    exact last
  have nonblank := (trim_eq_self_iff.mp trimmed).2 _ textLast
  rw [cut.tail_blank _ (List.getLast_mem nonempty)] at nonblank
  cases nonblank

end WordCut

/-- Leading blank characters leave an empty first word. -/
example : splitFirstWord "\u2003 d6  x\n".toList = ([], "d6  x".toList) := by decide

/-- The first word is cut off the bytes of a text at offsets between characters. -/
@[simp]
theorem splitFirstWord?_encode (text : List Char) :
    Utf8.splitFirstWord? (Utf8.encode text) =
      some (Utf8.encode (splitFirstWord text).1, Utf8.encode (splitFirstWord text).2) := by
  let word := text.takeWhile fun c => !isBlank c
  let after := text.dropWhile fun c => !isBlank c
  have whole : word ++ after = text := List.takeWhile_append_dropWhile
  have nonblank : ∀ c ∈ word, isBlank c = false := fun c => isBlank_of_mem_takeWhile
  have ends : EndsWord after := endsRun_dropWhile _ text
  change _ = some (Utf8.encode word, Utf8.encode (trim after))
  rw [Utf8.splitFirstWord?, Utf8.decode_encode]
  cases found : after with
  | nil =>
      rw [found, List.append_nil] at whole
      rw [← whole, Utf8.blankOffset?_eq_none nonblank]
      rfl
  | cons first more =>
      rw [found] at whole ends
      have offset : Utf8.blankOffset? text = some (Utf8.encode word).length := by
        rw [← whole]
        exact Utf8.blankOffset?_append nonblank (isBlank_of_endsWord ends) more
      have wordSlice : Utf8.slice? (Utf8.encode text) 0 (Utf8.encode word).length =
          some (Utf8.encode word) :=
        Utf8.slice?_encode_eq_some_iff.mpr ⟨[], word, _, whole.symm, rfl, rfl, rfl⟩
      have afterSlice : Utf8.slice? (Utf8.encode text) (Utf8.encode word).length
          (Utf8.encode text).length = some (Utf8.encode (first :: more)) := by
        refine Utf8.slice?_encode_eq_some_iff.mpr ⟨word, first :: more, [], ?_, rfl, ?_, rfl⟩
        · rw [List.append_nil, whole]
        · rw [whole]
      simp only [offset, wordSlice, afterSlice, Utf8.trim?_encode, Option.bind_eq_bind,
        Option.bind_some, Option.pure_def]

namespace Command

theorem reasonText_eq (text : String) :
    reasonText text = lowercase (splitFirstWord (typedText text)).2 := by
  obtain ⟨gap, tail, cut⟩ := exists_wordCut (typedText text)
  have lowered := splitFirstWord_eq_iff.mpr ⟨gap, tail, cut.lowercased⟩
  rw [splitFirstWord, Prod.mk.injEq] at lowered
  exact lowered.2

/-- A text is cut after its first word by dropping blank characters only, in the one way
that there is.  In the bytes of the text no cut is refused: each lies between two
characters.  So the text of a roll, trimmed and in lower case, is its first word, blank
characters and its reason; and the reason is what was typed after the first word in lower
case, with the same blank characters inside. -/
theorem split_drops_only_blanks :
    (∀ text word rest : List Char, splitFirstWord text = (word, rest) ↔
      ∃ gap tail, WordCut text word gap rest tail) ∧
    (∀ text : List Char, Utf8.splitFirstWord? (Utf8.encode text) =
      some (Utf8.encode (splitFirstWord text).1, Utf8.encode (splitFirstWord text).2)) ∧
    ∀ (text : String) (roll : Roll), parse text = .ok (.roll roll) →
      ∃ gap wrote, WordCut (typedText text) (typedWord text) gap wrote [] ∧
        WordCut (normalText text) (lowercase (typedWord text)) gap (lowercase wrote) [] ∧
        (roll.reason = if wrote = [] then none else some (String.ofList (lowercase wrote))) ∧
        ∀ before inner after, wrote = before ++ inner ++ after → inner ≠ [] →
          (∀ c ∈ inner, isBlank c = true) →
            lowercase wrote = lowercase before ++ inner ++ lowercase after := by
  refine ⟨fun text word rest => splitFirstWord_eq_iff, splitFirstWord?_encode, ?_⟩
  intro text roll parsed
  obtain ⟨gap, tail, cut⟩ := exists_wordCut (typedText text)
  have noTail := cut.tail_eq_nil (trim_trim _)
  subst noTail
  refine ⟨gap, _, cut, cut.lowercased, ?_, ?_⟩
  case refine_1 =>
    rw [reason_of_parse parsed, reasonText_eq]
    simp only [lowercase_eq_nil_iff]
  case refine_2 =>
    intro before inner after parts nonempty blank
    rw [parts, lowercase_append_gap nonempty blank]

/-- Blank characters of two and three bytes around a word and inside a reason. -/
theorem split_drops_only_blanks_wide :
    let text := "\u2003 2D6\u00a0\u3000Für  ΟΔΟΣ\u2028x "
    let wrote := "Für  ΟΔΟΣ\u2028x".toList
    parse text = .ok (.roll ⟨2, 6, 0, some "für  οδος\u2028x"⟩) ∧
      (∃ gap, WordCut (typedText text) "2D6".toList gap wrote [] ∧
        WordCut (normalText text) "2d6".toList gap (lowercase wrote) []) ∧
      lowercase wrote = lowercase "Für".toList ++ "  ".toList ++ lowercase "ΟΔΟΣ\u2028x".toList := by
  intro text wrote
  have parsed : parse text = .ok (.roll ⟨2, 6, 0, some "für  οδος\u2028x"⟩) := by decide +kernel
  have typed : splitFirstWord (typedText text) = ("2D6".toList, wrote) := by decide +kernel
  have lowered : lowercase "2D6".toList = "2d6".toList := by decide +kernel
  have blank : ∀ c ∈ "  ".toList, isBlank c = true := List.all_eq_true.mp (by decide)
  obtain ⟨gap, rest, cut, lowerCut, -, inner⟩ := split_drops_only_blanks.2.2 text _ parsed
  have same := splitFirstWord_eq_iff.mpr ⟨gap, [], cut⟩
  rw [typed, Prod.mk.injEq] at same
  obtain ⟨word, rfl⟩ := same
  rw [← word] at cut lowerCut
  rw [lowered] at lowerCut
  exact ⟨parsed, ⟨gap, cut, lowerCut⟩, inner _ _ _ (by decide) (by decide) blank⟩

end Command
end SlashDice
