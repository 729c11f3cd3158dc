import SlashDice.Proofs.Text.Blank
import SlashDice.Text.Utf8.Lemmas
import SlashDice.Text.Utf8.Slice

/-!
# Slices of a text

An offset in the bytes of a text lies between characters exactly if the text can be cut
there, and slices are the bytes of parts of the text.  The offsets where characters are
found are such offsets.  So a text is trimmed in its bytes as it is trimmed character by
character.
-/

namespace SlashDice
namespace Text
namespace Utf8

variable {before text after : List Char}

theorem isContinuation_ofNat_iff {n : Nat} (bound : n < 256) :
    isContinuation (UInt8.ofNat n) = true ↔ 0x80 ≤ n ∧ n < 0xC0 := by
  rw [isContinuation, UInt8.toNat_ofNat_of_lt' bound, Bool.and_eq_true, decide_eq_true_eq,
    decide_eq_true_eq]

/-- Only the first byte of a character does not go on with an earlier one. -/
theorem encodeChar_eq_cons (c : Char) :
    ∃ first more, encodeChar c = first :: more ∧ isContinuation first = false ∧
      ∀ byte ∈ more, isContinuation byte = true := by
  have valid : c.toNat < 0xD800 ∨ (0xDFFF < c.toNat ∧ c.toNat < 0x110000) := c.valid
  have first : ∀ n < 256, n < 0x80 ∨ 0xC0 ≤ n → isContinuation (UInt8.ofNat n) = false := by
    intro n bound outside
    rw [Bool.eq_false_iff, ne_eq, isContinuation_ofNat_iff bound]
    omega
  have tail : ∀ n : Nat, isContinuation (UInt8.ofNat (0x80 + n % 64)) = true := by
    intro n
    rw [isContinuation_ofNat_iff (by omega)]
    omega
  unfold encodeChar encodePoint
  split_ifs
  case pos => exact ⟨_, [], rfl, first _ (by omega) (by omega), List.forall_mem_nil _⟩
  all_goals
    refine ⟨_, _, rfl, first _ (by omega) (by omega), ?_⟩
    simp only [List.mem_cons, List.not_mem_nil, or_false, forall_eq_or_imp, forall_eq, tail,
      and_self]

theorem isBoundary_of_getElem? {bytes : List UInt8} {offset : Nat} {byte : UInt8}
    (here : bytes[offset]? = some byte) : isBoundary bytes offset = !isContinuation byte := by
  rw [isBoundary, here]

theorem isBoundary_append {first second : List UInt8} {offset : Nat}
    (behind : first.length ≤ offset) :
    isBoundary (first ++ second) offset = isBoundary second (offset - first.length) := by
  have sameEnd : (offset == first.length + second.length) =
      (offset - first.length == second.length) := by
    rw [Bool.eq_iff_iff, beq_iff_eq, beq_iff_eq]
    omega
  rw [isBoundary, List.getElem?_append_right behind, List.length_append, sameEnd, isBoundary]

@[simp]
theorem isBoundary_zero (text : List Char) : isBoundary (encode text) 0 = true := by
  cases text with
  | nil => rfl
  | cons c rest =>
      obtain ⟨first, more, bytes, begins, -⟩ := encodeChar_eq_cons c
      rw [encode_cons, bytes, List.cons_append, isBoundary_of_getElem? List.getElem?_cons_zero,
        begins]
      rfl

@[simp]
theorem isBoundary_encode_length (before after : List Char) :
    isBoundary (encode (before ++ after)) (encode before).length = true := by
  rw [encode_append, isBoundary_append (Nat.le_refl _), Nat.sub_self, isBoundary_zero]

/-- The offsets between characters are those where the text can be cut. -/
theorem isBoundary_encode_iff {offset : Nat} :
    isBoundary (encode text) offset = true ↔
      ∃ before after, text = before ++ after ∧ offset = (encode before).length := by
  constructor
  · intro boundary
    induction text generalizing offset with
    | nil =>
        refine ⟨[], [], rfl, ?_⟩
        simpa [isBoundary, encode] using boundary
    | cons c rest induction =>
        obtain ⟨first, more, bytes, -, continued⟩ := encodeChar_eq_cons c
        rcases Nat.lt_or_ge offset (encodeChar c).length with within | behind
        · cases offset with
          | zero => exact ⟨[], c :: rest, rfl, rfl⟩
          | succ offset =>
              -- The bytes of a character after its first one are no boundaries.
              exfalso
              have inMore : offset < more.length := by simpa [bytes] using within
              have here : (encode (c :: rest))[offset + 1]? = some more[offset] := by
                rw [encode_cons, bytes, List.cons_append, List.getElem?_cons_succ,
                  List.getElem?_append_left inMore, List.getElem?_eq_getElem inMore]
              rw [isBoundary_of_getElem? here, continued _ (List.getElem_mem inMore)] at boundary
              cases boundary
        · rw [encode_cons, isBoundary_append behind] at boundary
          obtain ⟨before, after, cut, place⟩ := induction boundary
          refine ⟨c :: before, after, congrArg (c :: ·) cut, ?_⟩
          rw [encode_cons, List.length_append]
          omega
  · rintro ⟨before, after, rfl, rfl⟩
    exact isBoundary_encode_length before after

theorem length_le_length_encode (text : List Char) : text.length ≤ (encode text).length := by
  induction text with
  | nil => exact Nat.le_refl 0
  | cons c rest induction =>
      obtain ⟨first, more, bytes, -, -⟩ := encodeChar_eq_cons c
      rw [encode_cons, bytes, List.length_append, List.length_cons, List.length_cons]
      omega

/-- Of two openings of a text, the one with fewer bytes opens the other. -/
theorem prefix_of_length_encode_le {shorter longer : List Char} (shorterOpens : shorter <+: text)
    (longerOpens : longer <+: text) (fewer : (encode shorter).length ≤ (encode longer).length) :
    shorter <+: longer := by
  rcases List.prefix_or_prefix_of_prefix shorterOpens longerOpens with opens | ⟨more, rfl⟩
  · exact opens
  · have none_more := length_le_length_encode more
    rw [encode_append, List.length_append] at fewer
    have nil : more = [] := List.eq_nil_of_length_eq_zero (by omega)
    exact ⟨[], by rw [nil, List.append_nil, List.append_nil]⟩

/-- The slices of a text are the bytes of its parts. -/
theorem slice?_encode_eq_some_iff {whole : List Char} {start stop : Nat} {bytes : List UInt8} :
    slice? (encode whole) start stop = some bytes ↔
      ∃ before text after, whole = before ++ text ++ after ∧ start = (encode before).length ∧
        stop = (encode (before ++ text)).length ∧ bytes = encode text := by
  rw [slice?, Option.ite_none_right_eq_some, Option.some.injEq]
  constructor
  · rintro ⟨⟨ordered, startBoundary, stopBoundary⟩, rfl⟩
    obtain ⟨upTo, after, rfl, rfl⟩ := isBoundary_encode_iff.mp stopBoundary
    obtain ⟨before, rest, cut, rfl⟩ := isBoundary_encode_iff.mp startBoundary
    obtain ⟨text, rfl⟩ := prefix_of_length_encode_le (cut ▸ List.prefix_append before rest)
      (List.prefix_append upTo after) ordered
    refine ⟨before, text, after, rfl, rfl, rfl, ?_⟩
    rw [encode_append _ after, List.take_left, encode_append, List.drop_left]
  · rintro ⟨before, text, after, rfl, rfl, rfl, rfl⟩
    refine ⟨⟨?_, ?_, isBoundary_encode_length _ _⟩, ?_⟩
    · rw [encode_append, List.length_append]
      exact Nat.le_add_right _ _
    · rw [List.append_assoc]
      exact isBoundary_encode_length _ _
    · rw [encode_append _ after, List.take_left, encode_append, List.drop_left]

/-- A cut within the only character of a text is refused. -/
example : slice? (encode ['ß']) 0 1 = none := by decide

section Places

variable {p : Char → Bool} {c : Char}

theorem placed_append (offset : Nat) (text after : List Char) :
    placed offset (text ++ after) =
      placed offset text ++ placed (offset + (encode text).length) after := by
  induction text generalizing offset with
  | nil => rfl
  | cons c rest induction =>
      rw [List.cons_append, placed, placed, induction, encode_cons, List.length_append,
        Nat.add_assoc, List.cons_append]

theorem mem_of_mem_placed {offset : Nat} {item : Nat × Char} (member : item ∈ placed offset text) :
    item.2 ∈ text := by
  induction text generalizing offset with
  | nil => cases member
  | cons c rest induction =>
      rcases List.mem_cons.mp member with rfl | later
      · exact List.mem_cons_self
      · exact List.mem_cons_of_mem c (induction later)

theorem not_of_mem_placed (absent : ∀ c ∈ text, p c = false) (offset : Nat) :
    ∀ item ∈ placed offset text, ¬p item.2 = true := by
  intro item member
  simp [absent _ (mem_of_mem_placed member)]

theorem find?_placed_eq_none (absent : ∀ c ∈ text, p c = false) (offset : Nat) :
    ((placed offset text).find? fun item => p item.2) = none :=
  List.find?_eq_none.mpr (not_of_mem_placed absent offset)

/-- The first character of a kind is found after the bytes of what stands before it. -/
theorem find?_placed (absent : ∀ c ∈ before, p c = false) (head : c ∈ text.head?)
    (here : p c = true) :
    ((placed 0 (before ++ text)).find? fun item => p item.2) =
      some ((encode before).length, c) := by
  obtain ⟨rest, rfl⟩ := List.head?_eq_some_iff.mp head
  rw [placed_append, List.find?_append, find?_placed_eq_none absent, Option.none_or, placed,
    List.find?_cons_of_pos, Nat.zero_add]
  exact here

/-- The last character of a kind is found there, too. -/
theorem find?_reverse_placed (absent : ∀ c ∈ after, p c = false) (last : c ∈ text.getLast?)
    (here : p c = true) :
    ((placed 0 (text ++ after)).reverse.find? fun item => p item.2) =
      some ((encode text.dropLast).length, c) := by
  have noLater (offset : Nat) : ((placed offset after).reverse.find? fun item => p item.2) = none :=
    List.find?_eq_none.mpr fun item member =>
      not_of_mem_placed absent offset item (List.mem_reverse.mp member)
  obtain ⟨front, rfl⟩ := List.getLast?_eq_some_iff.mp last
  rw [placed_append, placed_append 0 front, List.reverse_append, List.reverse_append,
    List.find?_append, noLater, Option.none_or, List.dropLast_concat, Nat.zero_add, placed, placed,
    List.reverse_singleton, List.singleton_append, List.find?_cons_of_pos]
  exact here

end Places

theorem length_encode_dropLast {c : Char} (last : c ∈ text.getLast?) :
    (encode text.dropLast).length + (encodeChar c).length = (encode text).length := by
  obtain ⟨front, rfl⟩ := List.getLast?_eq_some_iff.mp last
  rw [List.dropLast_concat, encode_append, List.length_append, encode_cons]
  exact congrArg (_ + ·) (congrArg List.length (List.append_nil _).symm)

theorem blankOffset?_eq_none (nonblank : ∀ c ∈ text, isBlank c = false) :
    blankOffset? text = none := by
  rw [blankOffset?, find?_placed_eq_none nonblank, Option.map_none]

theorem blankOffset?_append {first : Char} (nonblank : ∀ c ∈ before, isBlank c = false)
    (blank : isBlank first = true) (after : List Char) :
    blankOffset? (before ++ first :: after) = some (encode before).length := by
  rw [blankOffset?, find?_placed nonblank List.head?_cons blank, Option.map_some]

theorem trimOffsets_of_blank (blank : ∀ c ∈ text, isBlank c = true) :
    trimOffsets text = (0, 0) := by
  have none_found : ((placed 0 text).find? fun item => !isBlank item.2) = none :=
    find?_placed_eq_none (p := fun c => !isBlank c) (fun c member => by simp [blank c member]) 0
  rw [trimOffsets, none_found]

/-- A trimmed text is found between the blank characters around it. -/
theorem trimOffsets_append (trimmed : trim text = text) (nonempty : text ≠ [])
    (blankBefore : ∀ c ∈ before, isBlank c = true) (blankAfter : ∀ c ∈ after, isBlank c = true) :
    trimOffsets (before ++ text ++ after) =
      ((encode before).length, (encode (before ++ text)).length) := by
  obtain ⟨nonblankHead, nonblankLast⟩ := trim_eq_self_iff.mp trimmed
  have head := List.head_mem_head? nonempty
  have last := List.getLast_mem_getLast? nonempty
  have firstFound : ((placed 0 (before ++ text ++ after)).find? fun item => !isBlank item.2) =
      some ((encode before).length, text.head nonempty) := by
    rw [List.append_assoc]
    refine find?_placed (p := fun c => !isBlank c) (fun c member => ?_) ?_ ?_
    · simp [blankBefore c member]
    · rwa [List.head?_append_of_ne_nil _ nonempty]
    · simp [nonblankHead _ head]
  have lastOfBoth : text.getLast nonempty ∈ (before ++ text).getLast? := by
    rwa [List.getLast?_append_of_ne_nil _ nonempty]
  have lastFound :
      ((placed 0 (before ++ text ++ after)).reverse.find? fun item => !isBlank item.2) =
        some ((encode (before ++ text).dropLast).length, text.getLast nonempty) := by
    refine find?_reverse_placed (p := fun c => !isBlank c) (fun c member => ?_) lastOfBoth ?_
    · simp [blankAfter c member]
    · simp [nonblankLast _ last]
  rw [trimOffsets, firstFound, lastFound, ← length_encode_dropLast lastOfBoth]

/-- Trimming the bytes of a text gives the bytes of the trimmed text. -/
@[simp]
theorem trim?_encode (text : List Char) : trim? (encode text) = some (encode (trim text)) := by
  obtain ⟨after, whole, blankAfter⟩ := exists_append_trim text
  rw [trim?, decode_encode]
  by_cases blank : trim text = []
  · rw [trimOffsets_of_blank (trim_eq_nil_iff.mp blank), blank]
    exact slice?_encode_eq_some_iff.mpr ⟨[], [], text, rfl, rfl, rfl, rfl⟩
  · have blankBefore : ∀ c ∈ text.takeWhile isBlank, isBlank c = true :=
      fun c => List.mem_takeWhile_imp
    have offsets := trimOffsets_append (trim_trim text) blank blankBefore blankAfter
    rw [whole] at offsets
    rw [offsets]
    exact slice?_encode_eq_some_iff.mpr ⟨_, _, after, whole.symm, rfl, rfl, rfl⟩

end Utf8
end Text
end SlashDice
