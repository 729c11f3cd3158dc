import SlashDice.Proofs.Text.Ascii
import SlashDice.Web.Exchange
import SlashDice.Web.Form.Lemmas

/-!
# Characters of written forms

What is written of a form are plain characters and four signs, all of them visible
ASCII characters that end no query and may stand in a header.  A text of plain
characters only is written as it is.
-/

namespace SlashDice
namespace Web

open Text

/-- Whether a character is a visible ASCII character: no control character and no
space. -/
def isVisibleAscii (c : Char) : Bool :=
  0x21 ≤ c.toNat && c.toNat ≤ 0x7E

theorem ascii_of_isVisibleAscii {c : Char} (visible : isVisibleAscii c = true) :
    c.toNat < 0x80 := by
  simp only [isVisibleAscii, Bool.and_eq_true, decide_eq_true_eq] at visible
  omega

theorem isLegalInHeader_of_isVisibleAscii {c : Char} (visible : isVisibleAscii c = true) :
    isLegalInHeader (UInt8.ofNat c.toNat) = true := by
  have all := Ascii.of_code_points (p := fun c => isVisibleAscii c = true →
    isLegalInHeader (UInt8.ofNat c.toNat) = true) (by decide +kernel)
    (ascii_of_isVisibleAscii visible)
  exact all visible

/-- A text of visible ASCII characters, perhaps after a legal one, may stand in a
header. -/
theorem isLegalHeader_append {opening text : String} (legal : isLegalHeader opening = true)
    (visible : ∀ c ∈ text.toList, isVisibleAscii c = true) :
    isLegalHeader (opening ++ text) = true := by
  have bytes : Utf8.encode text.toList = text.toList.map fun c => UInt8.ofNat c.toNat :=
    Utf8.encode_ascii fun c member => ascii_of_isVisibleAscii (visible c member)
  have whole : Utf8.encode (opening ++ text).toList =
      Utf8.encode opening.toList ++ Utf8.encode text.toList := by
    rw [String.toList_append, Utf8.encode_append]
  rw [isLegalHeader, whole, List.all_append, Bool.and_eq_true, bytes, List.all_map]
  refine ⟨legal, List.all_eq_true.mpr fun c member => ?_⟩
  exact isLegalInHeader_of_isVisibleAscii (visible c member)

theorem isLegalHeader_of_visible {text : String}
    (visible : ∀ c ∈ text.toList, isVisibleAscii c = true) : isLegalHeader text = true := by
  have nothing : isLegalHeader "" = true := rfl
  have whole := isLegalHeader_append nothing visible
  rwa [String.empty_append] at whole

namespace Form

/-- Whether a character stands for itself in a form. -/
def isPlainChar (c : Char) : Bool :=
  c.toNat < 0x80 && isPlain (UInt8.ofNat c.toNat)

/-- Whether a character occurs in written forms. -/
def isWritten (c : Char) : Bool :=
  isPlainChar c || c == '+' || c == '%' || c == '&' || c == '='

theorem ascii_of_isPlainChar {c : Char} (plain : isPlainChar c = true) : c.toNat < 0x80 := by
  simp only [isPlainChar, Bool.and_eq_true, decide_eq_true_eq] at plain
  exact plain.1

theorem escapeByte_of_isPlainChar {c : Char} (plain : isPlainChar c = true) :
    escapeByte (UInt8.ofNat c.toNat) = [c] := by
  have all := Ascii.of_code_points (p := fun c => isPlainChar c = true →
    escapeByte (UInt8.ofNat c.toNat) = [c]) (by decide +kernel) (ascii_of_isPlainChar plain)
  exact all plain

/-- A text of plain characters is written as it is. -/
theorem encodeText_of_plain {text : List Char} (plain : ∀ c ∈ text, isPlainChar c = true) :
    encodeText text = text := by
  rw [encodeText, Utf8.encode_ascii fun c member => ascii_of_isPlainChar (plain c member),
    List.flatMap_map]
  induction text with
  | nil => rfl
  | cons c rest induction =>
      rw [List.forall_mem_cons] at plain
      rw [List.flatMap_cons, escapeByte_of_isPlainChar plain.1, induction plain.2]
      rfl

theorem isWritten_of_mem_encodeText {text : List Char} {c : Char} (member : c ∈ encodeText text) :
    isWritten c = true := by
  have all : ∀ n < 256, (escapeByte (UInt8.ofNat n)).all isWritten = true := by decide +kernel
  obtain ⟨byte, _, here⟩ := List.mem_flatMap.mp member
  have escaped := all byte.toNat byte.toNat_lt
  rw [UInt8.ofNat_toNat] at escaped
  exact List.all_eq_true.mp escaped c here

theorem isWritten_of_mem_encode {pairs : List (String × String)} {c : Char}
    (member : c ∈ encode pairs) : isWritten c = true := by
  have inPair : ∀ pair, c ∈ encodePair pair → isWritten c = true := by
    intro pair here
    rw [encodePair, List.mem_append, List.mem_cons] at here
    rcases here with name | rfl | value
    · exact isWritten_of_mem_encodeText name
    · rfl
    · exact isWritten_of_mem_encodeText value
  induction pairs with
  | nil => cases member
  | cons first rest induction =>
      cases rest with
      | nil =>
          rw [encode, List.map_singleton, List.intercalate_singleton] at member
          exact inPair first member
      | cons second rest =>
          rw [encode, List.map_cons, List.map_cons, List.intercalate_cons_cons, List.mem_append,
            List.mem_append, List.mem_singleton] at member
          rcases member with (here | rfl) | later
          · exact inPair first here
          · rfl
          · exact induction later

/-- The characters of written forms are visible, and none of them ends a query. -/
theorem written_facts {c : Char} (written : isWritten c = true) :
    isVisibleAscii c = true ∧ Target.isQueryChar c = true ∧ c ≠ '#' := by
  have ascii : c.toNat < 0x80 := by
    simp only [isWritten, Bool.or_eq_true, beq_iff_eq] at written
    rcases written with (((plain | rfl) | rfl) | rfl) | rfl
    · exact ascii_of_isPlainChar plain
    all_goals decide
  have all := Ascii.of_code_points (p := fun c => isWritten c = true →
    isVisibleAscii c = true ∧ Target.isQueryChar c = true ∧ c ≠ '#') (by decide +kernel) ascii
  exact all written

end Form
end Web
end SlashDice
