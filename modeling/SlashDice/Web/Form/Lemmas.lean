import SlashDice.Text.Utf8.Lemmas
import SlashDice.Web.Form

/-!
# Reading back forms

Written pairs are read as these pairs.  What is written of a text is ASCII and
has neither separator, so the pieces between the separators are the texts, and
the escapes of each text are undone byte by byte.
-/

namespace SlashDice
namespace Web
namespace Form

open Text

/-- Whether a character is ASCII and separates neither pairs nor a name from its
value. -/
def isInner (c : Char) : Bool :=
  c.toNat < 0x80 && c != '&' && c != '='

theorem ascii_of_isInner {c : Char} (inner : isInner c = true) : c.toNat < 0x80 := by
  simp only [isInner, Bool.and_eq_true, decide_eq_true_eq] at inner
  exact inner.1.1

theorem isInner_of_mem_escapeByte {byte : UInt8} {c : Char} (written : c ∈ escapeByte byte) :
    isInner c = true := by
  have all : ∀ n < 256, (escapeByte (UInt8.ofNat n)).all isInner = true := by decide +kernel
  have here := all byte.toNat byte.toNat_lt
  rw [UInt8.ofNat_toNat] at here
  exact List.all_eq_true.mp here c written

theorem isInner_of_mem_encodeText {text : List Char} {c : Char} (written : c ∈ encodeText text) :
    isInner c = true := by
  obtain ⟨byte, _, here⟩ := List.mem_flatMap.mp written
  exact isInner_of_mem_escapeByte here

/-- A byte that stands for itself is no sign of an escape. -/
theorem plain_facts {byte : UInt8} (plain : isPlain byte = true) :
    byte ≠ 0x2B ∧ byte ≠ 0x25 ∧ UInt8.ofNat (Char.ofNat byte.toNat).toNat = byte := by
  have all : ∀ n < 256, isPlain (UInt8.ofNat n) = true →
      UInt8.ofNat n ≠ 0x2B ∧ UInt8.ofNat n ≠ 0x25 ∧
        UInt8.ofNat (Char.ofNat (UInt8.ofNat n).toNat).toNat = UInt8.ofNat n := by
    decide +kernel
  have here := all byte.toNat byte.toNat_lt
  rw [UInt8.ofNat_toNat] at here
  exact here plain

theorem spaceOfPlus_ofByte (byte : UInt8) :
    ((Percent.ofByte byte).map fun c => UInt8.ofNat c.toNat).map spaceOfPlus =
      (Percent.ofByte byte).map fun c => UInt8.ofNat c.toNat := by
  have all : ∀ n < 256, ((Percent.ofByte (UInt8.ofNat n)).map fun c =>
      UInt8.ofNat c.toNat).map spaceOfPlus =
        (Percent.ofByte (UInt8.ofNat n)).map fun c => UInt8.ofNat c.toNat := by decide +kernel
  have here := all byte.toNat byte.toNat_lt
  rwa [UInt8.ofNat_toNat] at here

theorem unescape_escapeByte (byte : UInt8) (rest : List UInt8) :
    unescape ((escapeByte byte).map (fun c => UInt8.ofNat c.toNat) ++ rest) =
      byte :: unescape rest := by
  rw [unescape, unescape, List.map_append]
  unfold escapeByte
  split
  case isTrue plain =>
    obtain ⟨noPlus, noPercent, same⟩ := plain_facts plain
    simp only [List.map_cons, List.map_nil, List.cons_append, List.nil_append, same,
      spaceOfPlus, if_neg noPlus]
    exact Percent.decode_cons noPercent _
  split
  case isTrue space =>
    rw [space]
    exact Percent.decode_cons (by decide) _
  case isFalse =>
    rw [spaceOfPlus_ofByte]
    exact Percent.decode_ofByte byte _

def textBytes (text : String) : List UInt8 :=
  (encodeText text.toList).map fun c => UInt8.ofNat c.toNat

@[simp]
theorem decodeText_textBytes (text : String) : decodeText (textBytes text) = text := by
  have undone : ∀ bytes : List UInt8,
      unescape ((bytes.flatMap escapeByte).map fun c => UInt8.ofNat c.toNat) = bytes := by
    intro bytes
    induction bytes with
    | nil => rfl
    | cons byte rest induction =>
        rw [List.flatMap_cons, List.map_append, unescape_escapeByte, induction]
  rw [decodeText, textBytes, encodeText, undone, Utf8.decode_encode, String.ofList_toList]

theorem separator_not_mem_textBytes (text : String) :
    0x26 ∉ textBytes text ∧ 0x3D ∉ textBytes text := by
  have all : ∀ n < 0x80, isInner (Char.ofNat n) = true →
      UInt8.ofNat n ≠ 0x26 ∧ UInt8.ofNat n ≠ 0x3D := by decide +kernel
  have inner : ∀ byte ∈ textBytes text, byte ≠ 0x26 ∧ byte ≠ 0x3D := by
    intro byte written
    obtain ⟨c, here, rfl⟩ := List.mem_map.mp written
    have free := isInner_of_mem_encodeText here
    exact all c.toNat (ascii_of_isInner free) (by rwa [Char.ofNat_toNat])
  exact ⟨fun written => (inner _ written).1 rfl, fun written => (inner _ written).2 rfl⟩

def pairBytes (pair : String × String) : List UInt8 :=
  textBytes pair.1 ++ 0x3D :: textBytes pair.2

@[simp]
theorem decodePair_pairBytes (pair : String × String) : decodePair (pairBytes pair) = pair := by
  rw [decodePair, pairBytes, cutFirst?_append (separator_not_mem_textBytes pair.1).2]
  simp only [decodeText_textBytes]

/-- The bytes of a joined text are joined from the bytes of its parts. -/
theorem utf8_intercalate (separator : Char) (parts : List (List Char)) :
    Utf8.encode (List.intercalate [separator] parts) =
      List.intercalate (Utf8.encodeChar separator) (parts.map Utf8.encode) := by
  induction parts with
  | nil => rfl
  | cons part rest induction =>
      cases rest with
      | nil => simp [List.intercalate]
      | cons next more =>
          simp only [List.map_cons] at induction ⊢
          rw [List.intercalate_cons_cons, List.intercalate_cons_cons, ← induction]
          simp [Utf8.encode]

@[simp]
theorem utf8_encodeText (text : String) :
    Utf8.encode (encodeText text.toList) = textBytes text :=
  Utf8.encode_ascii fun _ written => ascii_of_isInner (isInner_of_mem_encodeText written)

@[simp]
theorem utf8_encodePair (pair : String × String) :
    Utf8.encode (encodePair pair) = pairBytes pair := by
  have equals : Utf8.encodeChar '=' = [0x3D] := rfl
  simp [pairBytes, ← utf8_encodeText, Utf8.encode, encodePair, equals]

theorem separator_not_mem_pairBytes (pair : String × String) : 0x26 ∉ pairBytes pair := by
  simp [pairBytes, (separator_not_mem_textBytes pair.1).1,
    (separator_not_mem_textBytes pair.2).1]

@[simp]
theorem decode_encode (pairs : List (String × String)) :
    decode (Utf8.encode (encode pairs)) = pairs := by
  have bytes : Utf8.encode (encode pairs) = List.intercalate [0x26] (pairs.map pairBytes) := by
    rw [encode, utf8_intercalate, List.map_map]
    exact congrArg (List.intercalate [0x26])
      (List.map_congr_left fun pair _ => utf8_encodePair pair)
  rw [bytes]
  cases pairs with
  | nil => rfl
  | cons pair rest =>
      have cut : pieces 0x26 (List.intercalate [0x26] ((pair :: rest).map pairBytes)) =
          (pair :: rest).map pairBytes :=
        pieces_intercalate (List.cons_ne_nil _ _) fun part member => by
          obtain ⟨written, _, rfl⟩ := List.mem_map.mp member
          exact separator_not_mem_pairBytes written
      have kept : (((pair :: rest).map pairBytes).filter fun piece => !piece.isEmpty) =
          (pair :: rest).map pairBytes :=
        List.filter_eq_self.mpr fun part member => by
          obtain ⟨written, _, rfl⟩ := List.mem_map.mp member
          simp [pairBytes]
      rw [decode, cut, kept, List.map_map]
      exact (List.map_congr_left fun written _ => decodePair_pairBytes written).trans
        (List.map_id _)

end Form
end Web
end SlashDice
