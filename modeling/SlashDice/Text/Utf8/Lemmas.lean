import SlashDice.Text.Utf8

/-!
# Reading back UTF-8

The bytes of a text are read as that text, and an ASCII character is one byte.
-/

namespace SlashDice
namespace Text
namespace Utf8

@[simp]
theorem encode_cons (c : Char) (rest : List Char) :
    encode (c :: rest) = encodeChar c ++ encode rest :=
  List.flatMap_cons

@[simp]
theorem encode_append (text after : List Char) :
    encode (text ++ after) = encode text ++ encode after :=
  List.flatMap_append

theorem encodeChar_ascii {c : Char} (ascii : c.toNat < 0x80) :
    encodeChar c = [UInt8.ofNat c.toNat] :=
  if_pos ascii

/-- A byte in range completes the character whose last byte is owed. -/
theorem next_complete {b l m n : Nat} {c : Char} (whole : b * 64 + l = c.toNat)
    (least : m ≤ 0x80 + l) (greatest : 0x80 + l ≤ n) :
    (⟨b, 1, m, n⟩ : Unfinished).next (0x80 + l) = ([c], none) := by
  have bits : b * 64 + (0x80 + l - 0x80) = c.toNat := by omega
  simp only [Unfinished.next, least, greatest, and_self, if_true, bits, Char.ofNat_toNat,
    Nat.le_refl]

/-- A byte in range adds its bits to a character that owes more than one. -/
theorem next_continue {b l m n o : Nat} (more : 1 < o) (least : m ≤ 0x80 + l)
    (greatest : 0x80 + l ≤ n) :
    (⟨b, o, m, n⟩ : Unfinished).next (0x80 + l) =
      ([], some ⟨b * 64 + l, o - 1, 0x80, 0xBF⟩) := by
  have bits : b * 64 + (0x80 + l - 0x80) = b * 64 + l := by omega
  simp only [Unfinished.next, least, greatest, and_self, if_true, bits,
    Nat.not_le.mpr more, if_false]

theorem start_two {p : Nat} (low : 0x80 ≤ p) (high : p < 0x800) :
    start (0xC0 + p / 64) = ([], some ⟨p / 64, 1, 0x80, 0xBF⟩) := by
  unfold start beginWith leastAfter greatestAfter
  rw [if_neg (by omega), if_neg (by omega), if_pos (by omega), if_neg (by omega),
    if_neg (by omega), if_neg (by omega), if_neg (by omega), Nat.add_sub_cancel_left]

theorem start_three {p : Nat} (low : 0x800 ≤ p) (high : p < 0x10000) :
    start (0xE0 + p / 4096) = beginWith (0xE0 + p / 4096) (p / 4096) 2 := by
  unfold start
  rw [if_neg (by omega), if_neg (by omega), if_neg (by omega), if_pos (by omega),
    Nat.add_sub_cancel_left]

theorem start_four {p : Nat} (low : 0x10000 ≤ p) (high : p < 0x110000) :
    start (0xF0 + p / 262144) = beginWith (0xF0 + p / 262144) (p / 262144) 3 := by
  unfold start
  rw [if_neg (by omega), if_neg (by omega), if_neg (by omega), if_neg (by omega),
    if_pos (by omega), Nat.add_sub_cancel_left]

theorem second_in_range_three {p : Nat} (low : 0x800 ≤ p) (high : p < 0x10000)
    (valid : p < 0xD800 ∨ 0xDFFF < p) :
    leastAfter (0xE0 + p / 4096) ≤ 0x80 + p / 64 % 64 ∧
      0x80 + p / 64 % 64 ≤ greatestAfter (0xE0 + p / 4096) := by
  rw [leastAfter, greatestAfter]
  constructor <;> (repeat' split) <;> omega

theorem second_in_range_four {p : Nat} (low : 0x10000 ≤ p) (high : p < 0x110000) :
    leastAfter (0xF0 + p / 262144) ≤ 0x80 + p / 4096 % 64 ∧
      0x80 + p / 4096 % 64 ≤ greatestAfter (0xF0 + p / 262144) := by
  rw [leastAfter, greatestAfter]
  constructor <;> (repeat' split) <;> omega

@[simp]
theorem decodeFrom_encodeChar (c : Char) (rest : List UInt8) :
    decodeFrom none (encodeChar c ++ rest) = c :: decodeFrom none rest := by
  have valid : c.toNat < 0xD800 ∨ (0xDFFF < c.toNat ∧ c.toNat < 0x110000) := c.valid
  have small : ∀ {n : Nat}, n < 256 → (UInt8.ofNat n).toNat = n :=
    fun bound => UInt8.toNat_ofNat_of_lt' bound
  have tail : ∀ n : Nat, (UInt8.ofNat (0x80 + n % 64)).toNat = 0x80 + n % 64 :=
    fun n => small (by omega)
  unfold encodeChar encodePoint
  split
  case isTrue one =>
    simp only [List.cons_append, List.nil_append, decodeFrom, step, start,
      small (show c.toNat < 256 by omega), one, if_true, Char.ofNat_toNat]
  split
  case isTrue two =>
    have head := small (show 0xC0 + c.toNat / 64 < 256 by omega)
    have last : (⟨c.toNat / 64, 1, 0x80, 0xBF⟩ : Unfinished).next (0x80 + c.toNat % 64) =
        ([c], none) := next_complete (by omega) (by omega) (by omega)
    simp only [List.cons_append, List.nil_append, decodeFrom, step, head, tail,
      start_two (show 0x80 ≤ c.toNat by omega) two, last]
  split
  case isTrue three =>
    have head := small (show 0xE0 + c.toNat / 4096 < 256 by omega)
    obtain ⟨least, greatest⟩ := second_in_range_three (by omega) three (by omega)
    have second := next_continue (b := c.toNat / 4096) (show 1 < 2 by decide) least greatest
    have last : (⟨c.toNat / 4096 * 64 + c.toNat / 64 % 64, 1, 0x80, 0xBF⟩ : Unfinished).next
        (0x80 + c.toNat % 64) = ([c], none) := next_complete (by omega) (by omega) (by omega)
    simp only [List.cons_append, List.nil_append, decodeFrom, step, head, tail,
      start_three (show 0x800 ≤ c.toNat by omega) three, beginWith, second, last]
  case isFalse four =>
    have head := small (show 0xF0 + c.toNat / 262144 < 256 by omega)
    obtain ⟨least, greatest⟩ := second_in_range_four (p := c.toNat) (by omega) (by omega)
    have second := next_continue (b := c.toNat / 262144) (show 1 < 3 by decide) least greatest
    have third : (⟨c.toNat / 262144 * 64 + c.toNat / 4096 % 64, 2, 0x80, 0xBF⟩ :
        Unfinished).next (0x80 + c.toNat / 64 % 64) = ([], some
          ⟨(c.toNat / 262144 * 64 + c.toNat / 4096 % 64) * 64 + c.toNat / 64 % 64, 1, 0x80,
            0xBF⟩) :=
      next_continue (by decide) (by omega) (by omega)
    have last : (⟨(c.toNat / 262144 * 64 + c.toNat / 4096 % 64) * 64 + c.toNat / 64 % 64, 1,
        0x80, 0xBF⟩ : Unfinished).next (0x80 + c.toNat % 64) = ([c], none) :=
      next_complete (by omega) (by omega) (by omega)
    simp only [List.cons_append, List.nil_append, decodeFrom, step, head, tail,
      start_four (show 0x10000 ≤ c.toNat by omega) (show c.toNat < 0x110000 by omega),
      beginWith, second, Nat.reduceSub, third, last]

@[simp]
theorem decode_encode (text : List Char) : decode (encode text) = text := by
  induction text with
  | nil => rfl
  | cons c rest induction =>
      exact (decodeFrom_encodeChar c (encode rest)).trans (congrArg (c :: ·) induction)

theorem encode_ascii {text : List Char} (ascii : ∀ c ∈ text, c.toNat < 0x80) :
    encode text = text.map fun c => UInt8.ofNat c.toNat := by
  induction text with
  | nil => rfl
  | cons c rest induction =>
      rw [List.forall_mem_cons] at ascii
      rw [List.map_cons, ← induction ascii.2]
      exact congrArg (· ++ encode rest) (encodeChar_ascii ascii.1)

end Utf8
end Text
end SlashDice
