import SlashDice.Install.State
import SlashDice.Proofs.Text.Hex
import SlashDice.Proofs.Text.Numeral
import SlashDice.Proofs.Text.Pieces
import SlashDice.Proofs.Web.Form

/-!
# States that come back

The parts of a state that is issued are numerals and hexadecimal digits, so no part
holds the dot that stands between them, and no form changes a character of them.  A
state that comes back as it was issued is taken apart again into what it was made of,
and its age alone decides.
-/

namespace SlashDice
namespace InstallState

open Text Web

/-- Whether a character may stand in a part of a state: a form leaves it as it is, and
it is not the dot between the parts. -/
def isInPart (c : Char) : Bool :=
  Form.isPlainChar c && c != '.'

theorem isPlainChar_of_isInPart {c : Char} (inPart : isInPart c = true) :
    Form.isPlainChar c = true :=
  (Bool.and_eq_true_iff.mp inPart).1

theorem dot_not_mem {part : List Char} (inPart : ∀ c ∈ part, isInPart c = true) :
    '.' ∉ part := by
  intro member
  have wrong := inPart _ member
  cases wrong

theorem isInPart_digit {value : Nat} (small : value < 16) :
    isInPart (Hex.digit value) = true := by
  have all : ∀ value < 16, isInPart (Hex.digit value) = true := by decide
  exact all value small

theorem isInPart_of_mem_encode {bytes : List UInt8} :
    ∀ c ∈ Hex.encode bytes, isInPart c = true := by
  intro c member
  obtain ⟨byte, _, here⟩ := List.mem_flatMap.mp member
  have size := byte.toNat_lt
  rcases List.mem_cons.mp here with rfl | here
  · exact isInPart_digit (by omega)
  · cases List.mem_singleton.mp here
    exact isInPart_digit (by omega)

theorem isInPart_of_mem_ofWord {word : UInt64} :
    ∀ c ∈ Hex.ofWord word, isInPart c = true := by
  intro c member
  obtain ⟨place, _, rfl⟩ := List.mem_map.mp member
  exact isInPart_digit (Nat.mod_lt _ (by decide))

theorem isInPart_of_mem_ofInt {value : Int} :
    ∀ c ∈ Numeral.ofInt value, isInPart c = true := by
  intro c member
  rcases Numeral.isDigit_or_minus_of_mem_ofInt member with digit | rfl
  · have ascii : c.toNat < 0x80 := by
      have last := UInt32.le_iff_toNat_le.mp (of_decide_eq_true (Bool.and_eq_true_iff.mp digit).2)
      exact Nat.lt_of_le_of_lt last (by decide)
    have all := Ascii.of_code_points (p := fun c => c.isDigit = true → isInPart c = true)
      (by decide +kernel) ascii
    exact all digit
  · rfl

variable (secret : String) (issuedAt now : Int64) (nonce : UInt64)

theorem toList_issue : (issue secret issuedAt nonce).toList =
    payload issuedAt nonce ++ '.' :: Hex.encode (mac secret (payload issuedAt nonce)) :=
  String.toList_ofList

theorem isPlainChar_of_mem_issue :
    ∀ c ∈ (issue secret issuedAt nonce).toList, Form.isPlainChar c = true := by
  intro c member
  rw [toList_issue, payload, List.append_assoc, List.cons_append] at member
  rcases List.mem_append.mp member with time | member
  · exact isPlainChar_of_isInPart (isInPart_of_mem_ofInt c time)
  rcases List.mem_cons.mp member with rfl | member
  · rfl
  rcases List.mem_append.mp member with word | member
  · exact isPlainChar_of_isInPart (isInPart_of_mem_ofWord c word)
  rcases List.mem_cons.mp member with rfl | digest
  · rfl
  · exact isPlainChar_of_isInPart (isInPart_of_mem_encode c digest)

theorem length_issue_le : (issue secret issuedAt nonce).toList.length ≤ 102 := by
  have time := Numeral.length_ofInt_toInt_le issuedAt
  have word : (Hex.ofWord nonce).length = 16 := by
    rw [Hex.ofWord, List.length_map, List.length_range]
  rw [toList_issue, payload, List.length_append, List.length_cons, List.length_append,
    List.length_cons, word, Hex.length_encode, mac, Hmac.length_mac]
  omega

theorem parts?_issue : parts? (issue secret issuedAt nonce).toList =
    some (payload issuedAt nonce, mac secret (payload issuedAt nonce)) := by
  rw [toList_issue, parts?, cutLast?_append _ (dot_not_mem isInPart_of_mem_encode)]
  simp only [Hex.decode_encode, Option.map_some]

theorem issuedAt?_payload : issuedAt? (payload issuedAt nonce) = some issuedAt := by
  rw [issuedAt?, payload, beforeFirst_append (dot_not_mem isInPart_of_mem_ofInt)]
  exact Numeral.int64?_eq_some_iff.mpr (Numeral.spells_ofInt _)

theorem maxAge_lt_iff {now issuedAt : Int64} :
    maxAge < secondsApart now issuedAt ↔ 600 < (now.toInt - issuedAt.toInt).natAbs := by
  rw [← toNat_secondsApart, UInt64.lt_iff_toNat_lt]
  rfl

/-- A state that was issued is accepted as long as it is no older than ten minutes,
and is not issued later than that either; otherwise it has expired. -/
theorem check_issue : check secret (some (issue secret issuedAt nonce)) now =
    if (now.toInt - issuedAt.toInt).natAbs ≤ 600 then .ok () else .error .expired := by
  have nonempty : issue secret issuedAt nonce ≠ "" := by
    intro empty
    have none := congrArg String.toList empty
    rw [toList_issue] at none
    exact List.append_ne_nil_of_right_ne_nil _ (List.cons_ne_nil _ _) none
  rw [check, if_neg nonempty, checkText, parts?_issue]
  simp only [issuedAt?_payload, maxAge_lt_iff, ← Nat.not_le, ite_not, ne_eq, not_true_eq_false,
    if_false]

end InstallState
end SlashDice
