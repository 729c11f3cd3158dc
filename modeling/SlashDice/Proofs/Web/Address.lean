import SlashDice.Proofs.Text.Pieces
import SlashDice.Proofs.Web.Form
import SlashDice.Web.Address.Reader

/-!
# Addresses with a written form behind them

No character of a written form ends the query of an address, so an address with a
written form behind its question mark has that form as its query.
-/

namespace SlashDice
namespace Web
namespace Address

open Text

theorem Tail.ofText_of_written {path query : List Char} (noMark : '?' ∉ path)
    (noFragment : '#' ∉ path) (written : ∀ c ∈ query, Form.isWritten c = true) :
    Tail.ofText (path ++ '?' :: query) = ⟨path, some query, none⟩ := by
  have absent : '#' ∉ path ++ '?' :: query := by
    rw [List.mem_append, List.mem_cons]
    rintro (here | mark | here)
    · exact noFragment here
    · cases mark
    · exact (Form.written_facts (written _ here)).2.2 rfl
  rw [Tail.ofText, beforeFirst_of_not_mem absent]
  simp only [beforeFirst_append noMark, cutFirst?_append noMark, cutFirst?_of_not_mem absent,
    Option.map_some, Option.map_none]

end Address
end Web
end SlashDice
