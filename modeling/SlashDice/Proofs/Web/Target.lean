import SlashDice.Proofs.Text.Pieces
import SlashDice.Proofs.Web.Form

/-!
# Targets with a written form as their query

A path with a written form behind it is read as the target that it shows.
-/

namespace SlashDice
namespace Web
namespace Target

open Text

theorem ofText?_of_written {folders query : List Char}
    (inPath : folders.all isPathChar = true) (noMark : '?' ∉ folders) (noFragment : '#' ∉ folders)
    (written : ∀ c ∈ query, Form.isWritten c = true)
    (short : (Utf8.encode ('/' :: (folders ++ '?' :: query))).length ≤ maxBytes) :
    ofText? ('/' :: (folders ++ '?' :: query)) = some ⟨'/' :: folders, some query⟩ := by
  have noFragmentAtAll : '#' ∉ ('/' :: folders) ++ '?' :: query := by
    rw [List.mem_append, List.mem_cons, List.mem_cons]
    rintro ((slash | here) | mark | here)
    · cases slash
    · exact noFragment here
    · cases mark
    · exact (Form.written_facts (written _ here)).2.2 rfl
  have noMarkAtAll : '?' ∉ '/' :: folders := by
    rw [List.mem_cons]
    rintro (slash | here)
    · cases slash
    · exact noMark here
  have pathChars : ('/' :: folders).all isPathChar = true := by
    rw [List.all_cons, inPath]
    rfl
  have queryChars : query.all isQueryChar = true :=
    List.all_eq_true.mpr fun c member => (Form.written_facts (written c member)).2.1
  rw [ofText?, if_neg (Nat.not_lt.mpr short)]
  change ofPathAndQuery? (('/' :: folders) ++ '?' :: query) = _
  rw [ofPathAndQuery?, beforeFirst_of_not_mem noFragmentAtAll]
  simp only [beforeFirst_append noMarkAtAll, cutFirst?_append noMarkAtAll, Option.map_some,
    Option.getD_some, pathChars, queryChars, Bool.and_true, if_true]
  rfl

end Target
end Web
end SlashDice
