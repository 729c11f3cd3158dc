import SlashDice.Proofs.Install.Registration
import SlashDice.Proofs.Text.Blank
import SlashDice.Proofs.Text.Pieces

/-!
# Scopes to ask for

The scopes in the settings are written with commas between them, and blank pieces are
skipped.  A scope is trimmed and has no comma, so the scopes that are joined with commas
for the page of approval are the same scopes when they are read again.
-/

namespace SlashDice

open Text Web

namespace Settings

/-- What one scope is like: it is not empty, it has no comma, and no blank character
stands at either of its ends. -/
structure IsScope (scope : List Char) : Prop where
  nonempty : scope ≠ []
  noComma : ',' ∉ scope
  head_visible : ∀ c ∈ scope.head?, isBlank c = false
  last_visible : ∀ c ∈ scope.getLast?, isBlank c = false

variable {text scope : List Char} {scopes : List (List Char)}

theorem IsScope.trim_eq (isScope : IsScope scope) : trim scope = scope :=
  trim_eq_self_iff.mpr ⟨isScope.head_visible, isScope.last_visible⟩

theorem mem_scopePieces_iff :
    scope ∈ scopePieces text ↔ (∃ piece ∈ pieces ',' text, trim piece = scope) ∧ scope ≠ [] := by
  simp [scopePieces]

theorem isScope_of_mem_scopePieces (member : scope ∈ scopePieces text) : IsScope scope := by
  obtain ⟨⟨piece, inText, rfl⟩, nonempty⟩ := mem_scopePieces_iff.mp member
  obtain ⟨head, last⟩ := trim_eq_self_iff.mp (trim_trim piece)
  exact ⟨nonempty, fun comma => not_mem_of_mem_pieces inText (mem_of_mem_trim comma), head, last⟩

theorem scopePieces_eq (text : List Char) :
    scopePieces text =
      ((text.splitOn ',').filter fun piece => piece.any fun c => !isBlank c).map trim := by
  rw [scopePieces, pieces_eq_splitOn, List.filter_map]
  congr 1
  refine List.filter_congr fun piece _ => ?_
  rw [Bool.eq_iff_iff]
  simp [trim_eq_nil_iff]

theorem scopePieces_intercalate (areScopes : ∀ scope ∈ scopes, IsScope scope) :
    scopePieces (List.intercalate [','] scopes) = scopes := by
  cases scopes with
  | nil => rfl
  | cons first rest =>
      have cut : pieces ',' (List.intercalate [','] (first :: rest)) = first :: rest :=
        pieces_intercalate (List.cons_ne_nil _ _) fun scope member => (areScopes scope member).noComma
      have trimmed : (first :: rest).map trim = first :: rest := by
        refine (List.map_congr_left fun scope member => ?_).trans (List.map_id _)
        exact (areScopes scope member).trim_eq
      rw [scopePieces, cut, trimmed, List.filter_eq_self]
      intro scope member
      simpa using (areScopes scope member).nonempty

theorem map_toList_scopeList (settings : Settings) :
    settings.scopeList.map String.toList = scopePieces settings.oauthScopes.toList := by
  simp [scopeList, Function.comp_def]

/-- The settings have the scopes that are written in them, in order and as often: the
pieces between the commas that are not blank, trimmed.  The page of approval is asked for
them by its parameter scope, and what that parameter says is read as the same scopes. -/
theorem scopes_normalized_and_kept (settings : Settings) (clientId : String)
    (redirectUri state : Option String) :
    (∀ scope ∈ settings.scopeList, IsScope scope.toList) ∧
      settings.scopeList.map String.toList =
        ((settings.oauthScopes.toList.splitOn ',').filter fun piece =>
          piece.any fun c => !isBlank c).map trim ∧
      ∃ query joined,
        (Address.Tail.ofText
          (approvalUrl clientId settings.scopeList redirectUri state).toList).query =
            some query ∧
        (Form.decode (Utf8.encode query)).lookup "scope" = some joined ∧
        joined = String.intercalate "," settings.scopeList ∧
        ({ settings with oauthScopes := joined }).scopeList = settings.scopeList := by
  have written := map_toList_scopeList settings
  have areScopes : ∀ scope ∈ settings.scopeList, IsScope scope.toList := by
    intro scope member
    exact isScope_of_mem_scopePieces (written ▸ List.mem_map_of_mem member)
  refine ⟨areScopes, written.trans (scopePieces_eq _), _, _,
    congrArg Address.Tail.query (tail_approvalUrl _ _ _ _), ?_, rfl, ?_⟩
  · rw [Form.decode_encode]
    rfl
  · have again : scopePieces (String.intercalate "," settings.scopeList).toList =
        settings.scopeList.map String.toList := by
      rw [String.toList_intercalate]
      exact scopePieces_intercalate (List.forall_mem_map.mpr areScopes)
    rw [scopeList, again, List.map_map]
    simp [Function.comp_def]

/-- Empty and blank pieces are skipped, and blank characters inside a scope stay. -/
example : scopePieces " commands,, \u3000,chat:write ,a b".toList =
    ["commands".toList, "chat:write".toList, "a b".toList] := by
  decide +kernel

end Settings
end SlashDice
