import SlashDice.Install.Registration
import SlashDice.Proofs.Web.Address

/-!
# The address of the page of approval

The address is one of visible characters, and what stands behind its question mark is
the form that was written.
-/

namespace SlashDice

open Text Web

variable (clientId : String) (scopes : List String) (redirectUri state : Option String)

theorem toList_approvalUrl :
    (approvalUrl clientId scopes redirectUri state).toList = approvalPage.toList ++ '?' ::
      Form.encode (approvalParameters clientId scopes redirectUri state) := by
  simp only [approvalUrl, String.toList_append, String.toList_ofList, List.append_assoc]
  rfl

theorem tail_approvalUrl :
    Address.Tail.ofText (approvalUrl clientId scopes redirectUri state).toList =
      ⟨approvalPage.toList,
        some (Form.encode (approvalParameters clientId scopes redirectUri state)), none⟩ := by
  rw [toList_approvalUrl]
  exact Address.Tail.ofText_of_written (by decide) (by decide) fun _ => Form.isWritten_of_mem_encode

theorem isLegalHeader_approvalUrl :
    isLegalHeader (approvalUrl clientId scopes redirectUri state) = true := by
  have page : approvalPage.toList.all isVisibleAscii = true := by decide
  refine isLegalHeader_of_visible fun c member => ?_
  rw [toList_approvalUrl, List.mem_append, List.mem_cons] at member
  rcases member with before | rfl | written
  · exact List.all_eq_true.mp page c before
  · rfl
  · exact (Form.written_facts (Form.isWritten_of_mem_encode written)).1

theorem filter_state_approvalParameters :
    (approvalParameters clientId scopes redirectUri state).filter
      (fun pair => pair.1 == "state") = (state.map fun value => ("state", value)).toList := by
  cases redirectUri <;> cases state <;> rfl

/-- The address is that of the page of approval with a query behind it.  The query has
visible ASCII characters only, all of which may stand in a header; it is what a reader of
addresses takes for the query; and it is read as the parameters that were given, in order
and unaltered, and as nothing else. -/
theorem approvalUrl_carries_parameters :
    ∃ query : List Char,
      (approvalUrl clientId scopes redirectUri state).toList =
        "https://slack.com/oauth/v2/authorize".toList ++ '?' :: query ∧
      (∀ c ∈ query, 0x21 ≤ c.toNat ∧ c.toNat ≤ 0x7E ∧
        isLegalInHeader (UInt8.ofNat c.toNat) = true) ∧
      Address.Tail.ofText (approvalUrl clientId scopes redirectUri state).toList =
        ⟨"https://slack.com/oauth/v2/authorize".toList, some query, none⟩ ∧
      Form.decode (Utf8.encode query) =
        [("client_id", clientId), ("scope", String.intercalate "," scopes)] ++
          (redirectUri.map fun uri => ("redirect_uri", uri)).toList ++
          (state.map fun value => ("state", value)).toList := by
  refine ⟨Form.encode (approvalParameters clientId scopes redirectUri state),
    toList_approvalUrl clientId scopes redirectUri state, fun c written => ?_,
    tail_approvalUrl clientId scopes redirectUri state, Form.decode_encode _⟩
  have visible := (Form.written_facts (Form.isWritten_of_mem_encode written)).1
  have legal := isLegalInHeader_of_isVisibleAscii visible
  simp only [isVisibleAscii, Bool.and_eq_true, decide_eq_true_eq] at visible
  exact ⟨visible.1, visible.2, legal⟩

end SlashDice
