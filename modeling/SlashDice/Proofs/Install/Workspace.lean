import SlashDice.Install.Workspace
import SlashDice.Proofs.Text.Markup

/-!
# The page at the end of an installation

The name of a workspace is the only part of the page that comes from outside.  It is
escaped, so it is read as text: whatever the name, the page has the tags that it is
written with, and no others.
-/

namespace SlashDice
namespace Workspace

open Text Markup

def pageTags : List String :=
  ["<!DOCTYPE html>", "<html>", "<head>", "<meta charset=\"utf-8\">", "<title>", "</title>",
    "</head>", "<body>", "<h1>", "</h1>", "<p>", "<code>", "</code>", "</p>", "</body>", "</html>"]

theorem lt_not_mem_pageName (workspace : Workspace) : '<' ∉ workspace.pageName := by
  unfold pageName
  split
  · exact not_mem_escape (by decide) (by decide) _
  · decide

theorem pageName_eq (workspace : Workspace) :
    workspace.pageName =
      workspace.teamName.elim "your workspace".toList fun name => escape name.toList := by
  unfold pageName
  cases workspace.teamName with
  | none => rw [Option.elim_none]
  | some name => rw [Option.elim_some]

theorem toList_page (workspace : Workspace) :
    workspace.page.toList = pageOpening ++ workspace.pageName ++ pageClosing :=
  String.toList_ofList

/-- The page has its own tags only, and ends in the text. -/
theorem readTags_page (workspace : Workspace) :
    readTags .text workspace.page.toList = (pageTags.map String.toList, .text) := by
  -- The literals become lists of characters before anything is computed with them.
  have opened : readTags .text pageOpening = ((pageTags.take 13).map String.toList, .text) := by
    unfold pageOpening
    rw [String.toList_append, String.toList_ofList, String.toList_ofList]
    decide +kernel
  have closed : readTags .text pageClosing = ((pageTags.drop 13).map String.toList, .text) := by
    unfold pageClosing
    rw [String.toList_ofList]
    decide +kernel
  rw [toList_page, readTags_append, readTags_append, opened,
    readTags_of_not_mem workspace.lt_not_mem_pageName, closed, List.append_nil, ← List.map_append,
    List.take_append_drop]

/-- An escaped text has no character that begins or ends a tag or a quotation, each of its
ampersands begins an entity, and undoing the entities gives the text back, so different
texts are written differently.  The page is the same for all workspaces but for the
escaped name, and it has the same tags whatever the name. -/
theorem page_shows_name_as_text :
    (∀ text : List Char,
      ('<' ∉ escape text ∧ '>' ∉ escape text ∧ '"' ∉ escape text ∧ '\x27' ∉ escape text) ∧
      (∀ after, '&' :: after <:+ escape text →
        ∃ entity ∈ ["&amp;", "&lt;", "&gt;", "&quot;", "&#x27;"],
          entity.toList <+: '&' :: after) ∧
      unescape (escape text) = text) ∧
    Function.Injective escape ∧
    ∀ workspace : Workspace,
      workspace.page.toList =
        ("<!DOCTYPE html><html><head><meta charset=\"utf-8\"><title>Dice Roll installed</title></head>" ++
          "<body><h1>Dice Roll is installed</h1><p>Type <code>/roll</code> in ").toList ++
        (workspace.teamName.elim "your workspace".toList fun name => escape name.toList) ++
        " to get started.</p></body></html>".toList ∧
      readTags .text workspace.page.toList = (pageTags.map String.toList, .text) := by
  refine ⟨fun text => ⟨⟨?_, ?_, ?_, ?_⟩, ?_, unescape_escape text⟩, escape_injective,
    fun workspace => ⟨?_, workspace.readTags_page⟩⟩
  iterate 4 exact not_mem_escape (by decide) (by decide) text
  · intro after found
    obtain ⟨c, entity, isEntity, begins⟩ := exists_entity_of_suffix found
    have listed : ∀ pair ∈ entities, ∃ written ∈ ["&amp;", "&lt;", "&gt;", "&quot;", "&#x27;"],
        written.toList = pair.2 := by decide
    obtain ⟨written, member, same⟩ := listed _ isEntity
    exact ⟨written, member, same ▸ begins⟩
  · rw [toList_page, pageName_eq]
    unfold pageOpening pageClosing
    exact Eq.refl _

/-- A name that looks like an entity and a tag: it is shown as it is. -/
theorem page_shows_name_as_text_entity_and_tag :
    let workspace : Workspace := ⟨none, some "&lt;<p>", none⟩
    workspace.pageName = "&amp;lt;&lt;p&gt;".toList ∧
      '&' :: "lt;p&gt;".toList <:+ escape "&lt;<p>".toList ∧
      (∃ entity ∈ ["&amp;", "&lt;", "&gt;", "&quot;", "&#x27;"],
        entity.toList <+: '&' :: "lt;p&gt;".toList) ∧
      unescape workspace.pageName = "&lt;<p>".toList ∧
      readTags .text workspace.page.toList = (pageTags.map String.toList, .text) := by
  intro workspace
  have written : escape "&lt;<p>".toList = "&amp;lt;&lt;p&gt;".toList := by decide
  have found : '&' :: "lt;p&gt;".toList <:+ escape "&lt;<p>".toList := by
    rw [written]
    exact ⟨"&amp;lt;".toList, by decide⟩
  obtain ⟨texts, -, pages⟩ := page_shows_name_as_text
  obtain ⟨-, entities, undone⟩ := texts "&lt;<p>".toList
  exact ⟨written, found, entities _ found, undone, (pages workspace).2⟩

end Workspace
end SlashDice
