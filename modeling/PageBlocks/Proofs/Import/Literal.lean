import PageBlocks.Proofs.Import.Cleanup
import PageBlocks.Proofs.Text.Blank
import PageBlocks.Proofs.Text.Search
/-!
# Removal of text that a literal names

An entry with a literal removes the pieces of text directly in the elements that its selector finds,
if they are the literal once they are trimmed.  Where the literal ends and where its marker ends are told
apart in two ways: the one is found at the first closing parenthesis, and the other one at the last.  So
all of the marker goes from the selector, whatever the literal holds, but what is looked for is just its
beginning if there is a closing parenthesis in it.

## Main results

* `Import.Names` — which pieces of text a selector and a literal mean.
* `Import.removeEntries_literal` — an entry with a literal removes just the text that it names.
-/

namespace PageBlocks.Import

open Dom MarkedSelector PageBlocks.Text

variable {dom : Dom} {root x : NodeId} {selector : String}

/-- Is this a piece of text directly in an element that the selector finds, and the literal once it is
trimmed? -/
def Names (dom : Dom) (root : NodeId) (selector : String) (literal : List Char) (x : NodeId) : Prop :=
  ∃ holder ∈ dom.selectText root selector, dom.Holds holder x ∧
    ∃ kind content, dom.view? x = some (.leaf (.text kind content)) ∧ trim content.toList = literal

/-- What is named are the pieces of text that are looked up in the elements. -/
theorem names_iff_mem_literalTexts (wf : dom.WellFormed) {named : List Char} :
    Names dom root selector named x ↔
      x ∈ (dom.selectText root selector).flatMap fun holder => literalTexts dom holder named := by
  simp only [List.mem_flatMap, mem_literalTexts_iff wf]
  exact Iff.rfl

/-- What an operation clears of leaves is just what it takes out, since nothing else goes with them. -/
theorem Clears.exists_cut (wf : dom.WellFormed) {marked : List NodeId} {step : Dom → Dom}
    (h : Clears dom root marked step) (hbelow : ∀ x ∈ marked, dom.IsBelow root x)
    (hleaf : ∀ x ∈ marked, ∃ content, dom.view? x = some (.leaf content)) :
    ∃ gone, (∀ x, x ∈ gone ↔ x ∈ marked) ∧ Cut root gone dom (step dom) := by
  obtain ⟨gone, hgone, hcut, hclear⟩ := h [] dom (.refl root dom)
  rw [List.nil_append] at hcut
  refine ⟨gone, fun x => ⟨fun hx => hgone hx, fun hx => ?_⟩, hcut⟩
  by_contra hnot
  refine hclear x hx ((hcut.isBelow_scope_iff wf).2 ⟨hbelow x hx, fun y _ hy hin => ?_⟩)
  rcases hy with rfl | hy
  · exact hnot hin
  · obtain ⟨content, hview⟩ := hleaf y (hgone hin)
    exact not_isBelow_of_leaf hview hy

/-- An entry with a literal takes part in the removal of text alone. -/
theorem removeEntries_texts (sanitize : Sanitize.Sanitizer) (page : Dom) (root : NodeId)
    (selector literal : String) :
    removeEntries (standardHost sanitize) page root [(Removal.texts selector literal).entry] =
      removeText page root
        (String.ofList (selector.toList ++ (searchMarker ++ (literal.toList ++ [')'])))) := by
  have hasks : asksForText (String.ofList
      (selector.toList ++ (searchMarker ++ (literal.toList ++ [')'])))).toList = true := by
    rw [String.toList_ofList]
    exact asksForText_append _ _
  rw [removeEntries_passes, Removal.entry, textSelectors, elementSelectors, attributeSelectors]
  simp only [List.filterMap_cons, List.filterMap_nil, hasks, Bool.not_true, Bool.false_and,
    List.foldl_cons, List.foldl_nil, reduceIte, Bool.false_eq_true]

/-- An entry with a literal removes just the text that is the literal up to where this has a closing
parenthesis.  So it removes just what it names if there is none. -/
theorem removeEntries_literal (sanitize : Sanitize.Sanitizer) (wf : dom.WellFormed) (root : NodeId)
    (selector literal : String) (htrim : IsTrimmed selector.toList)
    (hmarker : ¬textMarker <:+: selector.toList) (hline : '\n' ∉ literal.toList) :
    let named := literal.toList.takeWhile (· ≠ ')')
    splitSearch (selector.toList ++ (searchMarker ++ (literal.toList ++ [')']))) =
        (selector.toList, some named) ∧
      (named = literal.toList ↔ ')' ∉ literal.toList) ∧
      ∃ gone, (∀ x, x ∈ gone ↔ Names dom root selector named x) ∧
        Cut root gone dom (removeEntries (standardHost sanitize) dom root
          [(Removal.texts selector literal).entry]) := by
  intro named
  have hasks : asksForText selector.toList = false := by
    rw [asksForText, Bool.eq_false_iff]
    exact fun h => hmarker (occursIn_iff.1 h)
  have hsplit : splitSearch (selector.toList ++ (searchMarker ++ (literal.toList ++ [')']))) =
      (selector.toList, some named) := by
    rw [splitSearch_literal hasks hline, trim_eq_self_iff.2 htrim]
  refine ⟨hsplit, takeWhile_not_closing_iff, ?_⟩
  rw [removeEntries_texts, removeText, String.toList_ofList, hsplit]
  dsimp only
  rw [String.ofList_toList]
  simp only [names_iff_mem_literalTexts wf]
  have hclears : Clears dom root
      ((dom.selectText root selector).flatMap fun holder => literalTexts dom holder named)
      fun page => (dom.selectText root selector).foldl
        (fun page holder => (literalTexts page holder named).foldl Dom.detach page) page :=
    Clears.foldl wf fun holder hholder =>
      clears_literal wf (isBelow_of_mem_selectText wf hholder).1 named
  refine hclears.exists_cut wf (fun x hx => ?_) fun x hx => ?_
  · obtain ⟨holder, hholder, hholds, -⟩ := (names_iff_mem_literalTexts wf).2 hx
    exact wf.isBelow_of_holds (isBelow_of_mem_selectText wf hholder).1 hholds
  · obtain ⟨_, _, _, kind, content, hview, _⟩ := (names_iff_mem_literalTexts wf).2 hx
    exact ⟨.text kind content, hview⟩

/-- A page with a paragraph of two pieces of text, the second of which is in it once more. -/
def teaserPage : Dom where
  roots := .element documentId documentTag
    (.element 1 ⟨"main", .html, []⟩
      (.element 2 ⟨"p", .html, []⟩ (.leaf 3 (.text .plain "Read (more)")
        (.leaf 4 (.text .plain " a ::text([b ")
          (.element 5 ⟨"b", .html, []⟩ (.leaf 6 (.text .plain "a ::text([b") .nil) .nil))) .nil) .nil)
    .nil
  fresh := 7
  looped := false

/-- A literal may hold a marker and brackets. -/
theorem removeEntries_literal_marker :
    splitSearch "p::text(a ::text([b)".toList = ("p".toList, some "a ::text([b".toList) ∧
      ∃ gone, (∀ x, x ∈ gone ↔ x ∈ [4]) ∧
        Cut 1 gone teaserPage (removeEntries (standardHost fun text => .ok text) teaserPage 1
          [(Removal.texts "p" "a ::text([b").entry]) := by
  have wf : teaserPage.WellFormed := by decide
  obtain ⟨hsplit, hnamed, gone, hgone, hcut⟩ :=
    removeEntries_literal (fun text => .ok text) wf 1 "p" "a ::text([b" (by decide)
      (by decide +kernel) (by decide)
  have hliteral := hnamed.2 (by decide)
  have hfound : ((teaserPage.selectText 1 "p").flatMap fun holder =>
      literalTexts teaserPage holder "a ::text([b".toList) = [4] := by decide +kernel
  rw [hliteral] at hsplit hgone
  refine ⟨hsplit, gone, fun x => ?_, hcut⟩
  rw [hgone, names_iff_mem_literalTexts wf, hfound]

/-- A literal with a closing parenthesis is cut off there, and the text that it names is left. -/
theorem removeEntries_cuts_literal :
    splitSearch "p::text(Read (more))".toList = ("p".toList, some "Read (more".toList) ∧
      Names teaserPage 1 "p" "Read (more)".toList 3 ∧
      (removeEntries (standardHost fun text => .ok text) teaserPage 1
        [(Removal.texts "p" "Read (more)").entry]).IsBelow 1 3 := by
  have wf : teaserPage.WellFormed := by decide
  refine ⟨by decide +kernel, (names_iff_mem_literalTexts wf).2 ?_, ?_⟩ <;> decide +kernel

end PageBlocks.Import
