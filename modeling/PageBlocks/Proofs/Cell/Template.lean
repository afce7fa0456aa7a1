import PageBlocks.Cell.Evaluate
import PageBlocks.Cell.Wording
import PageBlocks.Proofs.Cell.Fields
import PageBlocks.Proofs.Dom.Growth
import PageBlocks.Proofs.Dom.Spots
import PageBlocks.Proofs.Html.Construction
import PageBlocks.Proofs.Import.Trees
import PageBlocks.Proofs.Sanitize.Emphasis
import PageBlocks.Proofs.Sanitize.Written
/-!
# What markup in cells yields

Markup in which the text of a page was filled in is read twice: leniently to be cleaned, and as
browsers read it once it is clean.  What the second reader makes of it is harmless as long as the
first one found no attribute that reads differently when it is written.

An attribute holds text in which references have been read already, and it is filled in as it is.  It
stays text if all its brackets and ampersands stand for themselves in the first of the two readings.
What is written after that one is read back as it was in any case.

## Main results

* `Dom.everyTag_ofMarkup` — the page that safe markup writes is harmless.
* `Cell.evaluate_harmless` — markup in cells yields harmless elements.
* `Cell.evaluate_misread_name` — an attribute that is not legible passes as a name.
* `Cell.evaluate_caption` — the alternative text of an image stays text between the tags of emphasis.
* `Cell.evaluate_caption_markup` — markup in that text becomes markup.
-/

namespace PageBlocks

open Sanitize

variable {dom : Dom}

/-! ## Conditions on elements and what is in them -/

/-- A condition on all tags is one on the nodes, each by itself. -/
theorem Forest.every_iff_nodes {p : Tag → Prop} {forest : Forest} :
    forest.Every p ↔ ∀ node ∈ forest.nodes, ∀ tag ∈ node.tag?, p tag := by
  induction forest with
  | nil => simp [nodes]
  | leaf id content next ih =>
    rw [every_leaf, nodes, List.forall_mem_cons, ih]
    exact (and_iff_right fun tag htag => absurd htag (Option.not_mem_none tag)).symm
  | element id tag children next ihc ihn =>
    rw [every_element, nodes, List.forall_mem_cons, List.forall_mem_append, ihc, ihn]
    exact and_congr_left' (by simp [Node.tag?])

theorem Node.every_iff_descendants {p : Tag → Prop} {node : Node} :
    node.toForest.Every p ↔ ∀ inner ∈ node :: node.descendants, ∀ tag ∈ inner.tag?, p tag := by
  have hnodes : node.toForest.nodes = node :: node.descendants := by
    cases node with
    | leaf id content => rfl
    | element id tag children => exact congrArg _ (List.append_nil _)
  rw [Forest.every_iff_nodes, hnodes]

/-- A value is an element that is harmless with all that is in it. -/
def Value.IsHarmless (dom : Dom) : Value → Prop
  | .element id =>
    ∃ node ∈ dom.find? id, ∀ inner ∈ node :: node.descendants, ∀ tag ∈ inner.tag?, tag.Harmless
  | _ => False

instance (dom : Dom) : ∀ value : Value, Decidable (value.IsHarmless dom)
  | .element id => inferInstanceAs (Decidable (∃ node ∈ dom.find? id,
      ∀ inner ∈ node :: node.descendants, ∀ tag ∈ inner.tag?, tag.Harmless))
  | .null | .bool _ | .integer _ | .decimal _ | .text _ | .list _ | .config _ => .isFalse id

/-! ## The page that is read -/

theorem Dom.ofMarkup_eq (markup : String) :
    Dom.ofMarkup markup = (Html.parse (cleanMarkupString markup)).numbered := rfl

/-- The page that safe markup writes is harmless. -/
theorem Dom.everyTag_ofMarkup {markup : List Char}
    (h : Html.SafeMarkup (cleanMarkup markup)) :
    (Dom.ofMarkup (String.ofList markup)).EveryTag Tag.Harmless := by
  have hclean : (cleanMarkupString (String.ofList markup)).toList = cleanMarkup markup := by
    simp [cleanMarkupString]
  rw [← hclean] at h
  rw [ofMarkup_eq]
  exact EveryTag.numbered (Html.everyTag_parse h) harmless_documentTag

namespace Cell

theorem every_firstElement? {markup : List Char} (h : Html.SafeMarkup (cleanMarkup markup))
    {node : Node} (hfirst : firstElement? (String.ofList markup) = some node) :
    node.toForest.Every Tag.Harmless := by
  unfold firstElement? at hfirst
  dsimp only at hfirst
  obtain ⟨holder, hholder, hhead⟩ := Option.bind_eq_some_iff.1 hfirst
  have hevery := Dom.EveryTag.find? (Dom.everyTag_ofMarkup h) hholder
  have hmem : node ∈ holder.children.toList :=
    (List.mem_filter.1 (List.mem_of_mem_head? hhead)).1
  exact hevery.children.of_mem_toList hmem

/-- The copy of a harmless element is harmless. -/
theorem isHarmless_adopted (wf : dom.WellFormed) {node : Node}
    (h : node.toForest.Every Tag.Harmless) :
    (Value.element dom.fresh).IsHarmless (dom.adopt node).2 := by
  have hcopied : (node.toForest.renumber dom.fresh).1.Every Tag.Harmless :=
    Forest.every_renumber_iff.2 h
  have hfind : ∃ copy, (node.toForest.renumber dom.fresh).1.find? dom.fresh = some copy := by
    cases node <;> exact ⟨_, if_pos rfl⟩
  obtain ⟨copy, hcopy⟩ := hfind
  refine ⟨copy, ?_, Node.every_iff_descendants.1 (hcopied.find? hcopy)⟩
  rw [Option.mem_def, wf.find?_adopt, hcopy]

/-! ## Cells -/

theorem isHarmless_evaluateTemplate (wf : dom.WellFormed) {scope : NodeId}
    {segments : List Segment} {policy : Policy}
    (hlegible : Legible (readPage (fill dom scope segments))) {id : NodeId} {after : Dom}
    (h : evaluateTemplate dom scope segments (sanitize policy) = .ok (some id, after)) :
    (Value.element id).IsHarmless after := by
  unfold evaluateTemplate at h
  split at h
  · cases h
  · cases h
  · next markup hmarkup =>
    have hsafe := safeMarkup_sanitize hlegible hmarkup
    split at h
    · cases h
    · next node hnode =>
      cases h
      exact isHarmless_adopted wf (every_firstElement? hsafe hnode)

/-- All that evaluation yields is harmless. -/
def YieldsHarmless (result : Except CellFault (List Value × Dom)) : Prop :=
  ∀ values after, result = .ok (values, after) → ∀ value ∈ values, value.IsHarmless after

instance : ∀ result : Except CellFault (List Value × Dom), Decidable (YieldsHarmless result)
  | .error _ => .isTrue fun _ _ h => nomatch h
  | .ok (values, after) =>
    decidable_of_iff (∀ value ∈ values, value.IsHarmless after)
      ⟨fun h _ _ heq => by cases heq; exact h, fun h => h values after rfl⟩

/-- Markup in a cell yields a harmless element, whatever the page holds that is filled in, as long
as the attributes of the filled markup are legible. -/
theorem evaluate_harmless (wf : dom.WellFormed) (scope : NodeId) {spec : String}
    {segments : List Segment} (hspec : CellSpec.parse spec.toList = .template segments)
    (hlegible : Legible (readPage (fill dom scope segments))) (params : Value) :
    YieldsHarmless (evaluate dom scope (.text spec) params standardSanitizer) := by
  intro values after h
  unfold evaluate at h
  split at h
  · split at h
    · cases h
    · simp only [Value.itemsOrSelf, evaluateSpecs, evaluateSpec, hspec] at h
      cases hresult : evaluateTemplate dom scope segments standardSanitizer with
      | error fault =>
        rw [hresult] at h
        cases h
      | ok result =>
        obtain ⟨made, copied⟩ := result
        rw [hresult] at h
        cases made with
        | none =>
          cases h
          exact List.forall_mem_nil _
        | some id =>
          cases h
          exact List.forall_mem_singleton.2 (isHarmless_evaluateTemplate wf hlegible hresult)
  · cases h
    exact List.forall_mem_nil _

/-- A page with a link that runs a script. -/
def linkedPage : Dom :=
  .ofMarkup "<main><a href=\"javascript:run()\">x</a></main>"

/-- Markup into which the address and the content of the link are filled, with a handler around them
and a script beside them. -/
def linkingSpec : String :=
  "<div onclick=\"run()\"><a href=\"\x7b\x7ba[href]\x7d\x7d\">\x7b\x7ba\x7d\x7d</a>" ++
    "<script>run()</script></div>"

/-- Of the handler, the script and the address nothing is left. -/
theorem evaluate_harmless_linked :
    linkedPage.WellFormed ∧
      CellSpec.parse linkingSpec.toList = .template (Template.segments linkingSpec.toList) ∧
      Legible (readPage (fill linkedPage linkedPage.bodyOrDocument
        (Template.segments linkingSpec.toList))) ∧
      YieldsHarmless (evaluate linkedPage linkedPage.bodyOrDocument (.text linkingSpec) .null
        standardSanitizer) ∧
      (evaluate linkedPage linkedPage.bodyOrDocument (.text linkingSpec) .null
        standardSanitizer).map (fun made => made.1.map (Value.wording made.2)) =
          .ok ["<div><a href=\"\">x</a></div>"] := by
  have wf : linkedPage.WellFormed := by
    rw [linkedPage, Dom.ofMarkup_eq]
    exact Dom.wellFormed_numbered _
  have hspec : CellSpec.parse linkingSpec.toList =
      .template (Template.segments linkingSpec.toList) := by
    decide +kernel
  have hlegible : Legible (readPage (fill linkedPage linkedPage.bodyOrDocument
      (Template.segments linkingSpec.toList))) := by
    decide +kernel
  exact ⟨wf, hspec, hlegible, evaluate_harmless wf _ hspec hlegible .null, by decide +kernel⟩

/-- What follows a slash passes for the name of an attribute, and is written behind the attribute in
front of it, of which it is the value when it is read again. -/
theorem evaluate_misread_name :
    let page := Dom.ofMarkup "<main><p>x</p></main>"
    let spec := "<a href/=javascript:alert(1)>x</a>"
    let result := evaluate page page.bodyOrDocument (.text spec) .null standardSanitizer
    CellSpec.parse spec.toList = .template (Template.segments spec.toList) ∧
      result.map (fun made => made.1.map (Value.wording made.2)) =
        .ok ["<a href=\"javascript:alert(1)\">x</a>"] ∧
      ¬YieldsHarmless result := by
  decide +kernel

end Cell

/-! ## Attributes that are filled in -/

open Html (emphasize)
open Html.Lenient (readsAsWritten)

namespace Cell

variable {scope : NodeId}

/-- Emphasis around the alternative text of an image. -/
def captionSpec : String := "<em>\x7b\x7bimg[alt]\x7d\x7d</em>"

/-- The tags, and the place of the text between them. -/
def captionSegments : List Segment :=
  [.literal "<em>".toList, .placeholder "img[alt]".toList, .literal "</em>".toList]

theorem parse_captionSpec : CellSpec.parse captionSpec.toList = .template captionSegments := by
  decide +kernel

/-- The place is filled with the alternative text of the first image that has one. -/
theorem fillPlace_alt {image : NodeId} {tag : Tag} {content : String}
    (himage : (dom.selectText scope "img[alt]").head? = some image)
    (htag : dom.tag? image = some tag) (halt : tag.attribute? "alt" = some content) :
    fillPlace dom scope "img[alt]".toList = content.toList := by
  have hparse : Selector.parse? "img[alt]".toList =
      some (.both (.test (.name .unwritten "img"))
        (.test (.attribute ⟨.unwritten, "alt", .present, [], false⟩))) := by
    decide +kernel
  have hmarked : MarkedSelector.parse "img[alt]".toList =
      ⟨"img[alt]".toList, false, false, none, some "alt".toList⟩ := by
    decide +kernel
  obtain ⟨children, hnode⟩ := Dom.exists_find?_of_tag? htag
  rw [Dom.selectText, hparse] at himage
  rw [fillPlace, hparse]
  dsimp only at himage ⊢
  rw [himage, hmarked]
  show (elementText dom _ image).toList = _
  rw [elementText, hnode]
  show ((tag.attribute? (String.ofList "alt".toList)).getD "").toList = _
  rw [String.ofList_toList, halt]
  rfl

/-- Emphasized text that was sanitized writes one element. -/
theorem firstElement?_emphasis {text : List Char}
    (hcontrols : ∀ c ∈ text, isForbiddenControl c = false) :
    firstElement? (String.ofList (emphasize (Sanitize.escapeText text))) =
      some (emphasisNode 4 text) := by
  rw [firstElement?, ofMarkup_emphasis hcontrols]
  cases text <;> rfl

/-- The copy of an element of emphasized text. -/
theorem find?_adopt_emphasis (wf : dom.WellFormed) (id : NodeId) (text : List Char) :
    (dom.adopt (emphasisNode id text)).2.find? dom.fresh = some (emphasisNode dom.fresh text) := by
  rw [wf.find?_adopt]
  cases text <;> exact if_pos rfl

/-- The alternative text of an image stays text between the tags of emphasis, if its brackets and
ampersands stand for themselves and it has no control characters. -/
theorem evaluate_caption (wf : dom.WellFormed) {image : NodeId} {tag : Tag} {content : String}
    (himage : (dom.selectText scope "img[alt]").head? = some image)
    (htag : dom.tag? image = some tag) (halt : tag.attribute? "alt" = some content)
    (hwritten : readsAsWritten content.toList = true)
    (hcontrols : ∀ c ∈ content.toList, isForbiddenControl c = false) :
    ∃ id after, evaluate dom scope (.text captionSpec) .null standardSanitizer =
        .ok ([.element id], after) ∧
      after.find? id = some (emphasisNode id content.toList) ∧
      (emphasisNode id content.toList).elementChildren = [] ∧
      (emphasisNode id content.toList).text = content := by
  have hfilled : fill dom scope captionSegments = emphasize content.toList := by
    show "<em>".toList ++ (fillPlace dom scope "img[alt]".toList ++ ("</em>".toList ++ [])) = _
    rw [fillPlace_alt himage htag halt, List.append_nil, emphasize, List.append_assoc]
  have hmade : evaluateTemplate dom scope captionSegments standardSanitizer =
      .ok (some dom.fresh, (dom.adopt (emphasisNode 4 content.toList)).2) := by
    rw [evaluateTemplate, hfilled, standardSanitizer, sanitize_emphasis .standard hwritten hcontrols]
    dsimp only
    rw [firstElement?_emphasis hcontrols]
    rfl
  refine ⟨dom.fresh, (dom.adopt (emphasisNode 4 content.toList)).2, ?_,
    find?_adopt_emphasis wf 4 content.toList, elementChildren_emphasisNode _ _, ?_⟩
  · have hpresent : (Value.text captionSpec).isPresent = true := by decide
    rw [evaluate, if_pos hpresent]
    show evaluateSpecs dom scope .none standardSanitizer [.text captionSpec] = _
    rw [evaluateSpecs, evaluateSpec, parse_captionSpec]
    dsimp only
    rw [hmade]
    rfl
  · rw [text_emphasisNode, String.ofList_toList]

/-- A page with two images, the second of which has an alternative text. -/
def captionedPage (content : String) : Dom :=
  pageOf (.element 2 ⟨"img", .html, [("src", "a")]⟩ .nil
    (.element 3 ⟨"img", .html, [("src", "b"), ("alt", content)]⟩ .nil .nil))

/-- An ampersand and a bracket with a blank behind them stand for themselves. -/
theorem evaluate_caption_plain :
    (captionedPage "Tom & Jerry, 1 < 2").WellFormed ∧
      ∃ id after, evaluate (captionedPage "Tom & Jerry, 1 < 2") 1 (.text captionSpec) .null
          standardSanitizer = .ok ([.element id], after) ∧
        after.find? id = some (emphasisNode id "Tom & Jerry, 1 < 2".toList) ∧
        (emphasisNode id "Tom & Jerry, 1 < 2".toList).elementChildren = [] ∧
        (emphasisNode id "Tom & Jerry, 1 < 2".toList).text = "Tom & Jerry, 1 < 2" := by
  have wf : (captionedPage "Tom & Jerry, 1 < 2").WellFormed := by decide
  have himage : ((captionedPage "Tom & Jerry, 1 < 2").selectText 1 "img[alt]").head? = some 3 := by
    decide +kernel
  have hcontrols : ("Tom & Jerry, 1 < 2".toList.all fun c => isForbiddenControl c = false) = true := by
    decide +kernel
  exact ⟨wf, evaluate_caption wf himage rfl rfl (by decide +kernel) fun c hc =>
    of_decide_eq_true (List.all_eq_true.1 hcontrols c hc)⟩

/-- The names of the elements in an element that is yielded, and the text of it. -/
def elementsAndText? (dom : Dom) : Value → Option (List String × String)
  | .element id => (dom.find? id).map fun node => (node.elementChildren.map Node.name, node.text)
  | _ => none

/-- Markup in the alternative text becomes an element. -/
theorem evaluate_caption_markup :
    let page := captionedPage "<b>x</b>"
    (page.selectText 1 "img[alt]").head? = some 3 ∧
      (page.tag? 3).bind (·.attribute? "alt") = some "<b>x</b>" ∧
      (evaluate page 1 (.text captionSpec) .null standardSanitizer).map (fun made =>
        made.1.map (elementsAndText? made.2)) = .ok [some (["b"], "x")] := by
  decide +kernel

end Cell

end PageBlocks
