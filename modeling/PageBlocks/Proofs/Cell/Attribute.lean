import PageBlocks.Proofs.Cell.Selected
import PageBlocks.Proofs.Selector.Ending
/-!
# Cells that ask for attributes

A selector that ends with the name of an attribute in brackets asks for the value of that attribute.  The
name is read twice.  As a part of the selector it may be written with escapes, in capitals or with a bar
in front of it, and the attribute that it finds is the first one of that name regardless of case.  Then
the characters between the brackets are looked up among the attributes as they stand.

## Main results

* `AttributeTest.attribute?_of_matched` — an attribute that is found is looked up by its own name.
* `Cell.evaluate_attribute` — what a cell yields that ends in a test of an attribute.
-/

namespace PageBlocks

open PageBlocks.Text

/-! ## Attributes that are found -/

namespace AttributeTest

variable {test : AttributeTest} {tag : Tag}

/-- The attribute by which an element meets a condition: its name, as the element has it, and its
value. -/
def matched? (test : AttributeTest) (tag : Tag) : Option (String × String) :=
  tag.attributes.find? fun entry => asciiLower entry.1.toList = asciiLower test.name.toList

theorem exists_matched {query : Query} (h : test.holds query tag = true) :
    ∃ name content, test.matched? tag = some (name, content) := by
  obtain ⟨-, hany⟩ := Bool.and_eq_true_iff.1 h
  obtain ⟨content, hcontent, -⟩ := (Option.any_eq_true _ _).1 hany
  obtain ⟨⟨name, content⟩, hfound, -⟩ := Option.map_eq_some_iff.1 hcontent
  exact ⟨name, content, hfound⟩

/-- The attributes in front of the one that is found have other names, even regardless of case. -/
theorem attribute?_of_matched {name content : String}
    (h : test.matched? tag = some (name, content)) : tag.attribute? name = some content := by
  have hname : asciiLower name.toList = asciiLower test.name.toList := by
    simpa using List.find?_some h
  rw [matched?] at h
  rw [Tag.attribute?]
  generalize tag.attributes = attributes at h ⊢
  induction attributes with
  | nil => cases h
  | cons entry attributes ih =>
    rw [List.find?_cons] at h
    split at h
    · cases h
      exact List.lookup_cons_self
    · next hother =>
      have hne : (name == entry.1) = false := by
        rw [beq_eq_false_iff_ne]
        rintro rfl
        exact of_decide_eq_false hother hname
      rw [List.lookup_cons, hne]
      exact ih h

end AttributeTest

namespace Cell

variable {dom : Dom} {scope id : NodeId} {marked : MarkedSelector} {test : AttributeTest}

/-! ## The name between the brackets -/

/-- A selector with a name between its last brackets asks for text. -/
theorem endsWithAttribute_of_attributeName {text : List Char} {selector : Selector}
    (hparse : CellSpec.parse text = .selector marked selector) {name : List Char}
    (hname : marked.attributeName = some name) :
    MarkedSelector.endsWithAttribute marked.selector = true := by
  rw [(marked_of_parse hparse).1] at hname ⊢
  obtain ⟨inside, hinside, -⟩ := Option.bind_eq_some_iff.1 hname
  obtain ⟨written, hwritten, -⟩ := Option.map_eq_some_iff.1 hinside
  rw [MarkedSelector.endsWithAttribute]
  exact Option.isSome_iff_exists.2 ⟨written, hwritten⟩

/-- An element comes to what is looked up by the name between the brackets. -/
theorem ComesTo.eq_of_attributeName {value : Value} {tag : Tag} {children : Forest}
    (h : ComesTo dom marked .none id value) (hfound : dom.find? id = some (.element id tag children))
    (htext : marked.usesText = false) {name : List Char} (hname : marked.attributeName = some name)
    (hends : MarkedSelector.endsWithAttribute marked.selector = true) :
    value = .text (trimString ((tag.attribute? (String.ofList name)).getD "")) := by
  cases h with
  | kept hkeeps =>
    rw [hkeeps.2.2.1] at hends
    cases hends
  | text _ hcontent _ =>
    have hread : elementText dom marked id = (tag.attribute? (String.ofList name)).getD "" := by
      rw [elementText, hfound]
      simp only [htext, hname]
      rfl
    rw [hread] at hcontent
    cases hcontent
    rfl

/-! ## Cells -/

/-- What an element comes to if a test asks for one of its attributes: the value of the attribute by
which the element met the test, if that is named just as it is written between the brackets, and nothing
if no attribute is named so. -/
def YieldsAttribute (dom : Dom) (marked : MarkedSelector) (test : AttributeTest) (id : NodeId)
    (value : Value) : Prop :=
  ∃ tag name content, dom.tag? id = some tag ∧ test.matched? tag = some (name, content) ∧
    (marked.attributeName = some name.toList → value = .text (trimString content) ∧
      (value = .text "" → isBlankText content.toList = true)) ∧
    ∀ other, marked.attributeName = some other → tag.attribute? (String.ofList other) = none →
      value = .text ""

theorem yieldsAttribute_of_comesTo {selector : Selector} {text : List Char} {value : Value}
    (wf : dom.WellFormed) (hparse : CellSpec.parse text = .selector marked selector)
    (htext : marked.usesText = false)
    (hends : Selector.EndsIn marked.selector (.attribute test))
    (hid : id ∈ dom.select scope selector) (h : ComesTo dom marked .none id value) :
    YieldsAttribute dom marked test id value := by
  obtain ⟨query, spot, tag, children, hholds, hnode, hfound⟩ := Dom.exists_of_mem_select wf hid
  have hlast := Selector.holds_of_endsIn hends (marked_of_parse hparse).2 hholds
  rw [hnode] at hfound
  rw [Selector.holds, hnode] at hlast
  obtain ⟨name, content, hmatched⟩ := AttributeTest.exists_matched hlast
  have hlooked {other : List Char} (hother : marked.attributeName = some other) :=
    h.eq_of_attributeName hfound htext hother (endsWithAttribute_of_attributeName hparse hother)
  refine ⟨tag, name, content, Dom.tag?_of_find? hfound, hmatched, fun hname => ?_,
    fun other hother hnone => ?_⟩
  · have hvalue := hlooked hname
    rw [String.ofList_toList, AttributeTest.attribute?_of_matched hmatched] at hvalue
    refine ⟨hvalue, fun hempty => ?_⟩
    have hblank : trimString content = "" := Value.text.inj (hvalue.symm.trans hempty)
    rw [trimString, ← String.toList_inj, String.toList_ofList] at hblank
    exact List.all_eq_true.2 (trim_eq_nil_iff.1 hblank)
  · have hvalue := hlooked hother
    rw [hnone] at hvalue
    exact hvalue

/-- What is said of an item may be told otherwise for the elements that there are. -/
theorem Gathers.imp {fallback value : Value} {item other : NodeId → Value → Prop} {ids : List NodeId}
    (h : Gathers fallback item ids value)
    (himp : ∀ id ∈ ids, ∀ value, item id value → other id value) :
    Gathers fallback other ids value := by
  cases h with
  | nothing => exact .nothing
  | single hone => exact .single (himp _ (List.mem_singleton_self _) _ hone)
  | several hids hall =>
    have hmem := (List.forall₂_and_left ids _).2 ⟨fun _ hid => hid, hall⟩
    exact .several hids (hmem.imp fun id value hboth => himp id hboth.1 value hboth.2)

/-- A cell that ends in a test of an attribute, without commas and without a marker for text, yields the
attributes by which the elements were found, if they are named as it is written between the brackets. -/
theorem evaluate_attribute (wf : dom.WellFormed) (scope : NodeId) {spec : String}
    {selector : Selector} (hparse : CellSpec.parse spec.toList = .selector marked selector)
    (htext : marked.usesText = false)
    (hends : Selector.EndsIn marked.selector (.attribute test))
    (sanitize : Sanitize.Sanitizer) :
    ∃ value, evaluate dom scope (.text spec) .null sanitize = .ok ([value], dom) ∧
      Gathers (.text (String.ofList marked.selector)) (YieldsAttribute dom marked test)
        (dom.select scope selector) value := by
  obtain ⟨value, hvalue, hgathers⟩ := evaluate_selector dom scope hparse sanitize
  exact ⟨value, hvalue, hgathers.imp fun id hid value hcomes =>
    yieldsAttribute_of_comesTo wf hparse htext hends hid hcomes⟩

/-- The tag of a picture with an address. -/
def addressedTag : Tag :=
  ⟨"img", .html, [("alt", ""), ("src", " a ")]⟩

/-- A page with that picture. -/
def addressedPage : Dom :=
  pageOf (.element 2 addressedTag .nil .nil)

/-- The address of the picture is found, also with blanks between the brackets. -/
theorem evaluate_attribute_addressed :
    addressedPage.WellFormed ∧
      Selector.EndsIn "main > img[ src ]".toList
        (.attribute ⟨.unwritten, "src", .present, [], false⟩) ∧
      evaluate addressedPage 1 (.text "main > img[ src ]") .null Sanitize.standardSanitizer =
        .ok ([.text "a"], addressedPage) := by
  have wf : addressedPage.WellFormed := by decide
  have hparse : CellSpec.parse "main > img[ src ]".toList =
      .selector ⟨"main > img[ src ]".toList, false, false, none, some "src".toList⟩
        (.both (.test (.name .unwritten "img"))
          (.both (.test (.attribute ⟨.unwritten, "src", .present, [], false⟩))
            (.follows .child (.test (.name .unwritten "main"))))) := by
    decide +kernel
  have hends : Selector.EndsIn "main > img[ src ]".toList
      (.attribute ⟨.unwritten, "src", .present, [], false⟩) :=
    ⟨[.name .unwritten "main", .separator (.combinator .child), .name .unwritten "img"],
      by decide +kernel, by decide⟩
  obtain ⟨value, hvalue, hgathers⟩ :=
    evaluate_attribute wf 1 hparse rfl hends Sanitize.standardSanitizer
  have hids : addressedPage.select 1 (.both (.test (.name .unwritten "img"))
      (.both (.test (.attribute ⟨.unwritten, "src", .present, [], false⟩))
        (.follows .child (.test (.name .unwritten "main"))))) = [2] := by
    decide +kernel
  rw [hids] at hgathers
  cases hgathers with
  | several hids _ => exact absurd hids (by decide)
  | single hyields =>
    obtain ⟨tag, name, content, htag, hmatched, hnamed, -⟩ := hyields
    cases htag
    cases hmatched
    rw [(hnamed rfl).1] at hvalue
    exact ⟨wf, hends, hvalue⟩

/-- What a selector finds by a name in capitals is not looked up by that name. -/
theorem evaluate_attribute_capitals :
    let test : AttributeTest := ⟨.unwritten, "SRC", .present, [], false⟩
    Selector.EndsIn "img[SRC]".toList (.attribute test) ∧
      addressedPage.selectText 1 "img[SRC]" = [2] ∧ addressedPage.tag? 2 = some addressedTag ∧
      test.matched? addressedTag = some ("src", " a ") ∧
      evaluate addressedPage 1 (.text "img[SRC]") .null Sanitize.standardSanitizer =
        .ok ([.text ""], addressedPage) :=
  ⟨⟨[.name .unwritten "img"], by decide +kernel, by decide⟩, by decide +kernel, rfl,
    by decide +kernel, rfl⟩

end Cell

end PageBlocks
