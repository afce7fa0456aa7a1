import PageBlocks.Proofs.Import.Cleanup
import PageBlocks.Proofs.Selector.Leafless
import PageBlocks.Proofs.Selector.Pruned
/-!
# The order of what is to be removed

Each entry of a cleanup looks at the page that the ones before it have left.  A selector may ask for
a sibling that is gone by then, so that the order of the entries can be told from the page.  It
cannot as long as the selectors of a pass do not see what that pass takes out: elements and
attributes are asked for from above only, and text is asked for without looking at text.

## Main results

* `Import.Clears.agree_perm` — removals that clear what is marked leave the same page in any order.
* `Import.Agree.pass` — one pass over the entries in two orders.
* `Import.removeEntries_perm` — cleanup leaves the same page for each order of its entries.
* `Import.removeEntries_tells_order` — entries with siblings leave different pages.
-/

namespace PageBlocks.Import

open Dom MarkedSelector PageBlocks.Text

variable {dom page first second : Dom} {root : NodeId} {tag : Tag} {marked gone : List NodeId}

/-! ## Clearing in any order -/

namespace Clears

/-- What is cleared already stays so. -/
theorem cleared (wf : dom.WellFormed) (hbelow : ∀ x ∈ marked, dom.IsBelow root x)
    {step : Dom → Dom} (h : Clears dom root marked step) {already : List NodeId}
    (hpage : Cleared root already dom page) :
    Cleared root (already ++ marked) dom (step page) := by
  obtain ⟨gone, hgone, hcut⟩ := hpage.cut
  obtain ⟨more, hmore, hlast, hclear⟩ := h gone page hcut
  refine ⟨fun x hx => ?_, ⟨gone ++ more, ?_, hlast⟩, fun x hx => ?_⟩
  · rcases List.mem_append.1 hx with hx | hx
    · exact hpage.below x hx
    · exact hbelow x hx
  · exact List.append_subset.2 ⟨List.subset_append_of_subset_left _ hgone,
      List.subset_append_of_subset_right _ hmore⟩
  · rcases List.mem_append.1 hx with hx | hx
    · exact fun hleft => hpage.clear x hx (hcut.isBelow_mono wf hlast hleft)
    · exact hclear x hx

/-- Two ways to clear the same leave pages that agree. -/
theorem agree (wf : dom.WellFormed) (hbelow : ∀ x ∈ marked, dom.IsBelow root x)
    {step next : Dom → Dom} (h : Clears dom root marked step) (h' : Clears dom root marked next)
    (hagree : Agree root dom first second) : Agree root dom (step first) (next second) := by
  obtain ⟨already, hfirst, hsecond⟩ := hagree
  exact ⟨already ++ marked, h.cleared wf hbelow hfirst, h'.cleared wf hbelow hsecond⟩

/-- Removals that clear what is marked leave the same page in any order. -/
theorem agree_perm (wf : dom.WellFormed) {α : Type} {items others : List α}
    (hperm : items.Perm others) (marked : α → List NodeId) {step : Dom → α → Dom}
    (hbelow : ∀ item ∈ items, ∀ x ∈ marked item, dom.IsBelow root x)
    (h : ∀ item ∈ items, Clears dom root (marked item) fun page => step page item)
    (hagree : Agree root dom first second) :
    Agree root dom (items.foldl step first) (others.foldl step second) := by
  have hfirst := Clears.foldl wf h
  have hsecond := Clears.foldl wf fun item hi => h item (hperm.mem_iff.2 hi)
  refine hfirst.agree wf (fun x hx => ?_)
    (hsecond.congr fun x => (hperm.flatMap_right marked).mem_iff.symm) hagree
  obtain ⟨item, hitem, hx⟩ := List.mem_flatMap.1 hx
  exact hbelow item hitem x hx

/-- To take out certain nodes clears them. -/
theorem ids (wf : dom.WellFormed) {ids : List NodeId} (h : ∀ x ∈ ids, dom.IsBelow root x) :
    Clears dom root ids fun page => ids.foldl Dom.detach page :=
  Clears.detach wf h fun _ _ _ => ⟨fun _ hx => hx, fun _ hx _ => hx⟩

end Clears

theorem agree_self (dom : Dom) (wf : dom.WellFormed) (root : NodeId) : Agree root dom dom dom :=
  ⟨[], .of_cut (.refl root dom) wf, .of_cut (.refl root dom) wf⟩

/-- On pages that agree the same is found. -/
theorem selectText_congr (wf : dom.WellFormed) (h : Agree root dom first second)
    (selector : String) : first.selectText root selector = second.selectText root selector := by
  simp only [selectText, select, h.spot?_eq wf]

theorem isBelow_of_agree (wf : dom.WellFormed) (h : Agree root dom first second) {x : NodeId}
    {selector : String} (hx : x ∈ first.selectText root selector) : dom.IsBelow root x := by
  obtain ⟨gone, hcut⟩ := h.exists_cut
  exact hcut.isBelow_of_isBelow wf (isBelow_of_mem_selectText (hcut.wellFormed wf) hx).1

/-! ## The three kinds of removal -/

/-- Takes out the elements that a selector finds. -/
def removeFound (root : NodeId) (page : Dom) (selector : String) : Dom :=
  (page.selectText root selector).foldl Dom.detach page

/-- Takes out the elements that an attribute selector means. -/
def removeMeant (root : NodeId) (page : Dom) (selector : AttributeSelector) : Dom :=
  (attributeMatches page root selector).foldl Dom.detach page

/-- Takes out the text directly in an element that equals a literal. -/
def removeLiteral (page : Dom) (place : NodeId × List Char) : Dom :=
  (literalTexts page place.1 place.2).foldl Dom.detach page

/-- The elements that an entry for text finds, with the literal that it names. -/
def literalPlaces (page : Dom) (root : NodeId) (entry : String) : List (NodeId × List Char) :=
  match splitSearch entry.toList with
  | (_, none) => []
  | (selector, some literal) =>
    (page.selectText root (String.ofList selector)).map fun holder => (holder, literal)

theorem removeText_eq (page : Dom) (root : NodeId) (entry : String) :
    removeText page root entry = (literalPlaces page root entry).foldl removeLiteral page := by
  rw [removeText, literalPlaces]
  rcases splitSearch entry.toList with ⟨selector, _ | literal⟩
  · rfl
  · dsimp only
    rw [List.foldl_map]; rfl

theorem isBelow_of_mem_literalPlaces (wf : page.WellFormed) {entry : String}
    {place : NodeId × List Char} (h : place ∈ literalPlaces page root entry) :
    page.IsBelow root place.1 := by
  rw [literalPlaces] at h
  split at h
  · cases h
  · obtain ⟨holder, hholder, rfl⟩ := List.mem_map.1 h
    exact (isBelow_of_mem_selectText wf hholder).1

theorem clears_removeLiteral (wf : dom.WellFormed) {place : NodeId × List Char}
    (h : dom.IsBelow root place.1) :
    Clears dom root (literalTexts dom place.1 place.2) fun page => removeLiteral page place :=
  clears_literal wf h place.2

theorem isBelow_of_mem_literalTexts (wf : dom.WellFormed) {holder x : NodeId} {literal : List Char}
    (hholder : dom.IsBelow root holder) (h : x ∈ literalTexts dom holder literal) :
    dom.IsBelow root x :=
  wf.isBelow_of_holds hholder ((mem_literalTexts_iff wf).1 h).1

/-- On pages that agree each removal does the same. -/
theorem removeFound_agree (wf : dom.WellFormed) (h : Agree root dom first second)
    (selector : String) :
    Agree root dom (removeFound root first selector) (removeFound root second selector) := by
  have hbelow : ∀ x ∈ first.selectText root selector, dom.IsBelow root x :=
    fun x hx => isBelow_of_agree wf h hx
  rw [removeFound, removeFound, ← selectText_congr wf h]
  exact (Clears.ids wf hbelow).agree wf hbelow (Clears.ids wf hbelow) h

theorem removeMeant_agree (wf : dom.WellFormed) (h : Agree root dom first second)
    (selector : AttributeSelector) :
    Agree root dom (removeMeant root first selector) (removeMeant root second selector) := by
  have hsame : attributeMatches second root selector = attributeMatches first root selector := by
    obtain ⟨gone, hcut⟩ := h.exists_cut
    obtain ⟨gone', hcut'⟩ := h.symm.exists_cut
    rw [attributeMatches, attributeMatches, selectText_congr wf h]
    refine List.filter_congr fun x _ => ?_
    rw [any_isMeant_eq hcut, any_isMeant_eq hcut']
  have hbelow : ∀ x ∈ attributeMatches first root selector, dom.IsBelow root x :=
    fun x hx => isBelow_of_agree wf h (List.mem_filter.1 hx).1
  rw [removeMeant, removeMeant, hsame]
  exact (Clears.ids wf hbelow).agree wf hbelow (Clears.ids wf hbelow) h

theorem literalPlaces_congr (wf : dom.WellFormed) (h : Agree root dom first second)
    (entry : String) : literalPlaces first root entry = literalPlaces second root entry := by
  simp only [literalPlaces, selectText_congr wf h]

theorem isBelow_place_of_agree (wf : dom.WellFormed) (h : Agree root dom first second)
    {entry : String} {place : NodeId × List Char}
    (hplace : place ∈ literalPlaces first root entry) : dom.IsBelow root place.1 := by
  obtain ⟨gone, hcut⟩ := h.exists_cut
  exact hcut.isBelow_of_isBelow wf (isBelow_of_mem_literalPlaces (hcut.wellFormed wf) hplace)

/-- Literals are removed from certain places in any order. -/
theorem removeLiterals_agree (wf : dom.WellFormed) {places others : List (NodeId × List Char)}
    (hperm : places.Perm others) (hbelow : ∀ place ∈ places, dom.IsBelow root place.1)
    (h : Agree root dom first second) :
    Agree root dom (places.foldl removeLiteral first) (others.foldl removeLiteral second) :=
  Clears.agree_perm wf hperm (fun place => literalTexts dom place.1 place.2)
    (fun place hp _ hx => isBelow_of_mem_literalTexts wf (hbelow place hp) hx)
    (fun place hp => clears_removeLiteral wf (hbelow place hp)) h

theorem removeText_agree (wf : dom.WellFormed) (h : Agree root dom first second) (entry : String) :
    Agree root dom (removeText first root entry) (removeText second root entry) := by
  rw [removeText_eq, removeText_eq, ← literalPlaces_congr wf h]
  exact removeLiterals_agree wf (.refl _) (fun _ hp => isBelow_place_of_agree wf h hp) h

/-! ## One pass in two orders -/

/-- Is each item steady, or are all of them the same? -/
def SteadyOrSame {α : Type} (steady : α → Bool) (items : List α) : Prop :=
  (∀ item ∈ items, steady item = true) ∨ ∀ item ∈ items, ∀ other ∈ items, item = other

instance {α : Type} [DecidableEq α] (steady : α → Bool) (items : List α) :
    Decidable (SteadyOrSame steady items) :=
  inferInstanceAs (Decidable (_ ∨ _))

/-- One pass over the entries in two orders. -/
theorem Agree.pass {α : Type} {steady : α → Bool} (step : Dom → α → Dom) {items others : List α}
    (hperm : items.Perm others) (hitems : SteadyOrSame steady items)
    (hone : ∀ {first second : Dom} (item : α), Agree root dom first second →
      Agree root dom (step first item) (step second item))
    (hsteady : (∀ item ∈ items, steady item = true) →
      Agree root dom (items.foldl step first) (others.foldl step second))
    (h : Agree root dom first second) :
    Agree root dom (items.foldl step first) (others.foldl step second) := by
  rcases hitems with hall | hsame
  · exact hsteady hall
  · have heq : items = others := by
      cases items with
      | nil => exact hperm.nil_eq
      | cons item items =>
        have hrow : item :: items = List.replicate (items.length + 1) item :=
          List.eq_replicate_of_mem fun other ho => hsame other ho item List.mem_cons_self
        rw [hrow] at hperm ⊢
        exact (List.perm_replicate.1 hperm.symm).symm
    rw [← heq]
    clear hsteady hsame hperm heq
    induction items generalizing first second with
    | nil => exact h
    | cons item items ih => exact ih (hone item h)

/-! ## Text that is asked for without looking at text -/

/-- Does a selector ask for elements from above only? -/
def asksFromAbove (selector : String) : Bool :=
  (Selector.parse? selector.toList).all Selector.looksUp

/-- Does an entry for text ask for elements without looking at text? -/
def asksForElements (entry : String) : Bool :=
  (Selector.parse? (splitSearch entry.toList).1).all Selector.ignoresText

theorem steady_of_asksFromAbove (wf : dom.WellFormed) (htag : dom.tag? root = some tag)
    (hdocument : tag.isDocument = false) {selector : String}
    (h : asksFromAbove selector = true) : Steady dom root selector :=
  fun _ _ hcut _ => hcut.mem_selectText_iff_of_looksUp wf h htag hdocument

/-- While only text is removed, entries that do not look at text find what they found before. -/
theorem foldl_removeText_eq (wf : dom.WellFormed) (htag : dom.tag? root = some tag)
    {entries : List String} (hsteady : ∀ entry ∈ entries, asksForElements entry = true)
    (hcut : Cut root gone dom page) (hgone : ∀ x ∈ gone, dom.tag? x = none) :
    entries.foldl (fun page entry => removeText page root entry) page =
      (entries.flatMap (literalPlaces dom root)).foldl removeLiteral page := by
  induction entries generalizing page gone with
  | nil => rfl
  | cons entry entries ih =>
    have hplaces : literalPlaces page root entry = literalPlaces dom root entry := by
      have hentry := hsteady entry List.mem_cons_self
      rw [asksForElements] at hentry
      rw [literalPlaces, literalPlaces]
      split
      · rfl
      · next selector literal hsplit =>
        rw [hsplit] at hentry
        rw [hcut.selectText_eq_of_leaves wf hgone htag (by rw [String.toList_ofList]; exact hentry)]
    have hclears := Clears.foldl wf fun place (hp : place ∈ literalPlaces dom root entry) =>
      clears_removeLiteral wf (isBelow_of_mem_literalPlaces wf hp)
    obtain ⟨more, hmore, hlast, _⟩ := hclears gone page hcut
    rw [List.foldl_cons, List.flatMap_cons, List.foldl_append, removeText_eq, hplaces]
    refine ih (fun other ho => hsteady other (List.mem_cons_of_mem _ ho)) hlast fun x hx => ?_
    rcases List.mem_append.1 hx with hx | hx
    · exact hgone x hx
    · obtain ⟨place, _, hin⟩ := List.mem_flatMap.1 (hmore hx)
      obtain ⟨_, kind, content, hview, _⟩ := (mem_literalTexts_iff wf).1 hin
      rw [tag?_eq_view, hview]; rfl

/-- Entries that do not look at text remove the same text in any order. -/
theorem removeTexts_agree (wf : dom.WellFormed) (htag : dom.tag? root = some tag)
    {entries others : List String} (hperm : entries.Perm others)
    (hsteady : ∀ entry ∈ entries, asksForElements entry = true) (h : Agree root dom first second) :
    Agree root dom (entries.foldl (fun page entry => removeText page root entry) first)
      (others.foldl (fun page entry => removeText page root entry) second) := by
  have hplaces : literalPlaces second root = literalPlaces first root :=
    funext fun entry => (literalPlaces_congr wf h entry).symm
  have hsteady' : ∀ entry ∈ others, asksForElements entry = true :=
    fun entry he => hsteady entry (hperm.mem_iff.2 he)
  have hbelow : ∀ place ∈ entries.flatMap (literalPlaces first root), dom.IsBelow root place.1 := by
    intro place hplace
    obtain ⟨entry, _, hin⟩ := List.mem_flatMap.1 hplace
    exact isBelow_place_of_agree wf h hin
  obtain ⟨gone, hcut⟩ := h.exists_cut
  obtain ⟨gone', hcut'⟩ := h.symm.exists_cut
  have htag' : first.tag? root = some tag := by rw [hcut.rearranges.tag?, htag]
  have htag'' : second.tag? root = some tag := by rw [hcut'.rearranges.tag?, htag]
  rw [foldl_removeText_eq (hcut.wellFormed wf) htag' hsteady (.refl root first)
      fun x hx => absurd hx List.not_mem_nil,
    foldl_removeText_eq (hcut'.wellFormed wf) htag'' hsteady' (.refl root second)
      fun x hx => absurd hx List.not_mem_nil, hplaces]
  exact removeLiterals_agree wf (hperm.flatMap_right _) hbelow h

/-! ## Cleanup in any order -/

/-- Entries whose order cannot be told from the page: in each of the three passes none of them looks
at what the pass takes out, or there is just one entry, however often. -/
structure IsOrderFree (entries : List CleanupEntry) : Prop where
  elements : SteadyOrSame asksFromAbove (elementSelectors entries)
  texts : SteadyOrSame asksForElements (textSelectors entries)
  attributes : SteadyOrSame (fun selector => asksFromAbove ("[" ++ selector.attributeName ++ "]"))
    (attributeSelectors entries)

/-- Cleanup leaves the same page for each order of its entries. -/
theorem removeEntries_perm (sanitize : Sanitize.Sanitizer) (wf : dom.WellFormed)
    (htag : dom.tag? root = some tag) (hdocument : tag.isDocument = false)
    {entries others : List CleanupEntry} (hperm : entries.Perm others)
    (hfree : IsOrderFree entries) {x : NodeId} (hx : ¬dom.IsBelow root x) :
    (removeEntries (standardHost sanitize) dom root entries).find? x =
      (removeEntries (standardHost sanitize) dom root others).find? x := by
  have hsteady {selector : String} (h : asksFromAbove selector = true) :=
    steady_of_asksFromAbove wf htag hdocument h
  have hfound : Agree root dom ((elementSelectors entries).foldl (removeFound root) dom)
      ((elementSelectors others).foldl (removeFound root) dom) := by
    have hsame := agree_self dom wf root
    refine Agree.pass _ (hperm.filterMap _) hfree.elements
      (fun selector h => removeFound_agree wf h selector) (fun hall => ?_) hsame
    exact Clears.agree_perm wf (hperm.filterMap _) (dom.selectText root)
      (fun selector _ x hx => (isBelow_of_mem_selectText wf hx).1)
      (fun selector hs => clears_elements wf (hsteady (hall selector hs))) hsame
  have htexts := Agree.pass (fun page entry => removeText page root entry)
    (hperm.filterMap _) hfree.texts (fun entry h => removeText_agree wf h entry)
    (fun hall => removeTexts_agree wf htag (hperm.filterMap _) hall hfound) hfound
  have hmeant := Agree.pass (removeMeant root)
    (hperm.filterMap _) hfree.attributes (fun selector h => removeMeant_agree wf h selector)
    (fun hall => Clears.agree_perm wf (hperm.filterMap _) (attributeMatches dom root)
      (fun selector _ x hx => (isBelow_of_mem_selectText wf (List.mem_filter.1 hx).1).1)
      (fun selector hs => clears_byAttribute wf (hsteady (hall selector hs))) htexts) htexts
  rw [removeEntries_passes, removeEntries_passes]
  exact hmeant.find?_eq wf hx

/-- A page with a heading and a paragraph behind it. -/
def titledPage : Dom where
  roots := .element documentId documentTag
    (.element 1 ⟨"main", .html, []⟩
      (.element 2 ⟨"h2", .html, []⟩ (.leaf 3 (.text .plain "T") .nil)
        (.element 4 ⟨"p", .html, []⟩ (.leaf 5 (.text .plain "a") .nil) .nil)) .nil) .nil
  fresh := 6
  looped := false

/-- Entries for text that ask for siblings, and entries for elements that do not. -/
def titledEntries : List CleanupEntry :=
  [.selector "h2 + p::text(a)", .selector "h2:has(+ p)::text(T)", .selector ":not(h2, p)",
    .byAttribute ⟨"style", some "color", "red"⟩]

theorem removeEntries_perm_titled :
    (removeEntries (standardHost fun text => .ok text) titledPage 1 titledEntries).find?
        documentId =
      (removeEntries (standardHost fun text => .ok text) titledPage 1 titledEntries.reverse).find?
        documentId := by
  have wf : titledPage.WellFormed :=
    ⟨by decide, (by decide : ∀ id ∈ titledPage.roots.ids, id < titledPage.fresh), ⟨documentTag, rfl⟩⟩
  have hroot : titledPage.tag? 1 = some ⟨"main", .html, []⟩ := rfl
  have hfree : IsOrderFree titledEntries :=
    ⟨by decide +kernel, by decide +kernel, by decide +kernel⟩
  exact removeEntries_perm (fun text => .ok text) wf hroot rfl titledEntries.reverse_perm.symm hfree
    (by decide)

/-- A paragraph behind a heading is not found any more when the heading was taken out before. -/
theorem removeEntries_tells_order :
    [CleanupEntry.selector "h2", .selector "h2 + p"].Perm [.selector "h2 + p", .selector "h2"] ∧
      (removeEntries (standardHost fun text => .ok text) titledPage 1
          [.selector "h2", .selector "h2 + p"]).find? 1 ≠
        (removeEntries (standardHost fun text => .ok text) titledPage 1
          [.selector "h2 + p", .selector "h2"]).find? 1 :=
  ⟨.swap _ _ _, by decide +kernel⟩

end PageBlocks.Import
