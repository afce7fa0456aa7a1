import PageBlocks.Import.Removal
import PageBlocks.Proofs.Selector.Pruned
/-!
# Cleanup prunes the page as it was

What is to be removed from the content is removed in three passes: elements that selectors find,
then text, then elements by their attributes.  Each entry looks at a page from which much may have
been removed already.  Yet plain selectors find on it what they would have found at the start, as
far as that is left, so that in the end the content is as if all had been marked first and then
taken out at once.

## Main results

* `Import.Clears.foldl` — removals one after another clear what each of them clears.
* `Import.clears_removeEntries` — cleanup clears all that its entries mean on the page as it was.
* `Import.removeEntries_prunes` — cleanup leaves the content pruned.
-/

namespace PageBlocks.Import

open Dom MarkedSelector PageBlocks.Text

/-! ## What is to be removed -/

/-- A removal from the content, in one of the forms that cleanup entries have. -/
inductive Removal where
  /-- The elements that a selector finds. -/
  | elements (selector : String)
  /-- The text directly in these elements that equals a literal. -/
  | texts (selector literal : String)
  | byAttribute (selector : AttributeSelector)
deriving DecidableEq, Repr

namespace Removal

/-- The cleanup entry that asks for a removal. -/
def entry : Removal → CleanupEntry
  | elements selector => .selector selector
  | texts selector literal =>
    .selector (String.ofList (selector.toList ++ (searchMarker ++ (literal.toList ++ [')']))))
  | byAttribute selector => .byAttribute selector

/-- What a removal does to a page. -/
def apply (root : NodeId) (page : Dom) : Removal → Dom
  | elements selector => (page.selectText root selector).foldl Dom.detach page
  | texts selector literal =>
    (page.selectText root selector).foldl
      (fun page holder => (literalTexts page holder literal.toList).foldl Dom.detach page) page
  | byAttribute selector => (attributeMatches page root selector).foldl Dom.detach page

/-- The pass that a removal takes part in. -/
def pass : Removal → Nat
  | elements _ => 0
  | texts _ _ => 1
  | byAttribute _ => 2

/-- Removals in the order in which they take effect. -/
def inPasses (removals : List Removal) : List Removal :=
  [0, 1, 2].flatMap fun number => removals.filter fun removal => removal.pass = number

/-- What a removal means on a page. -/
def marked (dom : Dom) (root : NodeId) : Removal → List NodeId
  | elements selector => dom.selectText root selector
  | texts selector literal =>
    (dom.selectText root selector).flatMap fun holder => literalTexts dom holder literal.toList
  | byAttribute selector => attributeMatches dom root selector

/-- The removals that cleanup is meant for: selectors are plain and do not ask for text, the literal
fits in its parentheses, and the name of an attribute is plain. -/
def IsPlain (bare : Bool) : Removal → Prop
  | elements selector =>
    Selector.isPlainText bare selector.toList = true ∧ asksForText selector.toList = false
  | texts selector literal =>
    (Selector.isPlainText bare selector.toList = true ∧ asksForText selector.toList = false) ∧
      ')' ∉ literal.toList ∧ '\n' ∉ literal.toList
  | byAttribute selector => Selector.isPlainName selector.attributeName.toList = true

/-- Does the selector in front of a literal read the same without the blanks around it? -/
def IsTight : Removal → Prop
  | texts selector _ => Selector.parse? (trim selector.toList) = Selector.parse? selector.toList
  | _ => True

instance (bare : Bool) (removal : Removal) : Decidable (removal.IsPlain bare) :=
  match removal with
  | elements _ | texts _ _ => inferInstanceAs (Decidable (_ ∧ _))
  | byAttribute _ => inferInstanceAs (Decidable (_ = true))

instance (removal : Removal) : Decidable removal.IsTight :=
  match removal with
  | texts _ _ => inferInstanceAs (Decidable (_ = _))
  | elements _ | byAttribute _ => inferInstanceAs (Decidable True)

end Removal

/-! ## Clearing -/

variable {dom page : Dom} {root : NodeId} {gone : List NodeId} {bare : Bool}

/-- An operation that takes marked nodes out of a pruned page until none of them is left in the
content. -/
def Clears (dom : Dom) (root : NodeId) (marked : List NodeId) (step : Dom → Dom) : Prop :=
  ∀ gone page, Cut root gone dom page →
    ∃ more, more ⊆ marked ∧ Cut root (gone ++ more) dom (step page) ∧
      ∀ x ∈ marked, ¬(step page).IsBelow root x

namespace Clears

theorem nothing (dom : Dom) (root : NodeId) : Clears dom root [] id := by
  intro gone page h
  refine ⟨[], List.Subset.refl _, ?_, fun x hx => absurd hx List.not_mem_nil⟩
  rw [List.append_nil]
  exact h

theorem comp (wf : dom.WellFormed) {first second : List NodeId} {step next : Dom → Dom}
    (h : Clears dom root first step) (h' : Clears dom root second next) :
    Clears dom root (first ++ second) fun page => next (step page) := by
  intro gone page hcut
  obtain ⟨more, hmore, hmid, hfirst⟩ := h gone page hcut
  obtain ⟨rest, hrest, hlast, hsecond⟩ := h' _ _ hmid
  refine ⟨more ++ rest, ?_, ?_, fun x hx => ?_⟩
  · exact List.append_subset.2
      ⟨List.subset_append_of_subset_left _ hmore, List.subset_append_of_subset_right _ hrest⟩
  · rw [← List.append_assoc]
    exact hlast
  · rcases List.mem_append.1 hx with hx | hx
    · exact fun hbelow => hfirst x hx (hmid.isBelow_mono wf hlast hbelow)
    · exact hsecond x hx

/-- Removals one after another clear what each of them clears. -/
theorem foldl (wf : dom.WellFormed) {α : Type} {items : List α} {marked : α → List NodeId}
    {step : Dom → α → Dom}
    (h : ∀ item ∈ items, Clears dom root (marked item) fun page => step page item) :
    Clears dom root (items.flatMap marked) fun page => items.foldl step page := by
  induction items with
  | nil => exact nothing dom root
  | cons item items ih =>
    rw [List.flatMap_cons]
    exact comp wf (h item List.mem_cons_self)
      (ih fun other ho => h other (List.mem_cons_of_mem _ ho))

theorem congr {first second : List NodeId} {step : Dom → Dom} (h : Clears dom root first step)
    (hsame : ∀ x, x ∈ first ↔ x ∈ second) : Clears dom root second step := by
  intro gone page hcut
  obtain ⟨more, hmore, hlast, hclear⟩ := h gone page hcut
  exact ⟨more, fun x hx => (hsame x).1 (hmore hx), hlast, fun x hx => hclear x ((hsame x).2 hx)⟩

/-- Taking out what is found clears what is marked, if just that is found which is marked and
left. -/
theorem detach (wf : dom.WellFormed) {marked : List NodeId} {found : Dom → List NodeId}
    (hmarked : ∀ x ∈ marked, dom.IsBelow root x)
    (h : ∀ gone page, Cut root gone dom page →
      (∀ x ∈ found page, x ∈ marked) ∧ ∀ x ∈ marked, page.IsBelow root x → x ∈ found page) :
    Clears dom root marked fun page => (found page).foldl Dom.detach page := by
  intro gone page hcut
  obtain ⟨hsound, hcomplete⟩ := h gone page hcut
  have hlast := hcut.detachAll wf fun x hx => hmarked x (hsound x hx)
  refine ⟨found page, hsound, hlast, fun x hx hbelow => ?_⟩
  have hleft := hcut.isBelow_mono wf hlast hbelow
  exact hlast.notMem_of_isBelow wf hbelow (List.mem_append_right _ (hcomplete x hx hleft))

end Clears

/-! ## The three forms of removal -/

/-- Does a selector find on each pruned page what it found before, as far as that is left? -/
def Steady (dom : Dom) (root : NodeId) (selector : String) : Prop :=
  ∀ gone page, Cut root gone dom page → ∀ x,
    x ∈ page.selectText root selector ↔ page.IsBelow root x ∧ x ∈ dom.selectText root selector

theorem steady_of_plain (wf : dom.WellFormed) {selector : String}
    (ht : Selector.isPlainText bare selector.toList = true)
    (hroot : bare = true ∨ ∃ tag, dom.tag? root = some tag ∧ tag.isDocument = false) :
    Steady dom root selector :=
  fun _ _ hcut _ => hcut.mem_selectText_iff wf ht hroot

theorem clears_elements (wf : dom.WellFormed) {selector : String} (hs : Steady dom root selector) :
    Clears dom root (dom.selectText root selector) fun page =>
      (page.selectText root selector).foldl Dom.detach page := by
  refine Clears.detach wf (fun x hx => (isBelow_of_mem_selectText wf hx).1) fun gone page hcut => ?_
  have hiff := hs gone page hcut
  exact ⟨fun x hx => ((hiff x).1 hx).2, fun x hx hbelow => (hiff x).2 ⟨hbelow, hx⟩⟩

theorem view?_of_mem_children (wf : dom.WellFormed) {holder : NodeId} {child : Node}
    (h : child ∈ (dom.children holder).toList) : dom.view? child.id = some child.view := by
  have hmem : child ∈ dom.roots.nodes := by
    rw [Dom.children] at h
    cases hnode : dom.find? holder with
    | none =>
      rw [hnode] at h
      cases h
    | some node =>
      rw [hnode] at h
      exact Forest.nodes_children_subset (Forest.mem_nodes_of_find? hnode)
        (Forest.mem_nodes_of_mem_toList h)
  exact wf.view?_of_mem_nodes hmem

/-- The text that a literal names, told by what an element holds. -/
theorem mem_literalTexts_iff (wf : dom.WellFormed) {holder x : NodeId} {literal : List Char} :
    x ∈ literalTexts dom holder literal ↔ dom.Holds holder x ∧
      ∃ kind content, dom.view? x = some (.leaf (.text kind content)) ∧
        trim content.toList = literal := by
  rw [literalTexts, List.mem_map]
  constructor
  · rintro ⟨child, hchild, rfl⟩
    obtain ⟨hin, hnamed⟩ := List.mem_filter.1 hchild
    obtain ⟨htext, htrim⟩ := Bool.and_eq_true_iff.1 hnamed
    have hview := view?_of_mem_children wf hin
    refine ⟨?_, ?_⟩
    · rw [Holds, kids_eq_topIds]
      exact Forest.id_mem_topIds hin
    · cases child with
      | element id tag children => cases htext
      | leaf id content =>
        cases content with
        | text kind content => exact ⟨kind, content, hview, of_decide_eq_true htrim⟩
        | comment _ | cdata _ | doctype _ | declaration _ | instruction _ => cases htext
  · rintro ⟨hholds, kind, content, hview, htrim⟩
    rw [Holds, kids_eq_topIds, ← Forest.map_id_toList] at hholds
    obtain ⟨child, hin, rfl⟩ := List.mem_map.1 hholds
    rw [view?_of_mem_children wf hin] at hview
    refine ⟨child, List.mem_filter.2 ⟨hin, ?_⟩, rfl⟩
    cases child with
    | element id tag children => cases hview
    | leaf id other =>
      cases hview
      exact Bool.and_eq_true_iff.2 ⟨rfl, decide_eq_true htrim⟩

theorem clears_literal (wf : dom.WellFormed) {holder : NodeId} (hholder : dom.IsBelow root holder)
    (literal : List Char) :
    Clears dom root (literalTexts dom holder literal) fun page =>
      (literalTexts page holder literal).foldl Dom.detach page := by
  refine Clears.detach wf (fun x hx => ?_) fun gone page hcut =>
    ⟨fun x hx => ?_, fun x hx hbelow => ?_⟩
  · exact wf.isBelow_of_holds hholder ((mem_literalTexts_iff wf).1 hx).1
  · obtain ⟨hholds, kind, content, hview, htrim⟩ :=
      (mem_literalTexts_iff (hcut.wellFormed wf)).1 hx
    refine (mem_literalTexts_iff wf).2 ⟨(hcut.holds_iff.1 hholds).1, kind, content, ?_, htrim⟩
    rwa [hcut.view?_leaf] at hview
  · obtain ⟨hholds, kind, content, hview, htrim⟩ := (mem_literalTexts_iff wf).1 hx
    refine (mem_literalTexts_iff (hcut.wellFormed wf)).2 ⟨?_, kind, content, ?_, htrim⟩
    · exact hcut.holds_iff.2 ⟨hholds, hcut.notMem_of_isBelow wf hbelow⟩
    · rwa [hcut.view?_leaf]

theorem clears_texts (wf : dom.WellFormed) {selector : String} (literal : List Char)
    (hs : Steady dom root selector) :
    Clears dom root
      ((dom.selectText root selector).flatMap fun holder => literalTexts dom holder literal)
      fun page => (page.selectText root selector).foldl
        (fun page holder => (literalTexts page holder literal).foldl Dom.detach page) page := by
  intro gone page hcut
  have hiff := hs gone page hcut
  have hbelow {holder : NodeId} (h : holder ∈ dom.selectText root selector) :=
    (isBelow_of_mem_selectText wf h).1
  obtain ⟨more, hmore, hlast, hclear⟩ := Clears.foldl wf (fun holder hh =>
    clears_literal wf (hbelow ((hiff holder).1 hh).2) literal) gone page hcut
  refine ⟨more, fun x hx => ?_, hlast, fun x hx hleft => ?_⟩
  · obtain ⟨holder, hholder, hin⟩ := List.mem_flatMap.1 (hmore hx)
    exact List.mem_flatMap.2 ⟨holder, ((hiff holder).1 hholder).2, hin⟩
  · obtain ⟨holder, hholder, hin⟩ := List.mem_flatMap.1 hx
    -- The element that holds the text was found, since the text would not be left otherwise.
    have hheld := wf.parent?_eq_some_iff.2 ((mem_literalTexts_iff wf).1 hin).1
    have hpage := hcut.isBelow_mono wf hlast hleft
    have hparent := hcut.parent?_eq wf (hcut.notMem_of_isBelow wf hpage)
    rw [hheld] at hparent
    rcases ((hcut.wellFormed wf).isBelow_iff_of_parent hparent).1 hpage with rfl | habove
    · exact wf.not_isBelow_self _ (hbelow hholder)
    · exact hclear x (List.mem_flatMap.2 ⟨holder, (hiff holder).2 ⟨habove, hholder⟩, hin⟩) hleft

theorem isMeant_congr {selector : AttributeSelector} {node other : Node}
    (h : node.tag? = other.tag?) : isMeant selector node = isMeant selector other := by
  rw [isMeant, isMeant, searchedAttribute?, searchedAttribute?, Node.attributeText,
    Node.attributeText, h]

/-- Whether an element is meant by an attribute selector is not changed by what is removed. -/
theorem any_isMeant_eq (hcut : Cut root gone dom page) (selector : AttributeSelector) (x : NodeId) :
    (page.find? x).any (isMeant selector) = (dom.find? x).any (isMeant selector) := by
  have htag := hcut.rearranges.tag? x
  have has := hcut.rearranges.has_iff x
  cases hnode : dom.find? x with
  | none =>
    rw [find?_eq_none_iff] at hnode
    rw [find?_eq_none_iff.2 (has.not.2 hnode)]
  | some node =>
    obtain ⟨other, hother⟩ := has_iff_find?.1 (has.2 (has_iff_find?.2 ⟨node, hnode⟩))
    rw [Dom.tag?, Dom.tag?, hnode, hother] at htag
    rw [hother]
    exact isMeant_congr htag

theorem clears_byAttribute (wf : dom.WellFormed) {selector : AttributeSelector}
    (hs : Steady dom root ("[" ++ selector.attributeName ++ "]")) :
    Clears dom root (attributeMatches dom root selector) fun page =>
      (attributeMatches page root selector).foldl Dom.detach page := by
  refine Clears.detach wf (fun x hx => ?_) fun gone page hcut =>
    ⟨fun x hx => ?_, fun x hx hbelow => ?_⟩
  · exact (isBelow_of_mem_selectText wf (List.mem_filter.1 hx).1).1
  · obtain ⟨hfound, hmeant⟩ := List.mem_filter.1 hx
    rw [any_isMeant_eq hcut] at hmeant
    exact List.mem_filter.2 ⟨((hs gone page hcut x).1 hfound).2, hmeant⟩
  · obtain ⟨hfound, hmeant⟩ := List.mem_filter.1 hx
    rw [← any_isMeant_eq hcut] at hmeant
    exact List.mem_filter.2 ⟨(hs gone page hcut x).2 ⟨hbelow, hfound⟩, hmeant⟩

/-- A removal clears what it means on the page as it was. -/
theorem clears_apply (wf : dom.WellFormed) {removal : Removal} (h : removal.IsPlain bare)
    (hroot : bare = true ∨ ∃ tag, dom.tag? root = some tag ∧ tag.isDocument = false) :
    Clears dom root (removal.marked dom root) fun page => removal.apply root page := by
  cases removal with
  | elements selector => exact clears_elements wf (steady_of_plain wf h.1 hroot)
  | texts selector literal =>
    exact clears_texts wf literal.toList (steady_of_plain wf h.1.1 hroot)
  | byAttribute selector =>
    have htext : Selector.isPlainText bare ("[" ++ selector.attributeName ++ "]").toList = true := by
      have hbrackets := Selector.isPlainText_brackets h bare
      rw [String.toList_append, String.toList_append]
      exact hbrackets
    exact clears_byAttribute wf (steady_of_plain wf htext hroot)

/-! ## Cleanup as a whole -/

/-- Cleanup goes through the entries three times. -/
theorem removeEntries_passes (sanitize : Sanitize.Sanitizer) (page : Dom) (root : NodeId)
    (entries : List CleanupEntry) :
    removeEntries (standardHost sanitize) page root entries =
      (attributeSelectors entries).foldl
        (fun page selector => (attributeMatches page root selector).foldl Dom.detach page)
        ((textSelectors entries).foldl (fun page entry => removeText page root entry)
          ((elementSelectors entries).foldl
            (fun page selector => (page.selectText root selector).foldl Dom.detach page) page)) := by
  rw [removeEntries]
  dsimp only [standardHost]
  cases elementSelectors entries <;> rfl

/-- Text is removed with the selector as it was written, if this reads the same when it is
trimmed. -/
theorem removeText_entry {selector literal : String} {text : String}
    (htext : (Removal.texts selector literal).entry = .selector text)
    (h : (Removal.texts selector literal).IsPlain bare)
    (htight : (Removal.texts selector literal).IsTight) (page : Dom) :
    removeText page root text = (Removal.texts selector literal).apply root page := by
  obtain ⟨⟨_, hasks⟩, hclose, hline⟩ := h
  cases htext
  have hsame : page.selectText root (String.ofList (trim selector.toList)) =
      page.selectText root selector := by
    rw [Dom.selectText, Dom.selectText, String.toList_ofList, htight]
  rw [removeText, String.toList_ofList, splitSearch_append hasks hclose hline]
  dsimp only
  rw [hsame]
  rfl

/-- One pass over the entries is one over the removals that take part in it. -/
private theorem foldl_pass {α : Type} {removals : List Removal} (number : Nat)
    (select : CleanupEntry → Option α) (step : Dom → α → Dom)
    (hin : ∀ r ∈ removals, r.pass = number → ∀ page,
      (match select r.entry with
        | some item => step page item
        | none => page) = r.apply root page)
    (hout : ∀ r ∈ removals, r.pass ≠ number → select r.entry = none) (page : Dom) :
    ((removals.map Removal.entry).filterMap select).foldl step page =
      (removals.filter fun r => r.pass = number).foldl (fun page r => r.apply root page) page := by
  rw [List.foldl_filterMap, List.foldl_map, List.foldl_filter]
  refine List.foldl_ext _ _ _ fun page r hr => ?_
  by_cases hp : r.pass = number
  · rw [if_pos (decide_eq_true hp)]
    exact hin r hr hp page
  · rw [if_neg fun hd => hp (of_decide_eq_true hd), hout r hr hp]

theorem mem_inPasses {removals : List Removal} {r : Removal} :
    r ∈ Removal.inPasses removals ↔ r ∈ removals := by
  rw [Removal.inPasses, List.mem_flatMap]
  constructor
  · rintro ⟨number, _, hr⟩
    exact (List.mem_filter.1 hr).1
  · intro hr
    refine ⟨r.pass, ?_, List.mem_filter.2 ⟨hr, decide_eq_true rfl⟩⟩
    cases r with
    | elements _ => exact List.mem_cons_self
    | texts _ _ => exact List.mem_cons_of_mem _ List.mem_cons_self
    | byAttribute _ => exact List.mem_cons_of_mem _ (List.mem_cons_of_mem _ List.mem_cons_self)

/-- The text of an entry for text asks for text. -/
private theorem asksForText_entry (selector literal : String) :
    asksForText (String.ofList
      (selector.toList ++ (searchMarker ++ (literal.toList ++ [')'])))).toList = true := by
  rw [String.toList_ofList]
  exact asksForText_append _ _

/-- The first pass removes elements by their selectors. -/
private theorem foldl_elementSelectors {removals : List Removal}
    (hplain : ∀ r ∈ removals, r.IsPlain bare) (page : Dom) :
    (elementSelectors (removals.map Removal.entry)).foldl
      (fun page selector => (page.selectText root selector).foldl Dom.detach page) page =
        (removals.filter fun r => r.pass = 0).foldl (fun page r => r.apply root page) page := by
  refine foldl_pass 0 _ _ (fun r hr hp page => ?_) (fun r hr hp => ?_) page
  · cases r with
    | elements selector =>
      have hasks : asksForText selector.toList = false := (hplain _ hr).2
      dsimp only [Removal.entry]
      rw [hasks]
      by_cases hvalid : Selector.isValid selector = true
      · rw [hvalid]; rfl
      · have hnone : Selector.parse? selector.toList = none := by
          rw [Selector.isValid, Option.not_isSome_iff_eq_none] at hvalid
          exact hvalid
        rw [Bool.not_eq_true] at hvalid
        rw [hvalid, Removal.apply, Dom.selectText, hnone]; rfl
    | texts _ _ | byAttribute _ => cases hp
  · cases r with
    | elements selector => exact absurd rfl hp
    | texts selector literal =>
      dsimp only [Removal.entry]
      rw [asksForText_entry]; rfl
    | byAttribute selector => rfl

/-- The second pass removes text. -/
private theorem foldl_textSelectors {removals : List Removal}
    (hplain : ∀ r ∈ removals, r.IsPlain bare) (htight : ∀ r ∈ removals, r.IsTight) (page : Dom) :
    (textSelectors (removals.map Removal.entry)).foldl
      (fun page entry => removeText page root entry) page =
        (removals.filter fun r => r.pass = 1).foldl (fun page r => r.apply root page) page := by
  refine foldl_pass 1 _ _ (fun r hr hp page => ?_) (fun r hr hp => ?_) page
  · cases r with
    | texts selector literal =>
      dsimp only [Removal.entry]
      rw [asksForText_entry]
      exact removeText_entry rfl (hplain _ hr) (htight _ hr) page
    | elements _ | byAttribute _ => cases hp
  · cases r with
    | elements selector =>
      have hasks : asksForText selector.toList = false := (hplain _ hr).2
      dsimp only [Removal.entry]
      rw [hasks]; rfl
    | texts selector literal => exact absurd rfl hp
    | byAttribute selector => rfl

/-- The third pass removes elements by their attributes. -/
private theorem foldl_attributeSelectors (removals : List Removal) (page : Dom) :
    (attributeSelectors (removals.map Removal.entry)).foldl
      (fun page selector => (attributeMatches page root selector).foldl Dom.detach page) page =
        (removals.filter fun r => r.pass = 2).foldl (fun page r => r.apply root page) page := by
  refine foldl_pass 2 _ _ (fun r hr hp page => ?_) (fun r hr hp => ?_) page
  · cases r with
    | byAttribute selector => rfl
    | elements _ | texts _ _ => cases hp
  · cases r with
    | byAttribute selector => exact absurd rfl hp
    | elements _ | texts _ _ => rfl

/-- Cleanup is one removal after another, pass by pass. -/
theorem removeEntries_eq (sanitize : Sanitize.Sanitizer) {removals : List Removal}
    (hplain : ∀ r ∈ removals, r.IsPlain bare) (htight : ∀ r ∈ removals, r.IsTight) (page : Dom) :
    removeEntries (standardHost sanitize) page root (removals.map Removal.entry) =
      (Removal.inPasses removals).foldl (fun page removal => removal.apply root page) page := by
  rw [removeEntries_passes, foldl_elementSelectors hplain, foldl_textSelectors hplain htight,
    foldl_attributeSelectors, Removal.inPasses, List.flatMap_cons, List.flatMap_cons,
    List.flatMap_cons, List.flatMap_nil, List.append_nil, List.foldl_append, List.foldl_append]

/-- Cleanup clears all that its entries mean on the page as it was. -/
theorem clears_removeEntries (sanitize : Sanitize.Sanitizer) (wf : dom.WellFormed)
    {removals : List Removal} (hplain : ∀ r ∈ removals, r.IsPlain bare)
    (htight : ∀ r ∈ removals, r.IsTight)
    (hroot : bare = true ∨ ∃ tag, dom.tag? root = some tag ∧ tag.isDocument = false) :
    Clears dom root (removals.flatMap (Removal.marked dom root)) fun page =>
      removeEntries (standardHost sanitize) page root (removals.map Removal.entry) := by
  simp only [removeEntries_eq sanitize hplain htight]
  refine (Clears.foldl wf fun r hr => clears_apply wf (hplain r (mem_inPasses.1 hr)) hroot).congr ?_
  intro x
  simp only [List.mem_flatMap, mem_inPasses]

/-- Cleanup leaves the content pruned at all that its entries mean on the page as it was. -/
theorem removeEntries_prunes (sanitize : Sanitize.Sanitizer) (wf : dom.WellFormed) (root : NodeId)
    (removals : List Removal) (hplain : ∀ r ∈ removals, r.IsPlain bare)
    (htight : ∀ r ∈ removals, r.IsTight)
    (hroot : bare = true ∨ ∃ tag, dom.tag? root = some tag ∧ tag.isDocument = false) :
    let marked := removals.flatMap (Removal.marked dom root)
    let after := removeEntries (standardHost sanitize) dom root (removals.map Removal.entry)
    after.find? root = (dom.find? root).map (Node.prune marked) ∧
      ∀ x, after.IsBelow root x ↔ dom.IsBelow root x ∧
        ∀ y, dom.IsBelow root y → y = x ∨ dom.IsBelow y x → y ∉ marked := by
  intro marked after
  obtain ⟨gone, hgone, hcut, hclear⟩ :=
    clears_removeEntries sanitize wf hplain htight hroot [] dom (.refl root dom)
  rw [List.nil_append] at hcut
  refine ⟨?_, fun x => ?_⟩
  · have htree : after.find? root = (dom.find? root).map (Node.prune gone) := hcut.tree
    have hleft : ∀ node, after.find? root = some node → ∀ x ∈ node.children.ids, x ∉ marked :=
      fun node hnode x hx hmarked => hclear x hmarked (isBelow_iff.2 ⟨node, hnode, hx⟩)
    rw [htree] at hleft ⊢
    cases hnode : dom.find? root with
    | none => rfl
    | some node =>
      rw [hnode] at hleft
      have hchildren := hleft _ rfl
      cases node with
      | leaf id content => rfl
      | element id tag children =>
        have hpruned : children.prune gone = children.prune marked :=
          Forest.prune_eq_of_cleared hgone hchildren
        show some (Node.element id tag (children.prune gone)) = _
        rw [hpruned]; rfl
  · rw [hcut.isBelow_scope_iff wf]
    refine and_congr_right fun _ => ⟨fun hout y hy hyx hmarked => ?_, fun hout y hy hyx hin => ?_⟩
    · refine hclear y hmarked ((hcut.isBelow_scope_iff wf).2 ⟨hy, fun z hz hzy => hout z hz ?_⟩)
      rcases hzy with rfl | hzy
      · exact hyx
      · rcases hyx with rfl | hyx
        · exact .inr hzy
        · exact .inr (wf.isBelow_trans hzy hyx)
    · exact hout y hy hyx (hgone hin)

/-- A page with a paragraph of two words, whose identifier ends in a blank. -/
def draftPage : Dom where
  roots := .element documentId documentTag
    (.element 1 ⟨"main", .html, []⟩
      (.element 2 ⟨"p", .html, [("id", "a ")]⟩ (.leaf 3 (.text .plain "Draft")
        (.element 4 ⟨"b", .html, []⟩ (.leaf 5 (.text .plain "x") .nil) .nil)) .nil) .nil) .nil
  fresh := 6
  looped := false

/-- Removals of what is in bold type, of a word, and of what has a certain class. -/
def draftRemovals : List Removal :=
  [.elements "main > p b", .texts "p " "Draft", .byAttribute ⟨"class", none, "x"⟩]

theorem removeEntries_prunes_draft :
    (removeEntries (standardHost fun text => .ok text) draftPage 1
        (draftRemovals.map Removal.entry)).find? 1 =
      (draftPage.find? 1).map (Node.prune [4, 3]) := by
  have wf : draftPage.WellFormed :=
    ⟨by decide, (by decide : ∀ id ∈ draftPage.roots.ids, id < draftPage.fresh), ⟨documentTag, rfl⟩⟩
  have hplain : ∀ r ∈ draftRemovals, r.IsPlain true := by decide +kernel
  have htight : ∀ r ∈ draftRemovals, r.IsTight := by decide +kernel
  have hmarked : draftRemovals.flatMap (Removal.marked draftPage 1) = [4, 3] := by decide +kernel
  rw [← hmarked]
  exact (removeEntries_prunes (fun text => .ok text) wf 1 draftRemovals hplain htight (.inl rfl)).1

/-- A blank that is escaped at the end of a selector is trimmed off in front of a literal, so that
the text of the elements that the selector finds is not removed. -/
theorem removeEntries_misses_escaped_blank :
    (Removal.texts "#a\\ " "Draft").IsPlain true ∧
      (removeEntries (standardHost fun text => .ok text) draftPage 1
          [(Removal.texts "#a\\ " "Draft").entry]).find? 1 ≠
        (draftPage.find? 1).map
          (Node.prune ((Removal.texts "#a\\ " "Draft").marked draftPage 1)) := by
  decide +kernel

end PageBlocks.Import
