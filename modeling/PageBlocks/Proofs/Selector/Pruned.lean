import PageBlocks.Proofs.Dom.Prune
import PageBlocks.Proofs.Dom.Spots
import PageBlocks.Proofs.Selector.Written
/-!
# Selecting on a page that was pruned

What is left below the scope of a pruned page has the same elements around it as before, with the
same tags.  So a plain selector finds it just when it would have found it on the page as it was.
That the page keeps vocabularies is told by its outermost element, which is not below the scope
unless the scope is the document.

Selectors may combine their conditions in any way, by alternatives and by negation.  As long as they
look at nothing but elements around the one in question, and at each of these on its own, what was
taken out of the page beside and below them makes no difference.

## Main results

* `Dom.Cut.alike` — what is left is at spots alike.
* `Dom.Cut.mem_selectText_iff` — what a plain selector finds on a pruned page.
* `Selector.holds_eq_of_looksUp` — selectors that look up only hold at spots alike.
* `Dom.Cut.mem_selectText_iff_of_looksUp` — what they find on a pruned page.
-/

namespace PageBlocks

namespace Dom

variable {dom page : Dom} {scope y : NodeId} {gone : List NodeId}

/-! ## Finding one node -/

theorem exists_descendant {spot : Spot} (hspot : dom.spot? scope = some spot)
    (hy : dom.IsBelow scope y) : ∃ below ∈ spot.descendants, below.id = y := by
  have hnode : dom.find? scope = some spot.node := by
    rw [← map_node_spot?, hspot]; rfl
  rw [IsBelow, children, hnode, Option.map_some, Option.getD_some, ← map_id_descendants] at hy
  exact List.mem_map.1 hy

/-- A selector finds a node when it holds at the one spot of that node. -/
theorem mem_select_iff (wf : dom.WellFormed) {spot below : Spot}
    (hspot : dom.spot? scope = some spot) (hbelow : below ∈ spot.descendants) (selector : Selector) :
    below.id ∈ dom.select scope selector ↔
      below.isElement = true ∧ selector.holds (.ofSpot spot) below = true := by
  have hnode : dom.find? scope = some spot.node := by
    rw [← map_node_spot?, hspot]; rfl
  have hunique : (spot.descendants.map Spot.id).Nodup := by
    have hsub := Forest.ids_sublist (Forest.mem_nodes_of_find? hnode)
    rw [Node.ids_eq] at hsub
    rw [map_id_descendants]
    exact (wf.nodup.sublist hsub).of_cons
  rw [select, hspot, ← Bool.and_eq_true_iff]
  show below.id ∈ (spot.select selector).map Spot.id ↔ _
  rw [Spot.select]
  constructor
  · intro hmem
    obtain ⟨other, hother, hid⟩ := List.mem_map.1 hmem
    obtain ⟨hin, hmeets⟩ := List.mem_filter.1 hother
    rw [List.inj_on_of_nodup_map hunique hin hbelow hid] at hmeets
    exact hmeets
  · intro hmeets
    exact List.mem_map_of_mem (List.mem_filter.2 ⟨hbelow, hmeets⟩)

/-! ## Spots on a pruned page -/

namespace Cut

variable (h : Cut scope gone dom page) (wf : dom.WellFormed)

include h wf

/-- Neither the scope nor what is around it was taken out. -/
theorem notMem_around (k : NodeId) (hk : k = scope ∨ dom.IsBelow k scope) : k ∉ gone := by
  intro hgone
  have hbelow := h.below k hgone
  rcases hk with rfl | hk
  · exact wf.not_isBelow_self _ hbelow
  · exact wf.not_isBelow_self _ (wf.isBelow_trans hk hbelow)

/-- A node that has nothing around it that was taken out is at spots alike, below the same node at
the very top. -/
theorem alike {spot spot' : Spot} (hs : dom.Sits spot) (hs' : page.Sits spot')
    (hid : spot'.id = spot.id) (hout : ∀ k, k = spot.id ∨ dom.IsBelow k spot.id → k ∉ gone) :
    spot'.Alike spot ∧ spot'.root.id = spot.root.id := by
  have wf' := h.wellFormed wf
  have htag : spot'.node.tag? = spot.node.tag? := by
    rw [← wf'.tag?_spot hs', ← wf.tag?_spot hs, h.rearranges.tag?, hid]
  have hparent : page.parent? spot'.id = dom.parent? spot.id := by
    rw [hid]
    exact h.parent?_eq wf (hout _ (.inl rfl))
  induction spot generalizing spot' with
  | top node =>
    have hnone := wf.parent?_eq_none_iff.2 (wf.not_holds_top hs)
    cases spot' with
    | top node' => exact ⟨.top hid htag, hid⟩
    | inside parent' before' node' after' =>
      have hsome := wf'.parent?_eq_some_iff.2 (wf'.holds_spot hs')
      have heq := hsome.symm.trans (hparent.trans hnone)
      cases heq
  | inside parent before node after ih =>
    have hsome := wf.parent?_eq_some_iff.2 (wf.holds_spot hs)
    cases spot' with
    | top node' =>
      have hnone := wf'.parent?_eq_none_iff.2 (wf'.not_holds_top hs')
      have heq := hnone.symm.trans (hparent.trans hsome)
      cases heq
    | inside parent' before' node' after' =>
      have hsome' := wf'.parent?_eq_some_iff.2 (wf'.holds_spot hs')
      have heq : parent'.id = parent.id :=
        Option.some.inj (hsome'.symm.trans (hparent.trans hsome))
      have habove : ∀ k, k = parent.id ∨ dom.IsBelow k parent.id → k ∉ gone := by
        intro k hk
        refine hout k (.inr ?_)
        rcases hk with rfl | hk
        · exact (wf.holds_spot hs).isBelow
        · exact wf.isBelow_of_holds hk (wf.holds_spot hs)
      have htag' : parent'.node.tag? = parent.node.tag? := by
        rw [← wf'.tag?_spot hs'.1, ← wf.tag?_spot hs.1, h.rearranges.tag?, heq]
      have hparent' : page.parent? parent'.id = dom.parent? parent.id := by
        rw [heq]
        exact h.parent?_eq wf (habove _ (.inl rfl))
      obtain ⟨halike, hroot⟩ := ih hs.1 hs'.1 heq habove htag' hparent'
      exact ⟨.inside halike hid htag, hroot⟩

/-- The scope is at spots alike. -/
theorem alike_scope {spot spot' : Spot} (hspot : dom.spot? scope = some spot)
    (hspot' : page.spot? scope = some spot') :
    spot'.Alike spot ∧ spot'.root.id = spot.root.id := by
  obtain ⟨hs, hid⟩ := sits_of_spot? hspot
  obtain ⟨hs', hid'⟩ := sits_of_spot? hspot'
  refine h.alike wf hs hs' (hid'.trans hid.symm) ?_
  rw [hid]
  exact h.notMem_around wf

omit h wf in
/-- Vocabularies are told by the tags of the children of the document alone. -/
private theorem any_head_elements (nodes : List Node) (f : Tag → Bool) :
    ((nodes.filter Node.isElement).head?.any fun root => root.tag?.any f) =
      ((nodes.filterMap Node.tag?).head?.any f) := by
  induction nodes with
  | nil => rfl
  | cons node nodes ih =>
    cases node with
    | leaf id content => exact ih
    | element id tag children => rfl

omit h wf in
private theorem filterMap_tag?_children {node : Node} (wf : dom.WellFormed)
    (hs : dom.Sits (.top node)) :
    node.children.toList.filterMap Node.tag? = (dom.kids node.id).filterMap dom.tag? := by
  have hfind : dom.roots.find? node.id = some node := wf.find?_spot hs
  rw [kids, Forest.kids_of_find? hfind, ← Forest.map_id_toList, List.filterMap_map]
  refine List.filterMap_congr fun child hchild => ?_
  have hsits : dom.Sits (.inside (.top node) [] child .nil) := ⟨hs, hchild⟩
  exact (wf.tag?_spot hsits).symm

/-- A document keeps its children when the page is pruned below an element. -/
private theorem kids_document_eq {top top' : Node} {tag : Tag} (hstop : dom.Sits (.top top))
    (hid : top'.id = top.id) (hdoc : top.tag?.any Tag.isDocument = true)
    (htag : dom.tag? scope = some tag) (hdocument : tag.isDocument = false) :
    page.kids top'.id = dom.kids top.id := by
  have hrows := h.rearranges.kids (x := top.id) rfl
  rw [hid, hrows]
  refine List.filter_eq_self.2 fun k hk => decide_eq_true fun hgone => ?_
  obtain ⟨q, hq, hcase⟩ := wf.isBelow_cases (h.below k hgone)
  have heq : q = top.id := wf.parent_unique (wf.parent?_eq_some_iff.1 hq) hk
  rw [heq] at hcase
  rcases hcase with hscope | hbelow
  · have hself : top.tag? = some tag := by
      rw [← htag, ← hscope]
      exact (wf.tag?_spot hstop).symm
    rw [hself, Option.any_some, hdocument] at hdoc
    cases hdoc
  · obtain ⟨p, hp, _⟩ := wf.isBelow_cases hbelow
    exact wf.not_holds_top hstop p (wf.parent?_eq_some_iff.1 hp)

/-- A page keeps vocabularies as before when it is pruned below an element. -/
theorem hasVocabularies_eq {spot spot' : Spot} {tag : Tag} (hspot : dom.spot? scope = some spot)
    (hspot' : page.spot? scope = some spot') (htag : dom.tag? scope = some tag)
    (hdocument : tag.isDocument = false) :
    (Query.ofSpot spot').hasVocabularies = (Query.ofSpot spot).hasVocabularies := by
  have wf' := h.wellFormed wf
  obtain ⟨hs, _⟩ := sits_of_spot? hspot
  obtain ⟨hs', _⟩ := sits_of_spot? hspot'
  obtain ⟨_, hroot⟩ := h.alike_scope wf hspot hspot'
  obtain ⟨top, htop, hstop⟩ := hs.root
  obtain ⟨top', htop', hstop'⟩ := hs'.root
  rw [htop, htop'] at hroot
  have hid : top'.id = top.id := hroot
  have htags : top'.tag? = top.tag? := by
    have hfirst := wf'.tag?_spot hstop'
    have hsecond := wf.tag?_spot hstop
    rw [h.rearranges.tag?] at hfirst
    exact hfirst.symm.trans ((congrArg dom.tag? hid).trans hsecond)
  rw [Query.ofSpot, Query.ofSpot, htop, htop']
  dsimp only [Spot.node]
  rw [htags]
  cases hcase : top.tag? with
  | none => rfl
  | some toptag =>
    dsimp only
    split
    · next hdoc =>
      have hchildren := h.kids_document_eq wf hstop hid (by rw [hcase]; exact hdoc) htag hdocument
      rw [Node.elementChildren, Node.elementChildren, any_head_elements, any_head_elements,
        filterMap_tag?_children wf' hstop', filterMap_tag?_children wf hstop, hchildren]
      have hsame : page.tag? = dom.tag? := funext h.rearranges.tag?
      rw [hsame]
    · show top'.tag?.any _ = top.tag?.any _
      rw [htags]

/-! ## What is found -/

/-- On a pruned page a selector finds what it would have found before, as far as that is left, if it
holds at spots alike as before. -/
theorem mem_select_iff_of_alike {selector : Selector}
    (hholds : ∀ {spot spot' below below' : Spot}, dom.spot? scope = some spot →
      page.spot? scope = some spot' → below'.Alike below →
      selector.holds (.ofSpot spot') below' = selector.holds (.ofSpot spot) below) :
    y ∈ page.select scope selector ↔ page.IsBelow scope y ∧ y ∈ dom.select scope selector := by
  have wf' := h.wellFormed wf
  have hfits (hy : page.IsBelow scope y) :
      y ∈ page.select scope selector ↔ y ∈ dom.select scope selector := by
    have hbefore := h.isBelow_of_isBelow wf hy
    obtain ⟨spot, hspot⟩ := exists_spot? hbefore.has_left
    obtain ⟨spot', hspot'⟩ := exists_spot? hy.has_left
    obtain ⟨below, hbelow, hid⟩ := exists_descendant hspot hbefore
    obtain ⟨below', hbelow', hid'⟩ := exists_descendant hspot' hy
    have hsits := sits_of_mem_descendants (sits_of_spot? hspot).1 hbelow
    have hsits' := sits_of_mem_descendants (sits_of_spot? hspot').1 hbelow'
    have hout : ∀ k, k = below.id ∨ dom.IsBelow k below.id → k ∉ gone := by
      rw [hid]
      rintro k (rfl | hk)
      · exact h.notMem_of_isBelow wf hy
      · exact h.notMem_above wf hy hk
    obtain ⟨halike, _⟩ := h.alike wf hsits hsits' (hid'.trans hid.symm) hout
    have helement : below'.isElement = below.isElement := by
      have htag := halike.tag?_eq
      rw [Spot.isElement, Spot.isElement]
      cases hn : below'.node <;> cases hm : below.node <;> rw [hn, hm] at htag <;> first
        | rfl
        | cases htag
    have hfirst := Dom.mem_select_iff wf' hspot' hbelow' selector
    have hsecond := Dom.mem_select_iff wf hspot hbelow selector
    rw [hid'] at hfirst
    rw [hid] at hsecond
    rw [hfirst, hsecond, hholds hspot hspot' halike, helement]
  constructor
  · intro hy
    have hbelow := (isBelow_of_mem_select wf' hy).1
    exact ⟨hbelow, (hfits hbelow).1 hy⟩
  · rintro ⟨hbelow, hy⟩
    exact (hfits hbelow).2 hy

/-- On a pruned page a plain selector finds what it would have found before, as far as that is
left. -/
theorem mem_select_iff {selector : Selector} (hs : selector.Plain)
    (hq : selector.isBare = true ∨ ∃ tag, dom.tag? scope = some tag ∧ tag.isDocument = false) :
    y ∈ page.select scope selector ↔ page.IsBelow scope y ∧ y ∈ dom.select scope selector := by
  refine h.mem_select_iff_of_alike wf fun hspot hspot' halike => hs.holds_eq ?_ halike
  rcases hq with hbare | ⟨tag, htag, hdocument⟩
  · exact .inl hbare
  · exact .inr (h.hasVocabularies_eq wf hspot hspot' htag hdocument)

/-- On a pruned page plain text finds what it would have found before, as far as that is left. -/
theorem mem_selectText_iff {bare : Bool} {text : String}
    (ht : Selector.isPlainText bare text.toList = true)
    (hscope : bare = true ∨ ∃ tag, dom.tag? scope = some tag ∧ tag.isDocument = false) :
    y ∈ page.selectText scope text ↔ page.IsBelow scope y ∧ y ∈ dom.selectText scope text := by
  rw [selectText, selectText]
  cases hparse : Selector.parse? text.toList with
  | none => exact ⟨fun hy => absurd hy List.not_mem_nil, fun hy => absurd hy.2 List.not_mem_nil⟩
  | some selector =>
    obtain ⟨hplain, hbare⟩ := Selector.parse?_plain ht hparse
    exact h.mem_select_iff wf hplain (hscope.imp_left hbare)

end Cut

end Dom

/-! ## Selectors that look up only -/

/-- Does a test look at nothing but the identity and the tag of an element? -/
def Test.looksUp : Test → Bool
  | .name .. | .identity _ | .className _ | .attribute _ | .pageElement | .scope | .defined
  | .inRange | .outOfRange => true
  | .root | .empty | .text .. | .language _ | .rightToLeft | .leftToRight | .blankContent
  | .firstSubmit | .undecided => false

/-- Does one look up from an element to get to the other ones? -/
def Combinator.looksUp : Combinator → Bool
  | descendant | child => true
  | nextSibling | laterSibling => false

/-- Does a selector look at nothing but an element on its own and those around it? -/
def Selector.looksUp : Selector → Bool
  | always | never => true
  | test condition => condition.looksUp
  | both first second | either first second => first.looksUp && second.looksUp
  | not condition => condition.looksUp
  | follows combinator condition => combinator.looksUp && condition.looksUp
  | has _ _ | place _ _ _ _ _ => false

variable {query other : Query} {spot spot' : Spot}

theorem Test.holds_eq {condition : Test} (hs : condition.looksUp = true)
    (hscope : query.scope = other.scope) (hv : query.hasVocabularies = other.hasVocabularies)
    (h : spot.Alike spot') (tag : Tag) :
    condition.holds query spot tag = condition.holds other spot' tag := by
  have hattribute (name : String) : spot.attribute? name = spot'.attribute? name := by
    rw [Spot.attribute?, Spot.attribute?, h.tag?_eq]
  have hinside : spot.isInside? = spot'.isInside? := by
    simp only [Spot.isInside?, Spot.loweredAttribute, hattribute]
  match condition, hs with
  | .name .., _ => rw [holds, holds, NamePrefix.admits_eq (.inr hv)]
  | .identity _, _ | .className _, _ | .defined, _ => rfl
  | .attribute _, _ => exact AttributeTest.holds_eq (.inr hv) tag
  | .pageElement, _ => rw [holds, holds, Tag.isPageElement, Tag.isPageElement, hv]
  | .scope, _ => rw [holds, holds, hscope, h.id_eq]
  | .inRange, _ | .outOfRange, _ => rw [holds, holds, hinside]

/-- Selectors that look up only hold at spots alike, if the queries agree. -/
theorem Selector.holds_eq_of_looksUp {selector : Selector} (hs : selector.looksUp = true)
    (hscope : query.scope = other.scope) (hv : query.hasVocabularies = other.hasVocabularies)
    (h : spot.Alike spot') : selector.holds query spot = selector.holds other spot' := by
  induction selector generalizing spot spot' with
  | always | never => rfl
  | test condition =>
    show spot.node.tag?.any _ = spot'.node.tag?.any _
    rw [h.tag?_eq]
    congr 1
    funext tag
    exact Test.holds_eq hs hscope hv h tag
  | both first second ihf ihs =>
    obtain ⟨hfirst, hsecond⟩ := Bool.and_eq_true_iff.1 hs
    rw [holds_both, holds_both, ihf hfirst h, ihs hsecond h]
  | either first second ihf ihs =>
    obtain ⟨hfirst, hsecond⟩ := Bool.and_eq_true_iff.1 hs
    rw [holds_either, holds_either, ihf hfirst h, ihs hsecond h]
  | not condition ih => rw [holds_not, holds_not, ih hs h]
  | follows combinator condition ih =>
    obtain ⟨hway, hcondition⟩ := Bool.and_eq_true_iff.1 hs
    cases combinator with
    | descendant => exact h.any_ancestors fun _ _ habove => ih hcondition habove
    | child => exact h.any_parent fun _ _ habove => ih hcondition habove
    | nextSibling | laterSibling => cases hway
  | has _ _ _ | place _ _ _ _ _ _ => cases hs

namespace Dom

variable {dom page : Dom} {scope y : NodeId} {gone : List NodeId} {tag : Tag}

/-- The scope of a query that starts at an element is that element. -/
theorem scope_ofSpot (wf : dom.WellFormed) (hspot : dom.spot? scope = some spot)
    (htag : dom.tag? scope = some tag) (hdocument : tag.isDocument = false) :
    (Query.ofSpot spot).scope = some scope := by
  obtain ⟨hs, hid⟩ := sits_of_spot? hspot
  obtain ⟨top, htop, hstop⟩ := hs.root
  rw [Query.ofSpot, htop]
  dsimp only [Spot.node]
  split
  · next hself =>
    have hown : top.tag? = some tag := by
      rw [← htag, ← hid, hself]
      exact (wf.tag?_spot hstop).symm
    rw [hown]
    dsimp only
    rw [hdocument, ← hid, hself]
    rfl
  · rw [hid]

/-- On a pruned page a selector that looks up only finds what it would have found before, as far as
that is left. -/
theorem Cut.mem_select_iff_of_looksUp (h : Cut scope gone dom page) (wf : dom.WellFormed)
    {selector : Selector} (hs : selector.looksUp = true) (htag : dom.tag? scope = some tag)
    (hdocument : tag.isDocument = false) :
    y ∈ page.select scope selector ↔ page.IsBelow scope y ∧ y ∈ dom.select scope selector := by
  have htag' : page.tag? scope = some tag := by rw [h.rearranges.tag?, htag]
  refine h.mem_select_iff_of_alike wf fun hspot hspot' halike =>
    Selector.holds_eq_of_looksUp hs ?_ ?_ halike
  · rw [scope_ofSpot (h.wellFormed wf) hspot' htag' hdocument,
      scope_ofSpot wf hspot htag hdocument]
  · exact h.hasVocabularies_eq wf hspot hspot' htag hdocument

/-- On a pruned page selectors that look up only find what they would have found before, as far as
that is left. -/
theorem Cut.mem_selectText_iff_of_looksUp (h : Cut scope gone dom page) (wf : dom.WellFormed)
    {text : String} (hs : (Selector.parse? text.toList).all Selector.looksUp = true)
    (htag : dom.tag? scope = some tag) (hdocument : tag.isDocument = false) :
    y ∈ page.selectText scope text ↔ page.IsBelow scope y ∧ y ∈ dom.selectText scope text := by
  rw [selectText, selectText]
  cases hparse : Selector.parse? text.toList with
  | none => exact ⟨fun hy => absurd hy List.not_mem_nil, fun hy => absurd hy.2 List.not_mem_nil⟩
  | some selector =>
    rw [hparse] at hs
    exact h.mem_select_iff_of_looksUp wf hs htag hdocument

end Dom

end PageBlocks
