import Mathlib.Data.List.Infix
import PageBlocks.Proofs.Dom.Spots
/-!
# The innermost node around several nodes

What is below a node stands in one piece in the order of the page.  Whatever is around the first and
the last of some nodes in that order is therefore around all nodes between them, and the innermost
node around these two is the innermost one around all.

## Main results

* `Forest.ids_infix` — a tree stands in one piece.
* `Dom.WellFormed.exists_find?_around` — on the way up one gets to the innermost node first.
* `Dom.WellFormed.exists_slide` — what is below a node is in one of its children, and in one only.
* `Dom.WellFormed.commonAncestor?_innermost` — the first and the last of some nodes tell the innermost
  node around all of them.
-/

namespace PageBlocks

/-- The identities of a node and of what is below it stand in one piece. -/
theorem Forest.ids_infix {forest : Forest} {node : Node} (h : node ∈ forest.nodes) :
    node.ids <:+: forest.ids := by
  induction forest with
  | nil => cases h
  | leaf id content next ih =>
    rcases List.mem_cons.1 h with rfl | h
    · rw [Node.ids_eq]
      exact ⟨[], next.ids, rfl⟩
    · exact (ih h).trans (List.suffix_cons ..).isInfix
  | element id tag children next ihc ihn =>
    rcases List.mem_cons.1 h with rfl | h
    · rw [Node.ids_eq]
      exact ⟨[], next.ids, by simp [Forest.ids, Node.id, Node.children]⟩
    · rcases List.mem_append.1 h with h | h
      · exact (ihc h).trans ⟨[id], next.ids, by simp [Forest.ids]⟩
      · exact (ihn h).trans ⟨id :: children.ids, [], by simp [Forest.ids]⟩

/-- A part of a row whose first and last members are in one piece of the row is in that piece. -/
private theorem sublist_of_ends {α : Type} {part piece row : List α} (hn : row.Nodup)
    (hpiece : piece <:+: row) (hpart : part.Sublist row) (hne : part ≠ [])
    (hfirst : part.head hne ∈ piece) (hlast : part.getLast hne ∈ piece) :
    part.Sublist piece := by
  obtain ⟨front, back, rfl⟩ := hpiece
  have hback := List.disjoint_of_nodup_append hn
  have hfront := List.disjoint_of_nodup_append hn.of_append_left
  obtain ⟨start, tail, rfl, hstart, htail⟩ := List.sublist_append_iff.1 hpart
  have htail_nil : tail = [] := by
    by_contra h
    rw [List.getLast_append_of_ne_nil _ h] at hlast
    exact hback (List.mem_append_right _ hlast) (htail.subset (List.getLast_mem h))
  subst htail_nil
  obtain ⟨before, inside, rfl, hbefore, hinside⟩ := List.sublist_append_iff.1 hstart
  have hbefore_nil : before = [] := by
    by_contra h
    simp only [List.append_nil, List.head_append_of_ne_nil h] at hfirst
    exact hfront (hbefore.subset (List.head_mem h)) hfirst
  subst hbefore_nil
  simpa using hinside

namespace Dom

variable {dom : Dom}

/-- The innermost of the nodes that are around all nodes of a list. -/
structure Innermost (dom : Dom) (nodes : List NodeId) (around : NodeId) : Prop where
  contains : ∀ node ∈ nodes, dom.contains around node = true
  inside : ∀ other, (∀ node ∈ nodes, dom.contains other node = true) →
    dom.contains other around = true

theorem mem_elementsBelow_iff {parent child : NodeId} (wf : dom.WellFormed) :
    child ∈ Strategy.elementsBelow dom parent ↔
      dom.Holds parent child ∧ ∃ tag, dom.tag? child = some tag := by
  rw [Strategy.elementsBelow, List.mem_map, Holds, kids_eq_topIds, ← Forest.map_id_toList,
    List.mem_map]
  have htag {node : Node} (h : node ∈ (dom.children parent).toList) :
      dom.tag? node.id = node.tag? := by
    rw [tag?, (wf.find?_of_mem_children (Forest.mem_nodes_of_mem_toList h)).1]
    rfl
  constructor
  · rintro ⟨node, hnode, rfl⟩
    obtain ⟨hmem, helement⟩ := List.mem_filter.1 hnode
    refine ⟨⟨node, hmem, rfl⟩, ?_⟩
    rw [htag hmem]
    cases node with
    | leaf id content => cases helement
    | element id tag children => exact ⟨tag, rfl⟩
  · rintro ⟨⟨node, hmem, rfl⟩, tag, hnode⟩
    rw [htag hmem] at hnode
    cases node with
    | leaf id content => cases hnode
    | element id tag children => exact ⟨_, List.mem_filter.2 ⟨hmem, rfl⟩, rfl⟩

/-- Only elements have something below them. -/
theorem IsBelow.exists_tag? {outer inner : NodeId} (h : dom.IsBelow outer inner) :
    ∃ tag, dom.tag? outer = some tag := by
  obtain ⟨node, hnode, hin⟩ := isBelow_iff.1 h
  rw [tag?, hnode]
  cases node with
  | leaf id content => cases hin
  | element id tag children => exact ⟨tag, rfl⟩

theorem Sits.has {spot : Spot} (h : dom.Sits spot) : dom.Has spot.id :=
  Forest.id_mem_ids h.mem_nodes

theorem Sits.of_mem_ancestors {spot above : Spot} (h : dom.Sits spot)
    (hmem : above ∈ spot :: spot.ancestors) : dom.Sits above := by
  induction spot with
  | top node =>
    rw [List.mem_singleton.1 hmem]
    exact h
  | inside parent before node after ih =>
    rcases List.mem_cons.1 hmem with rfl | hmem
    · exact h
    · exact ih h.1 hmem

/-- Two nodes or more are told by the spot of the first one and by the last one. -/
theorem commonAncestor?_of_spot {first second : NodeId} {rest : List NodeId} {spot : Spot}
    (h : dom.spot? first = some spot) (hne : first :: second :: rest ≠ []) :
    dom.commonAncestor? (first :: second :: rest) =
      ((spot :: spot.ancestors).find? fun above =>
        dom.contains above.id ((first :: second :: rest).getLast hne)).map Spot.id := by
  have hlast : (first :: second :: rest).getLast hne = (second :: rest).getLastD second := by
    simp only [List.getLast_eq_getLastD, List.getLastD_cons]
  rw [commonAncestor?, h, hlast]
  rfl

namespace WellFormed

variable (wf : dom.WellFormed)

include wf

/-- What a node contains are the members of its tree. -/
theorem contains_iff_mem_ids {node : Node} {inner : NodeId} (hmem : node ∈ dom.roots.nodes)
    (has : dom.Has inner) : dom.contains node.id inner = true ↔ inner ∈ node.ids := by
  have hfind : dom.find? node.id = some node := Forest.find?_of_mem_nodes wf.nodup hmem
  rw [wf.contains_iff has, isBelow_iff, hfind, Node.ids_eq, List.mem_cons, eq_comm]
  simp

/-- The node at a spot is in every node that is around the spot. -/
theorem contains_of_mem_ancestors {spot above : Spot} (hs : dom.Sits spot)
    (h : above ∈ spot :: spot.ancestors) : dom.contains above.id spot.id = true := by
  rcases List.mem_cons.1 h with rfl | h
  · exact (wf.contains_iff hs.has).2 (.inl rfl)
  · exact (wf.contains_iff hs.has).2 (.inr (wf.isBelow_of_mem_ancestors hs h))

/-- On the way up from a spot one gets to a node around another one no later than to any node that is
around both. -/
theorem exists_find?_around {spot : Spot} (hs : dom.Sits spot) {outer inner : NodeId}
    (hspot : dom.contains outer spot.id = true)
    (hinner : dom.contains outer inner = true) :
    ∃ around, (spot :: spot.ancestors).find? (fun above => dom.contains above.id inner) =
        some around ∧ dom.contains outer around.id = true := by
  induction spot with
  | top node =>
    rcases (wf.contains_iff hs.has).1 hspot with heq | hbelow
    · refine ⟨.top node, List.find?_cons_of_pos ?_, hspot⟩
      rwa [← heq]
    · obtain ⟨p, hp, _⟩ := wf.isBelow_cases hbelow
      exact absurd (wf.parent?_eq_some_iff.1 hp) (wf.not_holds_top hs p)
  | inside parent before node after ih =>
    rw [List.find?_cons]
    split
    · exact ⟨_, rfl, hspot⟩
    next hnot =>
    rcases (wf.contains_iff hs.has).1 hspot with heq | hbelow
    · rw [← heq, hinner] at hnot
      cases hnot
    · have hup := (wf.isBelow_iff_of_parent (wf.parent?_eq_some_iff.2 (wf.holds_spot hs))).1 hbelow
      exact ih hs.1 ((wf.contains_iff hs.1.has).2 (hup.imp_left Eq.symm))

/-- What is below a node is in one of its children, and in one only. -/
theorem exists_slide {around inner : NodeId} (h : dom.IsBelow around inner)
    (hinner : ∃ tag, dom.tag? inner = some tag) :
    ∃! slide, slide ∈ Strategy.elementsBelow dom around ∧ dom.contains slide inner = true := by
  have has := h.has_right
  obtain ⟨slide, hholds, hslide⟩ := Relation.TransGen.head'_iff.1 (wf.isBelow_iff_transGen.1 h)
  have hcontains : slide = inner ∨ dom.IsBelow slide inner :=
    (Relation.reflTransGen_iff_eq_or_transGen.1 hslide).imp Eq.symm wf.isBelow_iff_transGen.2
  have htag : ∃ tag, dom.tag? slide = some tag := by
    rcases hcontains with rfl | hbelow
    · exact hinner
    · exact hbelow.exists_tag?
  refine ⟨slide, ⟨(mem_elementsBelow_iff wf).2 ⟨hholds, htag⟩, (wf.contains_iff has).2 hcontains⟩, ?_⟩
  rintro other ⟨hother, hin⟩
  have hsibling := ((mem_elementsBelow_iff wf).1 hother).1
  -- One of two children is never below the other one.
  have hapart {a b : NodeId} (ha : dom.Holds around a) (hb : dom.Holds around b) :
      ¬dom.IsBelow a b := by
    intro hbelow
    rcases (wf.isBelow_iff_of_parent (wf.parent?_eq_some_iff.2 hb)).1 hbelow with heq | hbelow
    · rw [heq] at ha
      exact wf.not_isBelow_self a ha.isBelow
    · exact wf.not_isBelow_self around (wf.isBelow_trans ha.isBelow hbelow)
  rcases (wf.contains_iff has).1 hin with rfl | hin
  · exact (hcontains.resolve_right (hapart hholds hsibling)).symm
  · rcases hcontains with rfl | hcontains
    · exact absurd hin (hapart hsibling hholds)
    · rcases wf.isBelow_total hin hcontains with heq | hlow | hlow
      · exact heq
      · exact absurd hlow (hapart hsibling hholds)
      · exact absurd hlow (hapart hholds hsibling)

/-- What is around the first and the last of some nodes in the order of the page is around all. -/
theorem contains_of_ends {around : Spot} (hs : dom.Sits around) {top : Node}
    (htop : top ∈ dom.roots.toList) {nodes : List NodeId} (hne : nodes ≠ [])
    (horder : nodes.Sublist top.ids) (hfirst : dom.contains around.id (nodes.head hne) = true)
    (hlast : dom.contains around.id (nodes.getLast hne) = true) :
    ∀ node ∈ nodes, dom.contains around.id node = true := by
  have hall : nodes.Sublist dom.roots.ids :=
    horder.trans (Forest.ids_sublist (Forest.mem_nodes_of_mem_toList htop))
  have hiff {inner : NodeId} (h : inner ∈ nodes) :=
    wf.contains_iff_mem_ids hs.mem_nodes (hall.subset h)
  have hpiece : nodes.Sublist around.node.ids :=
    sublist_of_ends wf.nodup (Forest.ids_infix hs.mem_nodes) hall hne
      ((hiff (List.head_mem hne)).1 hfirst) ((hiff (List.getLast_mem hne)).1 hlast)
  exact fun node h => (hiff h).2 (hpiece.subset h)

/-- The innermost node around all of some nodes in the order of the page is found. -/
theorem exists_innermost {top : Node} (htop : top ∈ dom.roots.toList) {nodes : List NodeId}
    (hne : nodes ≠ []) (horder : nodes.Sublist top.ids) :
    ∃ around, dom.commonAncestor? nodes = some around ∧ dom.Innermost nodes around := by
  have hmem := Forest.mem_nodes_of_mem_toList htop
  have hhas : ∀ node ∈ nodes, dom.Has node := fun node h =>
    (horder.trans (Forest.ids_sublist hmem)).subset h
  match nodes, hne with
  | [single], _ =>
    refine ⟨single, rfl, fun node h => ?_, fun other h => h single List.mem_cons_self⟩
    rw [List.mem_singleton.1 h, contains, decide_eq_true rfl, Bool.true_or]
  | first :: second :: rest, hne =>
    obtain ⟨spot, hspot⟩ := exists_spot? (hhas first List.mem_cons_self)
    obtain ⟨hsits, rfl⟩ := sits_of_spot? hspot
    have hup {outer : NodeId}
        (h : ∀ node ∈ spot.id :: second :: rest, dom.contains outer node = true) :=
      wf.exists_find?_around hsits (h _ List.mem_cons_self) (h _ (List.getLast_mem hne))
    obtain ⟨around, hfind, -⟩ := hup fun node h =>
      (wf.contains_iff_mem_ids hmem (hhas node h)).2 (horder.subset h)
    have haround := List.mem_of_find?_eq_some hfind
    have hlast := List.find?_some hfind
    refine ⟨around.id, by rw [commonAncestor?_of_spot hspot hne, hfind]; rfl, ?_, fun other h => ?_⟩
    · exact wf.contains_of_ends (hsits.of_mem_ancestors haround) htop hne horder
        (wf.contains_of_mem_ancestors hsits haround) hlast
    · obtain ⟨found, hfound, hcontains⟩ := hup h
      rw [hfind] at hfound
      cases hfound
      exact hcontains

/-- If there are several nodes, none inside another one, all are below what is around all. -/
theorem isBelow_of_innermost {nodes : List NodeId} {around node : NodeId}
    (h : dom.Innermost nodes around) (hn : nodes.Nodup) (htwo : 2 ≤ nodes.length)
    (hapart : ∀ node ∈ nodes, ∀ other ∈ nodes, dom.contains node other = true → node = other)
    (hnode : node ∈ nodes) (has : dom.Has node) : dom.IsBelow around node := by
  rcases (wf.contains_iff has).1 (h.contains node hnode) with rfl | hbelow
  · have hsame : ∀ other ∈ nodes, other = around := fun other hother =>
      (hapart around hnode other hother (h.contains other hother)).symm
    match nodes, hn, htwo with
    | first :: second :: rest, hn, _ =>
      have hfirst := hsame first List.mem_cons_self
      have hsecond := hsame second (List.mem_cons_of_mem _ List.mem_cons_self)
      exact absurd (hfirst.trans hsecond.symm)
        (fun heq => (List.nodup_cons.1 hn).1 (heq ▸ List.mem_cons_self))
  · exact hbelow

/-- The first and the last of some nodes in the order of the page tell the innermost node around all of
them.  If no node is inside another one, each is in one child of that node only. -/
theorem commonAncestor?_innermost {top : Node} (htop : top ∈ dom.roots.toList)
    {nodes : List NodeId} (hne : nodes ≠ []) (horder : nodes.Sublist top.ids) :
    ∃ around, dom.commonAncestor? nodes = some around ∧ dom.Innermost nodes around ∧
      (2 ≤ nodes.length → (∀ node ∈ nodes, ∃ tag, dom.tag? node = some tag) →
        (∀ node ∈ nodes, ∀ other ∈ nodes, dom.contains node other = true → node = other) →
        ∀ node ∈ nodes, ∃! slide, slide ∈ Strategy.elementsBelow dom around ∧
          dom.contains slide node = true) := by
  obtain ⟨around, haround, hinnermost⟩ := wf.exists_innermost htop hne horder
  refine ⟨around, haround, hinnermost, fun htwo helements hapart node hnode => ?_⟩
  have hall := horder.trans (Forest.ids_sublist (Forest.mem_nodes_of_mem_toList htop))
  exact wf.exists_slide (wf.isBelow_of_innermost hinnermost (wf.nodup.sublist hall) htwo hapart hnode
    (hall.subset hnode)) (helements node hnode)

end WellFormed

/-- Two slides in a division: one with an image in a paragraph, and one with an image and text. -/
def slidesPage : Dom :=
  ⟨.element 0 documentTag (.element 1 ⟨"div", .unspecified, []⟩
    (.element 2 ⟨"div", .unspecified, []⟩
      (.element 3 ⟨"p", .unspecified, []⟩ (.element 4 ⟨"img", .unspecified, []⟩ .nil .nil)
        (.element 5 ⟨"p", .unspecified, []⟩
          (.element 6 ⟨"img", .unspecified, []⟩ .nil (.leaf 7 (.text .plain "x") .nil)) .nil))
      .nil) .nil) .nil, 8, false⟩

/-- The inner division is the innermost node around both images, and each is in one slide. -/
theorem commonAncestor?_innermost_slides :
    slidesPage.WellFormed ∧ slidesPage.document ∈ slidesPage.roots.toList ∧ [4, 6] ≠ [] ∧
      [4, 6].Sublist slidesPage.document.ids ∧
      ∃ around, slidesPage.commonAncestor? [4, 6] = some around ∧
        slidesPage.Innermost [4, 6] around ∧
        ∀ node ∈ [4, 6], ∃! slide, slide ∈ Strategy.elementsBelow slidesPage around ∧
          slidesPage.contains slide node = true := by
  have wf : slidesPage.WellFormed := by decide
  have htop : slidesPage.document ∈ slidesPage.roots.toList := by decide
  have horder : [4, 6].Sublist slidesPage.document.ids := by decide
  obtain ⟨around, haround, hinnermost, hslides⟩ :=
    wf.commonAncestor?_innermost htop (List.cons_ne_nil 4 [6]) horder
  have helements : ∀ node ∈ [4, 6], ∃ tag, slidesPage.tag? node = some tag := fun node h => by
    have himage : ∀ node ∈ [4, 6], slidesPage.tag? node = some ⟨"img", .unspecified, []⟩ := by decide
    exact ⟨_, himage node h⟩
  exact ⟨wf, htop, List.cons_ne_nil 4 [6], horder, around, haround, hinnermost,
    hslides (le_refl 2) helements (by decide)⟩

example : slidesPage.commonAncestor? [4, 6] = some 2 := by
  decide

end Dom

end PageBlocks
