import PageBlocks.Proofs.Dom.Tree
import PageBlocks.Selector.Match
import PageBlocks.Strategy.Finder
/-!
# Spots and nodes

A spot that is taken from a page shows a node of it with its true surroundings: the spot around it
is that of its parent.  What is looked up by way of spots, by selectors above all, is therefore
below the node that the search began at.

## Main results

* `Dom.map_node_spot?` — the spot of an identity shows the node of that identity.
* `Dom.isBelow_of_mem_select` — what a selector finds is below the scope, and is an element.
* `Dom.WellFormed.contains_iff` — containment is being the node or below it.
-/

namespace PageBlocks

namespace Forest

theorem nodes_eq_flatMap (forest : Forest) :
    forest.nodes = forest.toList.flatMap fun node => node :: node.children.nodes := by
  induction forest with
  | nil => rfl
  | leaf id content next ih => rw [nodes, toList, List.flatMap_cons, ih]; rfl
  | element id tag children next _ ih =>
    rw [nodes, toList, List.flatMap_cons, ih, List.cons_append]; rfl

theorem mem_nodes_of_mem_toList {forest : Forest} {node : Node} (h : node ∈ forest.toList) :
    node ∈ forest.nodes := by
  rw [nodes_eq_flatMap, List.mem_flatMap]
  exact ⟨node, h, List.mem_cons_self⟩

theorem id_mem_topIds {forest : Forest} {node : Node} (h : node ∈ forest.toList) :
    node.id ∈ forest.topIds := by
  rw [← map_id_toList]
  exact List.mem_map_of_mem h

/-- The first node of an identity is the first one in document order. -/
theorem find?_eq_find?_nodes (x : NodeId) (forest : Forest) :
    forest.find? x = forest.nodes.find? fun node => decide (node.id = x) := by
  induction forest with
  | nil => rfl
  | leaf id content next ih =>
    rw [find?, nodes, List.find?_cons, ih]
    by_cases h : id = x <;> simp [Node.id, h]
  | element id tag children next ihc ihn =>
    rw [find?, nodes, List.find?_cons, List.find?_append, ihc, ihn]
    by_cases h : id = x <;> simp [Node.id, h]

end Forest

namespace Dom

/-- A spot with its true surroundings. -/
def Sits (dom : Dom) : Spot → Prop
  | .top node => node ∈ dom.roots.toList
  | .inside parent _ node _ => dom.Sits parent ∧ node ∈ parent.node.children.toList

variable {dom : Dom}

private theorem sits_within {parent spot : Spot} {before : List Node} {forest : Forest}
    (hparent : dom.Sits parent) (hrow : ∀ node ∈ forest.toList, node ∈ parent.node.children.toList)
    (h : spot ∈ Spot.within parent before forest) : dom.Sits spot := by
  induction forest generalizing parent before with
  | nil => cases h
  | leaf id content next ih =>
    rcases List.mem_cons.1 h with rfl | h
    · exact ⟨hparent, hrow _ List.mem_cons_self⟩
    · exact ih hparent (fun node hn => hrow node (List.mem_cons_of_mem _ hn)) h
  | element id tag children next ihc ihn =>
    have hhere : dom.Sits (.inside parent before (.element id tag children) next) :=
      ⟨hparent, hrow _ List.mem_cons_self⟩
    rcases List.mem_cons.1 h with rfl | h
    · exact hhere
    · rcases List.mem_append.1 h with h | h
      · exact ihc hhere (fun node hn => hn) h
      · exact ihn hparent (fun node hn => hrow node (List.mem_cons_of_mem _ hn)) h

theorem sits_of_mem_descendants {spot below : Spot} (hs : dom.Sits spot)
    (h : below ∈ spot.descendants) : dom.Sits below :=
  sits_within hs (fun _ hn => hn) h

theorem sits_of_mem_spots {spot : Spot} (h : spot ∈ dom.spots) : dom.Sits spot := by
  obtain ⟨node, hnode, h⟩ := List.mem_flatMap.1 h
  have htop : dom.Sits (.top node) := hnode
  rcases List.mem_cons.1 h with rfl | h
  · exact htop
  · exact sits_of_mem_descendants htop h

theorem sits_of_spot? {id : NodeId} {spot : Spot} (h : dom.spot? id = some spot) :
    dom.Sits spot ∧ spot.id = id :=
  ⟨sits_of_mem_spots (List.mem_of_find?_eq_some h), by simpa using List.find?_some h⟩

theorem Sits.mem_nodes {spot : Spot} (h : dom.Sits spot) : spot.node ∈ dom.roots.nodes := by
  induction spot with
  | top node => exact Forest.mem_nodes_of_mem_toList h
  | inside parent before node after ih =>
    exact Forest.nodes_children_subset (ih h.1) (Forest.mem_nodes_of_mem_toList h.2)

theorem Sits.root {spot : Spot} (h : dom.Sits spot) :
    ∃ node, spot.root = .top node ∧ dom.Sits (.top node) := by
  induction spot with
  | top node => exact ⟨node, rfl, h⟩
  | inside parent before node after ih => exact ih h.1

theorem map_node_spots (dom : Dom) : dom.spots.map Spot.node = dom.roots.nodes := by
  rw [spots, List.map_flatMap, Forest.nodes_eq_flatMap]
  congr 1
  funext node
  rw [List.map_cons, Spot.node_mem_descendants]; rfl

theorem map_id_descendants (spot : Spot) :
    spot.descendants.map Spot.id = spot.node.children.ids := by
  rw [← Forest.map_id_nodes, ← Spot.node_mem_descendants, List.map_map]
  rfl

/-- The spot of an identity shows the node of that identity. -/
theorem map_node_spot? (dom : Dom) (id : NodeId) :
    (dom.spot? id).map Spot.node = dom.find? id := by
  rw [find?, Forest.find?_eq_find?_nodes, ← map_node_spots, List.find?_map]; rfl

theorem exists_spot? {id : NodeId} (h : dom.Has id) : ∃ spot, dom.spot? id = some spot := by
  obtain ⟨node, hnode⟩ := has_iff_find?.1 h
  rw [← map_node_spot?] at hnode
  obtain ⟨spot, hspot, _⟩ := Option.map_eq_some_iff.1 hnode
  exact ⟨spot, hspot⟩

/-! ## What is around a spot -/

namespace WellFormed

variable (wf : dom.WellFormed)

include wf

theorem find?_spot {spot : Spot} (h : dom.Sits spot) : dom.find? spot.id = some spot.node :=
  Forest.find?_of_mem_nodes wf.nodup h.mem_nodes

theorem tag?_spot {spot : Spot} (h : dom.Sits spot) : dom.tag? spot.id = spot.node.tag? := by
  rw [tag?, wf.find?_spot h]; rfl

theorem holds_spot {parent : Spot} {before : List Node} {node : Node} {after : Forest}
    (h : dom.Sits (.inside parent before node after)) : dom.Holds parent.id node.id := by
  rw [Holds, kids, Forest.kids_of_find? (wf.find?_spot h.1)]
  exact Forest.id_mem_topIds h.2

theorem not_holds_top {node : Node} (h : dom.Sits (.top node)) (p : NodeId) :
    ¬dom.Holds p node.id :=
  Forest.notMem_kids_of_mem_topIds wf.nodup (Forest.id_mem_topIds h)

/-- A node below another one is at a spot that has that one among its ancestors. -/
theorem exists_ancestor {spot : Spot} (h : dom.Sits spot) {outer : NodeId}
    (hbelow : dom.IsBelow outer spot.id) : ∃ above ∈ spot.ancestors, above.id = outer := by
  induction spot with
  | top node =>
    obtain ⟨p, hp, _⟩ := wf.isBelow_cases hbelow
    exact absurd (wf.parent?_eq_some_iff.1 hp) (wf.not_holds_top h p)
  | inside parent before node after ih =>
    obtain ⟨p, hp, hcase⟩ := wf.isBelow_cases hbelow
    have heq : p = parent.id := wf.parent_unique (wf.parent?_eq_some_iff.1 hp) (wf.holds_spot h)
    rw [heq] at hcase
    rcases hcase with rfl | hcase
    · exact ⟨parent, List.mem_cons_self, rfl⟩
    · obtain ⟨above, hmem, hid⟩ := ih h.1 hcase
      exact ⟨above, List.mem_cons_of_mem _ hmem, hid⟩

theorem isBelow_of_mem_ancestors {spot above : Spot} (h : dom.Sits spot)
    (hmem : above ∈ spot.ancestors) : dom.IsBelow above.id spot.id := by
  induction spot with
  | top node => cases hmem
  | inside parent before node after ih =>
    have hholds := wf.holds_spot h
    rcases List.mem_cons.1 hmem with rfl | hmem
    · exact hholds.isBelow
    · exact wf.isBelow_of_holds (ih h.1 hmem) hholds

/-- A node contains another one that is the same or below it. -/
theorem contains_iff {outer inner : NodeId} (has : dom.Has inner) :
    dom.contains outer inner = true ↔ outer = inner ∨ dom.IsBelow outer inner := by
  obtain ⟨spot, hspot⟩ := exists_spot? has
  obtain ⟨hsits, hid⟩ := sits_of_spot? hspot
  rw [contains, hspot, Option.any_some, Bool.or_eq_true, decide_eq_true_iff, List.any_eq_true]
  refine or_congr_right ⟨?_, fun h => ?_⟩
  · rintro ⟨above, hmem, habove⟩
    rw [← hid, ← of_decide_eq_true habove]
    exact wf.isBelow_of_mem_ancestors hsits hmem
  · obtain ⟨above, hmem, habove⟩ := wf.exists_ancestor hsits (hid.symm ▸ h)
    exact ⟨above, hmem, decide_eq_true habove⟩

end WellFormed

/-! ## What is found below a node -/

theorem isBelow_of_mem_nodes {scope : NodeId} {node inner : Node} (h : dom.find? scope = some node)
    (hin : inner ∈ node.children.nodes) : dom.IsBelow scope inner.id :=
  isBelow_iff.2 ⟨node, h, Forest.id_mem_ids hin⟩

theorem WellFormed.find?_of_mem_children (wf : dom.WellFormed) {scope : NodeId} {inner : Node}
    (h : inner ∈ (dom.children scope).nodes) :
    dom.find? inner.id = some inner ∧ dom.IsBelow scope inner.id := by
  refine ⟨?_, Forest.id_mem_ids h⟩
  rw [children] at h
  cases hnode : dom.find? scope with
  | none =>
    rw [hnode] at h
    cases h
  | some node =>
    rw [hnode] at h
    exact Forest.find?_of_mem_nodes wf.nodup
      (Forest.nodes_children_subset (Forest.mem_nodes_of_find? hnode) h)

/-- The elements below a node whose tags meet a condition. -/
theorem WellFormed.exists_mem_children_iff (wf : dom.WellFormed) {scope x : NodeId}
    {meets : Tag → Bool} :
    (∃ node ∈ (dom.children scope).nodes, node.tag?.any meets = true ∧ node.id = x) ↔
      dom.IsBelow scope x ∧ ∃ tag, dom.tag? x = some tag ∧ meets tag = true := by
  have htag {node : Node} (h : node ∈ (dom.children scope).nodes) :
      dom.tag? node.id = node.tag? := by
    rw [tag?, (wf.find?_of_mem_children h).1]
    rfl
  constructor
  · rintro ⟨node, hnode, hmeets, rfl⟩
    refine ⟨(wf.find?_of_mem_children hnode).2, ?_⟩
    rw [htag hnode]
    exact (Option.any_eq_true ..).1 hmeets
  · rintro ⟨hbelow, hmeets⟩
    rw [IsBelow, ← Forest.map_id_nodes] at hbelow
    obtain ⟨node, hnode, rfl⟩ := List.mem_map.1 hbelow
    rw [htag hnode] at hmeets
    exact ⟨node, hnode, (Option.any_eq_true ..).2 hmeets, rfl⟩

theorem WellFormed.mem_namedBelow_iff (wf : dom.WellFormed) {scope x : NodeId} {name : String} :
    x ∈ Strategy.namedBelow dom scope name ↔
      dom.IsBelow scope x ∧ ∃ tag, dom.tag? x = some tag ∧ tag.name = name := by
  have hmeets : (∃ node ∈ (dom.children scope).nodes,
      (node.tag?.any fun tag => decide (tag.name = name)) = true ∧ node.id = x) ↔ _ :=
    wf.exists_mem_children_iff
  simp only [decide_eq_true_iff] at hmeets
  rw [← hmeets, Strategy.namedBelow, List.mem_filterMap, children]
  cases dom.find? scope with
  | none => simp [Forest.nodes]
  | some outer =>
    refine exists_congr fun node => ?_
    show node ∈ outer.elements ∧ _ ↔ node ∈ outer.children.nodes ∧ _
    rw [Node.elements, List.mem_filter, Node.descendants, and_assoc]
    refine and_congr_right fun _ => ?_
    cases node with
    | leaf id content => simp [Node.isElement, Node.tag?]
    | element id tag children =>
      show true = true ∧ (if tag.name = name then some id else none) = some x ↔
        decide (tag.name = name) = true ∧ id = x
      by_cases h : tag.name = name <;> simp [h]

theorem isBelow_of_mem_descendants {scope : NodeId} {spot below : Spot}
    (h : dom.spot? scope = some spot) (hin : below ∈ spot.descendants) :
    dom.IsBelow scope below.id := by
  have hnode : dom.find? scope = some spot.node := by
    rw [← map_node_spot?, h]; rfl
  refine isBelow_of_mem_nodes hnode ?_
  rw [← Spot.node_mem_descendants]
  exact List.mem_map_of_mem hin

/-- What a selector finds is below the scope, and is an element. -/
theorem isBelow_of_mem_select (wf : dom.WellFormed) {scope x : NodeId} {selector : Selector}
    (h : x ∈ dom.select scope selector) : dom.IsBelow scope x ∧ ∃ tag, dom.tag? x = some tag := by
  rw [select] at h
  split at h
  · next spot hspot =>
    obtain ⟨below, hbelow, rfl⟩ := List.mem_map.1 h
    obtain ⟨hdesc, hmeets⟩ := List.mem_filter.1 hbelow
    have hsits := sits_of_mem_descendants (sits_of_spot? hspot).1 hdesc
    refine ⟨isBelow_of_mem_descendants hspot hdesc, ?_⟩
    rw [wf.tag?_spot hsits]
    have helement := (Bool.and_eq_true_iff.1 hmeets).1
    rw [Spot.isElement] at helement
    cases hnode : below.node with
    | leaf id content => rw [hnode] at helement; cases helement
    | element id tag children => exact ⟨tag, rfl⟩
  · cases h

theorem isBelow_of_mem_selectText (wf : dom.WellFormed) {scope x : NodeId} {selector : String}
    (h : x ∈ dom.selectText scope selector) :
    dom.IsBelow scope x ∧ ∃ tag, dom.tag? x = some tag := by
  rw [selectText] at h
  split at h
  · exact isBelow_of_mem_select wf h
  · cases h

end Dom

end PageBlocks
