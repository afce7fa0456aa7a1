import PageBlocks.Proofs.Dom.Cleared
/-!
# Pages without their leaves

The trunk of a page is what is left of it when text and all other leaves are taken away.  To get
from one element to another, by going up, down or sideways, is the same in the page and in its
trunk, as long as one steps on elements only.

## Main results

* `Spot.ancestors_trunk`, `Spot.previous_trunk`, `Spot.following_trunk`, `Spot.descendants_trunk` —
  ways in the trunk are ways in the page.
* `Forest.trunk_prune` — taking out leaves does not change the trunk.
-/

namespace PageBlocks

/-- A forest without its leaves. -/
def Forest.trunk : Forest → Forest
  | nil => nil
  | leaf _ _ next => next.trunk
  | element id tag children next => element id tag children.trunk next.trunk

namespace Node

/-- A node without the leaves below it. -/
def trunk : Node → Node
  | leaf id content => leaf id content
  | element id tag children => element id tag children.trunk

/-- The elements of a row, without the leaves below them. -/
def trunks (nodes : List Node) : List Node :=
  (nodes.filter isElement).map trunk

@[simp] theorem id_trunk (node : Node) : node.trunk.id = node.id := by
  cases node <;> rfl

@[simp] theorem tag?_trunk (node : Node) : node.trunk.tag? = node.tag? := by
  cases node <;> rfl

@[simp] theorem isElement_trunk (node : Node) : node.trunk.isElement = node.isElement := by
  cases node <;> rfl

theorem children_trunk (node : Node) : node.trunk.children = node.children.trunk := by
  cases node <;> rfl

theorem trunks_cons {node : Node} (h : node.isElement = true) (nodes : List Node) :
    trunks (node :: nodes) = node.trunk :: trunks nodes := by
  rw [trunks, List.filter_cons_of_pos h]; rfl

end Node

namespace Forest

theorem toList_trunk (forest : Forest) : forest.trunk.toList = Node.trunks forest.toList := by
  induction forest with
  | nil => rfl
  | leaf id content next ih => exact ih
  | element id tag children next _ ih =>
    rw [trunk, toList, ih, toList, Node.trunks_cons rfl]; rfl

theorem ids_trunk_sublist (forest : Forest) : forest.trunk.ids.Sublist forest.ids := by
  induction forest with
  | nil => exact .slnil
  | leaf id content next ih => exact ih.cons id
  | element id tag children next ihc ihn => exact (ihc.append ihn).cons_cons id

/-- To take out leaves does not change the trunk. -/
theorem trunk_prune {gone : List NodeId} {forest : Forest}
    (h : ∀ node ∈ forest.nodes, node.id ∈ gone → node.isElement = false) :
    (forest.prune gone).trunk = forest.trunk := by
  induction forest with
  | nil => rfl
  | leaf id content next ih =>
    have hnext := ih fun node hn => h node (List.mem_cons_of_mem _ hn)
    rw [prune]
    split
    · exact hnext
    · exact hnext
  | element id tag children next ihc ihn =>
    have hid : id ∉ gone := fun hin => by cases h _ List.mem_cons_self hin
    rw [prune, if_neg hid, trunk, trunk,
      ihc fun node hn => h node (List.mem_cons_of_mem _ (List.mem_append_left _ hn)),
      ihn fun node hn => h node (List.mem_cons_of_mem _ (List.mem_append_right _ hn))]

end Forest

theorem Node.trunk_prune {gone : List NodeId} {node : Node}
    (h : ∀ inner ∈ node.children.nodes, inner.id ∈ gone → inner.isElement = false) :
    (node.prune gone).trunk = node.trunk := by
  cases node with
  | leaf id content => rfl
  | element id tag children => exact congrArg (Node.element id tag) (Forest.trunk_prune h)

theorem Node.elementChildren_trunk (node : Node) :
    node.trunk.elementChildren = node.elementChildren.map trunk := by
  rw [elementChildren, children_trunk, Forest.toList_trunk, trunks, List.filter_map, List.filter_filter]
  simp only [Function.comp_apply, isElement_trunk, Bool.and_self]
  rfl

namespace Spot

/-- A spot in the trunk of a page. -/
def trunk : Spot → Spot
  | top node => top node.trunk
  | inside parent before node after =>
    inside parent.trunk (Node.trunks before) node.trunk after.trunk

/-- The elements among spots, in the trunk of the page. -/
def trunks (spots : List Spot) : List Spot :=
  (spots.filter isElement).map trunk

@[simp] theorem node_trunk (spot : Spot) : spot.trunk.node = spot.node.trunk := by
  cases spot <;> rfl

@[simp] theorem id_trunk (spot : Spot) : spot.trunk.id = spot.id := by
  rw [id, node_trunk, Node.id_trunk]; rfl

@[simp] theorem isElement_trunk (spot : Spot) : spot.trunk.isElement = spot.isElement := by
  rw [isElement, node_trunk, Node.isElement_trunk]; rfl

theorem root_trunk (spot : Spot) : spot.trunk.root = spot.root.trunk := by
  induction spot with
  | top node => rfl
  | inside parent before node after ih => exact ih

/-! ## Ways in the trunk -/

theorem trunks_cons_element {spot : Spot} (h : spot.isElement = true) (spots : List Spot) :
    trunks (spot :: spots) = spot.trunk :: trunks spots := by
  rw [trunks, List.filter_cons_of_pos h]; rfl

theorem trunks_cons_leaf {spot : Spot} (h : spot.isElement = false) (spots : List Spot) :
    trunks (spot :: spots) = trunks spots := by
  rw [trunks, List.filter_cons_of_neg (by rw [h]; exact Bool.false_ne_true)]; rfl

theorem filter_trunks (spots : List Spot) :
    (trunks spots).filter isElement = (spots.filter isElement).map trunk := by
  rw [trunks, List.filter_map, List.filter_filter]
  simp only [Function.comp_apply, isElement_trunk, Bool.and_self]

theorem ancestors_trunk (spot : Spot) : spot.trunk.ancestors = spot.ancestors.map trunk := by
  induction spot with
  | top node => rfl
  | inside parent before node after ih => exact congrArg (parent.trunk :: ·) ih

theorem parent?_trunk (spot : Spot) : spot.trunk.parent? = spot.parent?.map trunk := by
  cases spot <;> rfl

private theorem leftOf_trunk (parent : Spot) (before : List Node) (after : Forest) :
    leftOf parent.trunk (Node.trunks before) after.trunk = trunks (leftOf parent before after) := by
  induction before generalizing after with
  | nil => rfl
  | cons node before ih =>
    cases node with
    | leaf id content =>
      rw [leftOf, trunks_cons_leaf rfl]
      exact ih (.leaf id content after)
    | element id tag children =>
      rw [leftOf, trunks_cons_element rfl, Node.trunks_cons rfl, leftOf]
      exact congrArg (_ :: ·) (ih (.element id tag children after))

private theorem rowOf_trunk (parent : Spot) (before : List Node) (forest : Forest) :
    rowOf parent.trunk (Node.trunks before) forest.trunk = trunks (rowOf parent before forest) := by
  induction forest generalizing before with
  | nil => rfl
  | leaf id content next ih =>
    rw [rowOf, trunks_cons_leaf rfl]
    exact ih (.leaf id content :: before)
  | element id tag children next _ ih =>
    rw [rowOf, trunks_cons_element rfl, Forest.trunk, rowOf]
    exact congrArg (_ :: ·) (ih (.element id tag children :: before))

private theorem within_trunk (parent : Spot) (before : List Node) (forest : Forest) :
    within parent.trunk (Node.trunks before) forest.trunk =
      trunks (within parent before forest) := by
  induction forest generalizing parent before with
  | nil => rfl
  | leaf id content next ih =>
    rw [within, trunks_cons_leaf rfl]
    exact ih parent (.leaf id content :: before)
  | element id tag children next ihc ihn =>
    have hhere := ihc (.inside parent before (.element id tag children) next) []
    have hnext := ihn parent (.element id tag children :: before)
    rw [within, trunks_cons_element rfl, trunks, List.filter_append, List.map_append, ← trunks,
      ← trunks, ← hhere, ← hnext]
    rfl

theorem previous_trunk {spot : Spot} (h : spot.isElement = true) :
    spot.trunk.previous = trunks spot.previous := by
  cases spot with
  | top node => rfl
  | inside parent before node after =>
    have hrow : node.trunk.consTo after.trunk = (node.consTo after).trunk := by
      cases node with
      | leaf id content => cases h
      | element id tag children => rfl
    rw [trunk, previous, hrow]
    exact leftOf_trunk parent before (node.consTo after)

theorem following_trunk {spot : Spot} (h : spot.isElement = true) :
    spot.trunk.following = trunks spot.following := by
  cases spot with
  | top node => rfl
  | inside parent before node after =>
    have hrow : Node.trunks (node :: before) = node.trunk :: Node.trunks before :=
      Node.trunks_cons h before
    rw [trunk, following, ← hrow]
    exact rowOf_trunk parent (node :: before) after

theorem children_trunk (spot : Spot) : spot.trunk.children = trunks spot.children := by
  rw [children, node_trunk, Node.children_trunk]
  exact rowOf_trunk spot [] spot.node.children

theorem descendants_trunk (spot : Spot) : spot.trunk.descendants = trunks spot.descendants := by
  rw [descendants, node_trunk, Node.children_trunk]
  exact within_trunk spot [] spot.node.children

/-! ## Spots of elements -/

/-- Is there an element at a spot, and at each spot around it? -/
def IsUpright : Spot → Prop
  | top node => node.isElement = true
  | inside parent _ node _ => parent.IsUpright ∧ node.isElement = true

namespace IsUpright

variable {spot other : Spot}

theorem isElement (h : spot.IsUpright) : spot.isElement = true := by
  cases spot with
  | top node => exact h
  | inside parent before node after => exact h.2

theorem of_mem_ancestors (h : spot.IsUpright) (ho : other ∈ spot.ancestors) : other.IsUpright := by
  induction spot with
  | top node => cases ho
  | inside parent before node after ih =>
    rcases List.mem_cons.1 ho with rfl | ho
    · exact h.1
    · exact ih h.1 ho

theorem of_mem_parent (h : spot.IsUpright) (ho : other ∈ spot.parent?.toList) :
    other.IsUpright := by
  cases spot with
  | top node => cases ho
  | inside parent before node after =>
    rw [List.mem_singleton.1 ho]
    exact h.1

private theorem of_mem_leftOf {parent : Spot} {before : List Node} {after : Forest}
    (h : parent.IsUpright) (ho : other ∈ leftOf parent before after)
    (helement : other.isElement = true) : other.IsUpright := by
  induction before generalizing after with
  | nil => cases ho
  | cons node before ih =>
    rcases List.mem_cons.1 ho with rfl | ho
    · exact ⟨h, helement⟩
    · exact ih ho

private theorem of_mem_rowOf {parent : Spot} {before : List Node} {forest : Forest}
    (h : parent.IsUpright) (ho : other ∈ rowOf parent before forest)
    (helement : other.isElement = true) : other.IsUpright := by
  induction forest generalizing before with
  | nil => cases ho
  | leaf id content next ih | element id tag children next _ ih =>
    rcases List.mem_cons.1 ho with rfl | ho
    · exact ⟨h, helement⟩
    · exact ih ho

private theorem of_mem_within {parent : Spot} {before : List Node} {forest : Forest}
    (h : parent.IsUpright) (ho : other ∈ within parent before forest)
    (helement : other.isElement = true) : other.IsUpright := by
  induction forest generalizing parent before with
  | nil => cases ho
  | leaf id content next ih =>
    rcases List.mem_cons.1 ho with rfl | ho
    · exact ⟨h, helement⟩
    · exact ih h ho
  | element id tag children next ihc ihn =>
    have hhere : (inside parent before (.element id tag children) next).IsUpright := ⟨h, rfl⟩
    rcases List.mem_cons.1 ho with rfl | ho
    · exact hhere
    · rcases List.mem_append.1 ho with ho | ho
      · exact ihc hhere ho
      · exact ihn h ho

theorem of_mem_previous (h : spot.IsUpright) (ho : other ∈ spot.previous.filter Spot.isElement) :
    other.IsUpright := by
  obtain ⟨hmem, helement⟩ := List.mem_filter.1 ho
  cases spot with
  | top node => cases hmem
  | inside parent before node after => exact of_mem_leftOf h.1 hmem helement

theorem of_mem_following (h : spot.IsUpright) (ho : other ∈ spot.following.filter Spot.isElement) :
    other.IsUpright := by
  obtain ⟨hmem, helement⟩ := List.mem_filter.1 ho
  cases spot with
  | top node => cases hmem
  | inside parent before node after => exact of_mem_rowOf h.1 hmem helement

theorem of_mem_children (h : spot.IsUpright) (ho : other ∈ spot.elementChildren) :
    other.IsUpright := by
  obtain ⟨hmem, helement⟩ := List.mem_filter.1 ho
  exact of_mem_rowOf h hmem helement

theorem of_mem_descendants (h : spot.IsUpright)
    (ho : other ∈ spot.descendants.filter Spot.isElement) : other.IsUpright := by
  obtain ⟨hmem, helement⟩ := List.mem_filter.1 ho
  exact of_mem_within h hmem helement

end IsUpright

/-- The spots of the elements of a tree are spots of its trunk. -/
theorem trunk_mem {spot : Spot} {node : Node} (h : spot ∈ top node :: (top node).descendants)
    (helement : spot.isElement = true) :
    spot.trunk ∈ top node.trunk :: (top node.trunk).descendants := by
  rcases List.mem_cons.1 h with rfl | h
  · exact List.mem_cons_self
  · have hways : (top node.trunk).descendants = trunks (top node).descendants :=
      descendants_trunk (top node)
    rw [hways]
    exact List.mem_cons_of_mem _ (List.mem_map_of_mem (List.mem_filter.2 ⟨h, helement⟩))

end Spot

namespace Dom

variable {dom : Dom}

/-- What is around a node of a page are elements. -/
theorem Sits.isUpright {spot : Spot} (h : dom.Sits spot) (helement : spot.isElement = true) :
    spot.IsUpright := by
  induction spot with
  | top node => exact helement
  | inside parent before node after ih =>
    refine ⟨ih h.1 ?_, helement⟩
    have hheld := h.2
    rw [Spot.isElement]
    cases hnode : parent.node with
    | leaf id content =>
      rw [hnode] at hheld
      cases hheld
    | element id tag children => rfl

end Dom

end PageBlocks
