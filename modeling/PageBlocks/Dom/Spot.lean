import PageBlocks.Dom.Edit
/-!
# Spots in a page

A node on its own does not tell where it is.  A `Spot` is a node together with its surroundings:
the siblings on both sides and the spot of the element that holds it.  From a spot one can look up,
down and sideways, and none of this changes the page.

## Main results

* `Spot.node_mem_descendants` — the spots below a spot are those of the nodes below its node.
* `Spot.ancestors_inside` — the ancestors of a node are its holder and the ancestors of that.
-/

namespace PageBlocks

/-- A node with its surroundings. -/
inductive Spot where
  /-- A node that nothing holds. -/
  | top (node : Node)
  /-- A node below `parent`; `before` lists the siblings in front of it, the nearest first. -/
  | inside (parent : Spot) (before : List Node) (node : Node) (after : Forest)
deriving Repr

namespace Spot

/-- The node at a spot. -/
def node : Spot → Node
  | top node => node
  | inside _ _ node _ => node

/-- The identity of the node at a spot. -/
def id (spot : Spot) : NodeId :=
  spot.node.id

/-- The spot of the element that holds the node. -/
def parent? : Spot → Option Spot
  | top _ => none
  | inside parent .. => some parent

/-- The spots of the elements around a node, the nearest first. -/
def ancestors : Spot → List Spot
  | top _ => []
  | inside parent .. => parent :: parent.ancestors

theorem ancestors_inside (parent : Spot) (before : List Node) (node : Node) (after : Forest) :
    (inside parent before node after).ancestors = parent :: parent.ancestors := rfl

/-- The spot of the node at the very top. -/
def root : Spot → Spot
  | top node => top node
  | inside parent .. => parent.root

/-! ## Sideways -/

/-- Walks to the left through the siblings in front. -/
def leftOf (parent : Spot) : (before : List Node) → (after : Forest) → List Spot
  | [], _ => []
  | node :: before, after =>
    inside parent before node after :: leftOf parent before (node.consTo after)

/-- The spots of the siblings in front, the nearest first. -/
def previous : Spot → List Spot
  | top _ => []
  | inside parent before node after => leftOf parent before (node.consTo after)

/-- The spots of a row of siblings, given what is in front of them. -/
def rowOf (parent : Spot) : (before : List Node) → Forest → List Spot
  | _, .nil => []
  | before, .leaf id content next =>
    inside parent before (.leaf id content) next ::
      rowOf parent (.leaf id content :: before) next
  | before, .element id tag children next =>
    inside parent before (.element id tag children) next ::
      rowOf parent (.element id tag children :: before) next

/-- The spots of the siblings behind, the nearest first. -/
def following : Spot → List Spot
  | top _ => []
  | inside parent before node after => rowOf parent (node :: before) after

/-! ## Down -/

/-- The spots of the nodes directly below. -/
def children (spot : Spot) : List Spot :=
  rowOf spot [] spot.node.children

/-- The spots of a row of siblings and of everything below each of them, in document order. -/
def within (parent : Spot) (before : List Node) : Forest → List Spot
  | .nil => []
  | .leaf id content next =>
    inside parent before (.leaf id content) next ::
      within parent (.leaf id content :: before) next
  | .element id tag children next =>
    let here := inside parent before (.element id tag children) next
    here :: (within here [] children ++ within parent (.element id tag children :: before) next)

/-- The spots of all nodes below, in document order. -/
def descendants (spot : Spot) : List Spot :=
  within spot [] spot.node.children

theorem map_node_within (parent : Spot) (before : List Node) (forest : Forest) :
    (within parent before forest).map node = forest.nodes := by
  induction forest generalizing parent before with
  | nil => rfl
  | leaf id content next ih => simp [within, Forest.nodes, node, ih]
  | element id tag children next ihc ihn => simp [within, Forest.nodes, node, ihc, ihn]

theorem node_mem_descendants (spot : Spot) :
    spot.descendants.map node = spot.node.children.nodes :=
  map_node_within ..

/-- Is the node an element? -/
def isElement (spot : Spot) : Bool :=
  spot.node.isElement

/-- The children that are elements. -/
def elementChildren (spot : Spot) : List Spot :=
  spot.children.filter isElement

end Spot

/-- The spots of the top-level nodes of a page and of everything below them. -/
def Dom.spots (dom : Dom) : List Spot :=
  dom.roots.toList.flatMap fun node => .top node :: (Spot.top node).descendants

/-- The spot of a node. -/
def Dom.spot? (dom : Dom) (id : NodeId) : Option Spot :=
  dom.spots.find? (·.id = id)

end PageBlocks
