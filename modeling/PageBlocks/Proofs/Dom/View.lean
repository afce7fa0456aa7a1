import Mathlib.Data.List.Nodup
import Mathlib.Data.List.Pairwise
import PageBlocks.Dom.Edit
/-!
# Views of nodes

What there is to say about a page is said by each node on its own: a leaf has its content, and an
element has its tag and the row of its children.  A `View` is just that.  When the identities of a
forest are unique, the views of its nodes tell who holds whom, and `parentOf?` reads it back.

## Main results

* `Forest.ids_perm` — each node is a top-level node or a child, and only once.
* `Forest.find?_of_mem_nodes` — a node is found under its identity.
* `Forest.parentOf?_eq_some_iff` — the element that holds a node is the one that lists it.
* `Forest.eq_of_views` — a forest is told by its top and by the views of its nodes.
-/

namespace PageBlocks

/-- A node on its own: what a leaf holds, or the tag of an element and its row of children. -/
inductive View where
  | leaf (content : Leaf)
  | element (tag : Tag) (kids : List NodeId)
deriving DecidableEq, Repr

/-- The children that a view tells. -/
def View.kids : View → List NodeId
  | leaf _ => []
  | element _ kids => kids

/-- The tag that a view tells. -/
def View.tag? : View → Option Tag
  | leaf _ => none
  | element tag _ => some tag

/-- A view with another row of children. -/
def View.withKids (change : List NodeId → List NodeId) : View → View
  | leaf content => leaf content
  | element tag kids => element tag (change kids)

theorem View.withKids_congr {f g : List NodeId → List NodeId} {view : View}
    (h : f view.kids = g view.kids) : view.withKids f = view.withKids g := by
  cases view with
  | leaf content => rfl
  | element tag kids => exact congrArg (element tag) h

theorem View.withKids_eq_self {f : List NodeId → List NodeId} {view : View}
    (h : f view.kids = view.kids) : view.withKids f = view := by
  cases view with
  | leaf content => rfl
  | element tag kids => exact congrArg (element tag) h

@[simp] theorem View.withKids_withKids (f g : List NodeId → List NodeId) (view : View) :
    (view.withKids f).withKids g = view.withKids fun kids => g (f kids) := by
  cases view <;> rfl

namespace Forest

/-- The identities of the top-level nodes. -/
def topIds : Forest → List NodeId
  | nil => []
  | leaf id _ next => id :: next.topIds
  | element id _ _ next => id :: next.topIds

@[simp] theorem topIds_append (first second : Forest) :
    (first ++ second).topIds = first.topIds ++ second.topIds := by
  induction first with
  | nil => rfl
  | leaf id content next ih => rw [leaf_append, topIds, ih, topIds, List.cons_append]
  | element id tag children next _ ih =>
    rw [element_append, topIds, ih, topIds, List.cons_append]

theorem topIds_subset_ids {forest : Forest} {x : NodeId} (h : x ∈ forest.topIds) :
    x ∈ forest.ids := by
  induction forest with
  | nil => exact h
  | leaf id content next ih =>
    rcases List.mem_cons.1 h with rfl | h
    · exact List.mem_cons_self
    · exact List.mem_cons_of_mem _ (ih h)
  | element id tag children next _ ih =>
    rcases List.mem_cons.1 h with rfl | h
    · exact List.mem_cons_self
    · exact List.mem_cons_of_mem _ (List.mem_append_right _ (ih h))

theorem map_id_toList (forest : Forest) : forest.toList.map Node.id = forest.topIds := by
  induction forest with
  | nil => rfl
  | leaf id content next ih => rw [toList, List.map_cons, ih]; rfl
  | element id tag children next _ ih => rw [toList, List.map_cons, ih]; rfl

end Forest

/-- A node on its own. -/
def Node.view : Node → View
  | .leaf _ content => .leaf content
  | .element _ tag children => .element tag children.topIds

theorem Node.kids_view (node : Node) : node.view.kids = node.children.topIds := by
  cases node <;> rfl

@[simp] theorem Node.ids_eq (node : Node) : node.ids = node.id :: node.children.ids := by
  cases node <;> simp [Node.ids, Node.toForest, Node.consTo, Forest.ids, Node.id, Node.children]

@[simp] theorem Node.topIds_toForest (node : Node) : node.toForest.topIds = [node.id] := by
  cases node <;> rfl

namespace Forest

/-! ## Nodes and identities -/

theorem map_id_nodes (forest : Forest) : forest.nodes.map Node.id = forest.ids := by
  induction forest with
  | nil => rfl
  | leaf id content next ih => rw [nodes, ids, List.map_cons, ih]; rfl
  | element id tag children next ihc ihn =>
    rw [nodes, ids, List.map_cons, List.map_append, ihc, ihn]; rfl

@[simp] theorem nodes_append (first second : Forest) :
    (first ++ second).nodes = first.nodes ++ second.nodes := by
  induction first with
  | nil => rfl
  | leaf id content next ih => simp [nodes, ih]
  | element id tag children next _ ih => simp [nodes, ih]

@[simp] theorem find?_append (x : NodeId) (first second : Forest) :
    (first ++ second).find? x = (first.find? x).or (second.find? x) := by
  induction first with
  | nil => rfl
  | leaf id content next ih =>
    rw [leaf_append, find?, find?, ih]
    split <;> rfl
  | element id tag children next _ ih =>
    rw [element_append, find?, find?, ih, ← Option.or_assoc]
    split <;> rfl

theorem id_of_find? {forest : Forest} {x : NodeId} {node : Node}
    (h : forest.find? x = some node) : node.id = x := by
  induction forest with
  | nil => cases h
  | leaf id content next ih =>
    rw [find?] at h
    split at h
    · next hid => cases h; exact hid
    · exact ih h
  | element id tag children next ihc ihn =>
    rw [find?] at h
    split at h
    · next hid => cases h; exact hid
    · rcases Option.or_eq_some_iff.1 h with h | ⟨_, h⟩
      · exact ihc h
      · exact ihn h

theorem mem_nodes_of_find? {forest : Forest} {x : NodeId} {node : Node}
    (h : forest.find? x = some node) : node ∈ forest.nodes := by
  induction forest with
  | nil => cases h
  | leaf id content next ih =>
    rw [find?] at h
    split at h
    · cases h; exact List.mem_cons_self
    · exact List.mem_cons_of_mem _ (ih h)
  | element id tag children next ihc ihn =>
    rw [find?] at h
    split at h
    · cases h; exact List.mem_cons_self
    · rcases Option.or_eq_some_iff.1 h with h | ⟨_, h⟩
      · exact List.mem_cons_of_mem _ (List.mem_append_left _ (ihc h))
      · exact List.mem_cons_of_mem _ (List.mem_append_right _ (ihn h))

theorem find?_eq_none_iff {forest : Forest} {x : NodeId} :
    forest.find? x = none ↔ x ∉ forest.ids := by
  induction forest with
  | nil => simp [find?, ids]
  | leaf id content next ih =>
    by_cases h : id = x
    · simp [find?, ids, h]
    · simp [find?, ids, h, ih, Ne.symm h]
  | element id tag children next ihc ihn =>
    by_cases h : id = x
    · simp [find?, ids, h]
    · simp [find?, ids, h, ihc, ihn, Ne.symm h]

theorem mem_ids_iff {forest : Forest} {x : NodeId} :
    x ∈ forest.ids ↔ ∃ node, forest.find? x = some node := by
  rw [← Option.isSome_iff_exists, ← Option.ne_none_iff_isSome, Ne, find?_eq_none_iff, not_not]

theorem mem_ids_of_find? {forest : Forest} {x : NodeId} {node : Node}
    (h : forest.find? x = some node) : x ∈ forest.ids :=
  mem_ids_iff.2 ⟨node, h⟩

theorem id_mem_ids {forest : Forest} {node : Node} (h : node ∈ forest.nodes) :
    node.id ∈ forest.ids := by
  rw [← map_id_nodes]
  exact List.mem_map_of_mem h

/-- With unique identities, what is found under the identity of a node is that node. -/
theorem find?_of_mem_nodes {forest : Forest} (hn : forest.ids.Nodup) {node : Node}
    (h : node ∈ forest.nodes) : forest.find? node.id = some node := by
  obtain ⟨other, hother⟩ := mem_ids_iff.1 (id_mem_ids h)
  have hmem : other ∈ forest.nodes := mem_nodes_of_find? hother
  rw [← map_id_nodes] at hn
  rw [hother, List.inj_on_of_nodup_map hn hmem h (id_of_find? hother)]

/-- What a node holds is part of the forest that the node is in. -/
theorem nodes_children_subset {forest : Forest} {node inner : Node} (h : node ∈ forest.nodes)
    (hi : inner ∈ node.children.nodes) : inner ∈ forest.nodes := by
  induction forest with
  | nil => cases h
  | leaf id content next ih =>
    rcases List.mem_cons.1 h with rfl | h
    · cases hi
    · exact List.mem_cons_of_mem _ (ih h)
  | element id tag children next ihc ihn =>
    rcases List.mem_cons.1 h with rfl | h
    · exact List.mem_cons_of_mem _ (List.mem_append_left _ hi)
    · rcases List.mem_append.1 h with h | h
      · exact List.mem_cons_of_mem _ (List.mem_append_left _ (ihc h))
      · exact List.mem_cons_of_mem _ (List.mem_append_right _ (ihn h))

theorem nodes_toForest_subset {forest : Forest} {node inner : Node} (h : node ∈ forest.nodes)
    (hi : inner ∈ node.toForest.nodes) : inner ∈ forest.nodes := by
  cases node with
  | leaf id content =>
    rcases List.mem_singleton.1 hi with rfl
    exact h
  | element id tag children =>
    rcases List.mem_cons.1 hi with rfl | hi
    · exact h
    · rw [nodes, List.append_nil] at hi
      exact nodes_children_subset h hi

theorem ids_sublist {forest : Forest} {node : Node} (h : node ∈ forest.nodes) :
    node.ids.Sublist forest.ids := by
  induction forest with
  | nil => cases h
  | leaf id content next ih =>
    rcases List.mem_cons.1 h with rfl | h
    · rw [Node.ids_eq]
      exact List.Sublist.cons_cons _ (List.nil_sublist _)
    · exact (ih h).trans (List.sublist_cons_self ..)
  | element id tag children next ihc ihn =>
    rcases List.mem_cons.1 h with rfl | h
    · rw [Node.ids_eq]
      exact List.Sublist.cons_cons _ (List.sublist_append_left ..)
    · rcases List.mem_append.1 h with h | h
      · exact ((ihc h).trans (List.sublist_append_left ..)).trans (List.sublist_cons_self ..)
      · exact ((ihn h).trans (List.sublist_append_right ..)).trans (List.sublist_cons_self ..)

/-- No node is inside itself. -/
theorem id_notMem_children {forest : Forest} (hn : forest.ids.Nodup) {node : Node}
    (h : node ∈ forest.nodes) : node.id ∉ node.children.ids := by
  have hnode : node.ids.Nodup := (ids_sublist h).nodup hn
  rw [Node.ids_eq] at hnode
  exact (List.nodup_cons.1 hnode).1

/-! ## Who holds whom -/

/-- The rows of children of all nodes. -/
def rows (forest : Forest) : List NodeId :=
  forest.nodes.flatMap fun node => node.children.topIds

/-- Each node stands once at the top or once in the row of the node that holds it. -/
theorem ids_perm (forest : Forest) : forest.ids.Perm (forest.topIds ++ forest.rows) := by
  induction forest with
  | nil => exact .nil
  | leaf id content next ih => exact ih.cons id
  | element id tag children next ihc ihn =>
    have hrows : (element id tag children next).rows =
        children.topIds ++ (children.rows ++ next.rows) := by
      simp only [rows, nodes, List.flatMap_cons, List.flatMap_append]
      rfl
    rw [hrows, ids, topIds, List.cons_append]
    refine ((ihc.append ihn).trans ?_).cons id
    rw [List.append_assoc]
    refine (List.Perm.append_left _ (List.perm_append_comm_assoc ..)).trans ?_
    exact List.perm_append_comm_assoc ..

/-- The view of the first node with an identity. -/
def view? (forest : Forest) (x : NodeId) : Option View :=
  (forest.find? x).map Node.view

theorem view?_leaf (x id : NodeId) (content : Leaf) (next : Forest) :
    (leaf id content next).view? x = if id = x then some (.leaf content) else next.view? x := by
  rw [view?, find?, apply_ite (Option.map Node.view)]; rfl

theorem view?_element (x id : NodeId) (tag : Tag) (children next : Forest) :
    (element id tag children next).view? x =
      if id = x then some (.element tag children.topIds)
      else (children.view? x).or (next.view? x) := by
  rw [view?, find?, apply_ite (Option.map Node.view)]
  congr 1
  rw [view?, view?]
  cases children.find? x <;> rfl

theorem view?_append (x : NodeId) (first second : Forest) :
    (first ++ second).view? x = (first.view? x).or (second.view? x) := by
  rw [view?, view?, view?, find?_append]
  cases first.find? x <;> rfl

theorem view?_of_notMem {forest : Forest} {x : NodeId} (h : x ∉ forest.ids) :
    forest.view? x = none := by
  rw [view?, find?_eq_none_iff.2 h]; rfl

/-- The children of the first node with an identity. -/
def kids (forest : Forest) (x : NodeId) : List NodeId :=
  ((forest.find? x).map fun node => node.children.topIds).getD []

theorem mem_kids {forest : Forest} {p x : NodeId} :
    x ∈ forest.kids p ↔ ∃ node, forest.find? p = some node ∧ x ∈ node.children.topIds := by
  rw [kids]
  cases forest.find? p with
  | none => simp
  | some node => simp

theorem kids_of_find? {forest : Forest} {p : NodeId} {node : Node}
    (h : forest.find? p = some node) : forest.kids p = node.children.topIds := by
  rw [kids, h]; rfl

theorem kids_eq_view (forest : Forest) (p : NodeId) :
    forest.kids p = ((forest.view? p).map View.kids).getD [] := by
  rw [kids, view?]
  cases forest.find? p with
  | none => rfl
  | some node => exact node.kids_view.symm

theorem kids_subset_ids {forest : Forest} {p x : NodeId} (h : x ∈ forest.kids p) :
    x ∈ forest.ids := by
  obtain ⟨node, hnode, hx⟩ := mem_kids.1 h
  have hsub := ids_sublist (mem_nodes_of_find? hnode)
  rw [Node.ids_eq] at hsub
  exact hsub.subset (List.mem_cons_of_mem _ (topIds_subset_ids hx))

/-- A change of rows that leaves the row of a node as it is leaves its view as it is. -/
theorem map_withKids_eq_self {forest : Forest} {x : NodeId} {f : List NodeId → List NodeId}
    (h : f (forest.kids x) = forest.kids x) :
    (forest.view? x).map (View.withKids f) = forest.view? x := by
  rw [kids_eq_view] at h
  cases hview : forest.view? x with
  | none => rfl
  | some view =>
    rw [hview] at h
    exact congrArg some (View.withKids_eq_self h)

theorem find?_of_view?_element {forest : Forest} {p : NodeId} {tag : Tag} {kids : List NodeId}
    (h : forest.view? p = some (.element tag kids)) :
    ∃ children, forest.find? p = some (.element p tag children) ∧ children.topIds = kids := by
  obtain ⟨node, hnode, hview⟩ := Option.map_eq_some_iff.1 h
  cases node with
  | leaf id content => cases hview
  | element id tag' children =>
    have hid : id = p := id_of_find? hnode
    cases hview
    exact ⟨children, hid ▸ hnode, rfl⟩

theorem mem_kids_of_mem_nodes {forest : Forest} (hn : forest.ids.Nodup) {node : Node} {x : NodeId}
    (h : node ∈ forest.nodes) (hx : x ∈ node.children.topIds) : x ∈ forest.kids node.id :=
  mem_kids.2 ⟨node, find?_of_mem_nodes hn h, hx⟩

theorem kids_nodup {forest : Forest} (hn : forest.ids.Nodup) (p : NodeId) :
    (forest.kids p).Nodup := by
  cases h : forest.find? p with
  | none => rw [kids, h]; exact List.nodup_nil
  | some node =>
    rw [kids_of_find? h]
    have hrows : forest.rows.Nodup := ((ids_perm forest).nodup_iff.1 hn).of_append_right
    exact (List.nodup_flatMap.1 hrows).1 node (mem_nodes_of_find? h)

/-- A node is a child of one element at most. -/
theorem parent_unique {forest : Forest} (hn : forest.ids.Nodup) {p q x : NodeId}
    (hp : x ∈ forest.kids p) (hq : x ∈ forest.kids q) : p = q := by
  obtain ⟨a, ha, hxa⟩ := mem_kids.1 hp
  obtain ⟨b, hb, hxb⟩ := mem_kids.1 hq
  have hrows : forest.rows.Nodup := ((ids_perm forest).nodup_iff.1 hn).of_append_right
  have hpair := (List.nodup_flatMap.1 hrows).2
  by_contra hne
  have hab : a ≠ b := by
    rintro rfl
    exact hne ((id_of_find? ha).symm.trans (id_of_find? hb))
  have hsymm : Std.Symm (Function.onFun List.Disjoint fun node : Node => node.children.topIds) :=
    ⟨fun _ _ h _ ha hb => h hb ha⟩
  exact hpair.forall (mem_nodes_of_find? ha) (mem_nodes_of_find? hb) hab hxa hxb

/-- A node at the top is no child. -/
theorem notMem_kids_of_mem_topIds {forest : Forest} (hn : forest.ids.Nodup) {p x : NodeId}
    (h : x ∈ forest.topIds) : x ∉ forest.kids p := by
  intro hx
  obtain ⟨node, hnode, hx⟩ := mem_kids.1 hx
  have hdis := List.disjoint_of_nodup_append ((ids_perm forest).nodup_iff.1 hn)
  exact hdis h (List.mem_flatMap.2 ⟨node, mem_nodes_of_find? hnode, hx⟩)

theorem any_id_toList (forest : Forest) (x : NodeId) :
    forest.toList.any (·.id == x) = true ↔ x ∈ forest.topIds := by
  rw [← map_id_toList, List.any_eq_true, List.mem_map]
  simp only [beq_iff_eq]

theorem parentOf?_mem {forest : Forest} {x p : NodeId} (h : forest.parentOf? x = some p) :
    ∃ node ∈ forest.nodes, node.id = p ∧ x ∈ node.children.topIds := by
  induction forest with
  | nil => cases h
  | leaf id content next ih =>
    obtain ⟨node, hnode, hp⟩ := ih h
    exact ⟨node, List.mem_cons_of_mem _ hnode, hp⟩
  | element id tag children next ihc ihn =>
    rw [parentOf?] at h
    split at h
    · next hany =>
      cases h
      exact ⟨_, List.mem_cons_self, rfl, (any_id_toList children x).1 hany⟩
    · rcases Option.or_eq_some_iff.1 h with h | ⟨_, h⟩
      · obtain ⟨node, hnode, hp⟩ := ihc h
        exact ⟨node, List.mem_cons_of_mem _ (List.mem_append_left _ hnode), hp⟩
      · obtain ⟨node, hnode, hp⟩ := ihn h
        exact ⟨node, List.mem_cons_of_mem _ (List.mem_append_right _ hnode), hp⟩

theorem exists_parentOf? {forest : Forest} {x : NodeId} {node : Node} (h : node ∈ forest.nodes)
    (hx : x ∈ node.children.topIds) : ∃ p, forest.parentOf? x = some p := by
  induction forest with
  | nil => cases h
  | leaf id content next ih =>
    rcases List.mem_cons.1 h with rfl | h
    · cases hx
    · exact ih h
  | element id tag children next ihc ihn =>
    rw [parentOf?]
    split
    · exact ⟨id, rfl⟩
    · next hany =>
      rcases List.mem_cons.1 h with rfl | h
      · exact absurd ((any_id_toList children x).2 hx) hany
      · rcases List.mem_append.1 h with h | h
        · obtain ⟨p, hp⟩ := ihc h
          exact ⟨p, by rw [hp]; rfl⟩
        · cases hc : children.parentOf? x with
          | some p => exact ⟨p, rfl⟩
          | none => exact ihn h

/-- The element that holds a node is the one whose children list it. -/
theorem parentOf?_eq_some_iff {forest : Forest} (hn : forest.ids.Nodup) {x p : NodeId} :
    forest.parentOf? x = some p ↔ x ∈ forest.kids p := by
  constructor
  · intro h
    obtain ⟨node, hnode, rfl, hx⟩ := parentOf?_mem h
    exact mem_kids_of_mem_nodes hn hnode hx
  · intro h
    obtain ⟨node, hnode, hx⟩ := mem_kids.1 h
    obtain ⟨q, hq⟩ := exists_parentOf? (mem_nodes_of_find? hnode) hx
    obtain ⟨other, hother, rfl, hxo⟩ := parentOf?_mem hq
    rw [hq, parent_unique hn (mem_kids_of_mem_nodes hn hother hxo) h]

/-! ## Forests that show the same -/

/-- A forest is told by its top and by the views of its nodes. -/
theorem eq_of_views (views : NodeId → Option View) {forest other : Forest}
    (hforest : ∀ node ∈ forest.nodes, views node.id = some node.view)
    (hother : ∀ node ∈ other.nodes, views node.id = some node.view)
    (htop : forest.topIds = other.topIds) : forest = other := by
  induction forest generalizing other with
  | nil =>
    cases other with
    | nil => rfl
    | leaf _ _ _ | element _ _ _ _ => cases htop
  | leaf id content next ih =>
    have hview := hforest _ List.mem_cons_self
    cases other with
    | nil => cases htop
    | leaf id' content' next' =>
      have hview' := hother _ List.mem_cons_self
      obtain ⟨rfl, hnext⟩ := List.cons.inj htop
      cases hview.symm.trans hview'
      rw [ih (fun node hn => hforest node (List.mem_cons_of_mem _ hn))
        (fun node hn => hother node (List.mem_cons_of_mem _ hn)) hnext]
    | element id' tag' children' next' =>
      have hview' := hother _ List.mem_cons_self
      obtain ⟨rfl, _⟩ := List.cons.inj htop
      cases hview.symm.trans hview'
  | element id tag children next ihc ihn =>
    have hview := hforest _ List.mem_cons_self
    cases other with
    | nil => cases htop
    | leaf id' content' next' =>
      have hview' := hother _ List.mem_cons_self
      obtain ⟨rfl, _⟩ := List.cons.inj htop
      cases hview.symm.trans hview'
    | element id' tag' children' next' =>
      have hview' := hother _ List.mem_cons_self
      obtain ⟨rfl, hnext⟩ := List.cons.inj htop
      obtain ⟨rfl, hchildren⟩ := View.element.inj (Option.some.inj (hview.symm.trans hview'))
      rw [ihc (fun node hn => hforest node (List.mem_cons_of_mem _ (List.mem_append_left _ hn)))
          (fun node hn => hother node (List.mem_cons_of_mem _ (List.mem_append_left _ hn)))
          hchildren,
        ihn (fun node hn => hforest node (List.mem_cons_of_mem _ (List.mem_append_right _ hn)))
          (fun node hn => hother node (List.mem_cons_of_mem _ (List.mem_append_right _ hn))) hnext]

end Forest

namespace Node

theorem eq_of_view {node other : Node} (hid : node.id = other.id) (hview : node.view = other.view)
    (hchildren : node.children = other.children) : node = other := by
  cases node with
  | leaf id content =>
    cases other with
    | leaf id' content' =>
      cases hid
      cases hview
      rfl
    | element id' tag' children' => cases hview
  | element id tag children =>
    cases other with
    | leaf id' content' => cases hview
    | element id' tag' children' =>
      cases hid
      cases hchildren
      cases hview
      rfl

end Node

end PageBlocks
