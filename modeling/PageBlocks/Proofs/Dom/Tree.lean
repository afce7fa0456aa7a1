import Mathlib.Logic.Relation
import PageBlocks.Proofs.Dom.View
/-!
# Pages as trees

A page is well formed when each identity stands for one node, all of them are below the next
identity to be given, and the document is there.  Then a node is a child of one element at most and
stands once among its children, and going down from child to child never leads back.

## Main results

* `Dom.WellFormed.parent?_eq_some_iff` — the parent of a node is the element that has it as a child.
* `Dom.WellFormed.isBelow_iff_transGen` — what is below a node is what one gets to from child to
  child.
* `Dom.WellFormed.isTree` — a well-formed page is a tree in every respect.
-/

namespace PageBlocks.Dom

/-- A node of a page on its own. -/
def view? (dom : Dom) (id : NodeId) : Option View :=
  dom.roots.view? id

/-- The row of the children of a node. -/
def kids (dom : Dom) (id : NodeId) : List NodeId :=
  dom.roots.kids id

/-- Is a node directly below another one? -/
def Holds (dom : Dom) (parent child : NodeId) : Prop :=
  child ∈ dom.kids parent

/-- Is a node below another one, at any depth? -/
def IsBelow (dom : Dom) (outer inner : NodeId) : Prop :=
  inner ∈ (dom.children outer).ids

/-- Is there a node with an identity? -/
def Has (dom : Dom) (id : NodeId) : Prop :=
  id ∈ dom.roots.ids

instance (dom : Dom) (parent child : NodeId) : Decidable (dom.Holds parent child) :=
  inferInstanceAs (Decidable (child ∈ dom.kids parent))

instance (dom : Dom) (outer inner : NodeId) : Decidable (dom.IsBelow outer inner) :=
  inferInstanceAs (Decidable (inner ∈ (dom.children outer).ids))

instance (dom : Dom) (id : NodeId) : Decidable (dom.Has id) :=
  inferInstanceAs (Decidable (id ∈ dom.roots.ids))

/-- What every page is that a run starts from. -/
structure WellFormed (dom : Dom) : Prop where
  nodup : dom.roots.ids.Nodup
  lt_fresh : ∀ id, dom.Has id → id < dom.fresh
  document : ∃ tag, dom.tag? documentId = some tag

instance (dom : Dom) : Decidable dom.WellFormed :=
  decidable_of_iff (dom.roots.ids.Nodup ∧ (∀ id ∈ dom.roots.ids, id < dom.fresh) ∧
      (dom.tag? documentId).isSome = true)
    ⟨fun ⟨nodup, lt_fresh, document⟩ => ⟨nodup, lt_fresh, Option.isSome_iff_exists.1 document⟩,
      fun wf => ⟨wf.nodup, wf.lt_fresh, Option.isSome_iff_exists.2 wf.document⟩⟩

/-! ## Views and children -/

theorem kids_eq_topIds (dom : Dom) (id : NodeId) : dom.kids id = (dom.children id).topIds := by
  rw [kids, Forest.kids, children, find?]
  cases dom.roots.find? id <;> rfl

theorem kids_eq_view (dom : Dom) (id : NodeId) :
    dom.kids id = ((dom.view? id).map View.kids).getD [] :=
  dom.roots.kids_eq_view id

theorem kids_of_view {dom : Dom} {id : NodeId} {view : View} (h : dom.view? id = some view) :
    dom.kids id = view.kids := by
  rw [kids_eq_view, h]; rfl

theorem has_iff_view {dom : Dom} {id : NodeId} : dom.Has id ↔ ∃ view, dom.view? id = some view := by
  rw [Has, Forest.mem_ids_iff, view?, Forest.view?]
  cases dom.roots.find? id <;> simp

theorem has_iff_find? {dom : Dom} {id : NodeId} : dom.Has id ↔ ∃ node, dom.find? id = some node :=
  Forest.mem_ids_iff

theorem find?_eq_none_iff {dom : Dom} {id : NodeId} : dom.find? id = none ↔ ¬dom.Has id :=
  Forest.find?_eq_none_iff

theorem tag?_eq_view (dom : Dom) (id : NodeId) :
    dom.tag? id = (dom.view? id).bind View.tag? := by
  rw [tag?, view?, Forest.view?, find?]
  cases dom.roots.find? id with
  | none => rfl
  | some node => cases node <;> rfl

theorem tag?_eq_some_iff {dom : Dom} {id : NodeId} {tag : Tag} :
    dom.tag? id = some tag ↔ ∃ kids, dom.view? id = some (.element tag kids) := by
  rw [tag?_eq_view]
  cases dom.view? id with
  | none => simp
  | some view => cases view <;> simp [View.tag?]

theorem has_of_tag? {dom : Dom} {id : NodeId} {tag : Tag} (h : dom.tag? id = some tag) :
    dom.Has id := by
  obtain ⟨kids, hkids⟩ := tag?_eq_some_iff.1 h
  exact has_iff_view.2 ⟨_, hkids⟩

theorem exists_find?_of_tag? {dom : Dom} {id : NodeId} {tag : Tag} (h : dom.tag? id = some tag) :
    ∃ children, dom.find? id = some (.element id tag children) := by
  obtain ⟨kids, hkids⟩ := tag?_eq_some_iff.1 h
  obtain ⟨children, hfind, -⟩ := Forest.find?_of_view?_element hkids
  exact ⟨children, hfind⟩

theorem tag?_of_find? {dom : Dom} {id : NodeId} {tag : Tag} {children : Forest}
    (h : dom.find? id = some (.element id tag children)) : dom.tag? id = some tag := by
  rw [tag?, h]; rfl

theorem Holds.has_left {dom : Dom} {p x : NodeId} (h : dom.Holds p x) : dom.Has p := by
  obtain ⟨node, hnode, _⟩ := Forest.mem_kids.1 h
  exact Forest.mem_ids_of_find? hnode

theorem Holds.isBelow {dom : Dom} {p x : NodeId} (h : dom.Holds p x) : dom.IsBelow p x := by
  rw [Holds, kids_eq_topIds] at h
  exact Forest.topIds_subset_ids h

theorem isBelow_iff {dom : Dom} {outer inner : NodeId} :
    dom.IsBelow outer inner ↔
      ∃ node, dom.find? outer = some node ∧ inner ∈ node.children.ids := by
  rw [IsBelow, children]
  cases dom.find? outer with
  | none => simp [Forest.ids]
  | some node => simp

/-- Nothing is below a leaf. -/
theorem not_isBelow_of_leaf {dom : Dom} {outer inner : NodeId} {content : Leaf}
    (h : dom.view? outer = some (.leaf content)) : ¬dom.IsBelow outer inner := by
  intro hbelow
  obtain ⟨node, hnode, hin⟩ := isBelow_iff.1 hbelow
  have hview : dom.view? outer = some node.view := congrArg (Option.map Node.view) hnode
  rw [h, Option.some.injEq] at hview
  cases node with
  | leaf id other => cases hin
  | element id tag children => cases hview

theorem IsBelow.has_left {dom : Dom} {outer inner : NodeId} (h : dom.IsBelow outer inner) :
    dom.Has outer := by
  obtain ⟨node, hnode, _⟩ := isBelow_iff.1 h
  exact Forest.mem_ids_of_find? hnode

theorem IsBelow.has_right {dom : Dom} {outer inner : NodeId} (h : dom.IsBelow outer inner) :
    dom.Has inner := by
  obtain ⟨node, hnode, hin⟩ := isBelow_iff.1 h
  have hsub := Forest.ids_sublist (Forest.mem_nodes_of_find? hnode)
  rw [Node.ids_eq] at hsub
  exact hsub.subset (List.mem_cons_of_mem _ hin)

theorem Holds.has_right {dom : Dom} {p x : NodeId} (h : dom.Holds p x) : dom.Has x :=
  h.isBelow.has_right

/-! ## Up and down -/

namespace WellFormed

variable {dom : Dom} (wf : dom.WellFormed)

include wf

theorem parent?_eq_some_iff {p x : NodeId} : dom.parent? x = some p ↔ dom.Holds p x :=
  Forest.parentOf?_eq_some_iff wf.nodup

theorem parent_unique {p q x : NodeId} (hp : dom.Holds p x) (hq : dom.Holds q x) : p = q :=
  Forest.parent_unique wf.nodup hp hq

theorem parent?_eq_none_iff {x : NodeId} : dom.parent? x = none ↔ ∀ p, ¬dom.Holds p x := by
  constructor
  · intro h p hp
    rw [wf.parent?_eq_some_iff.2 hp] at h
    cases h
  · intro h
    cases hx : dom.parent? x with
    | none => rfl
    | some p => exact absurd (wf.parent?_eq_some_iff.1 hx) (h p)

/-- From the nodes at the top of a part of the page one gets to all nodes of that part. -/
private theorem reach_of_mem_ids {part : Forest}
    (hpart : ∀ node ∈ part.nodes, node ∈ dom.roots.nodes) {x : NodeId} (h : x ∈ part.ids) :
    ∃ top ∈ part.topIds, Relation.ReflTransGen dom.Holds top x := by
  induction part with
  | nil => cases h
  | leaf id content next ih =>
    rcases List.mem_cons.1 h with rfl | h
    · exact ⟨_, List.mem_cons_self, .refl⟩
    · obtain ⟨top, htop, hx⟩ := ih (fun node hn => hpart node (List.mem_cons_of_mem _ hn)) h
      exact ⟨top, List.mem_cons_of_mem _ htop, hx⟩
  | element id tag children next ihc ihn =>
    rcases List.mem_cons.1 h with rfl | h
    · exact ⟨_, List.mem_cons_self, .refl⟩
    · rcases List.mem_append.1 h with h | h
      · obtain ⟨top, htop, hx⟩ := ihc (fun node hn =>
          hpart node (List.mem_cons_of_mem _ (List.mem_append_left _ hn))) h
        have hself := hpart (.element id tag children) List.mem_cons_self
        have hholds : dom.Holds id top := Forest.mem_kids_of_mem_nodes wf.nodup hself htop
        exact ⟨id, List.mem_cons_self, .head hholds hx⟩
      · obtain ⟨top, htop, hx⟩ := ihn (fun node hn =>
          hpart node (List.mem_cons_of_mem _ (List.mem_append_right _ hn))) h
        exact ⟨top, List.mem_cons_of_mem _ htop, hx⟩

theorem isBelow_of_holds {outer mid inner : NodeId} (h : dom.IsBelow outer mid)
    (hm : dom.Holds mid inner) : dom.IsBelow outer inner := by
  obtain ⟨node, hnode, hin⟩ := isBelow_iff.1 h
  rw [← Forest.map_id_nodes] at hin
  obtain ⟨other, hother, rfl⟩ := List.mem_map.1 hin
  have hmem := Forest.nodes_children_subset (Forest.mem_nodes_of_find? hnode) hother
  have hfind := Forest.find?_of_mem_nodes wf.nodup hmem
  rw [Holds, kids, Forest.kids_of_find? hfind] at hm
  have hsub := Forest.ids_sublist hother
  rw [Node.ids_eq] at hsub
  exact isBelow_iff.2
    ⟨node, hnode, hsub.subset (List.mem_cons_of_mem _ (Forest.topIds_subset_ids hm))⟩

theorem isBelow_iff_transGen {outer inner : NodeId} :
    dom.IsBelow outer inner ↔ Relation.TransGen dom.Holds outer inner := by
  constructor
  · intro h
    obtain ⟨node, hnode, hin⟩ := isBelow_iff.1 h
    have hmem := Forest.mem_nodes_of_find? hnode
    obtain ⟨top, htop, hx⟩ := wf.reach_of_mem_ids
      (fun inner hi => Forest.nodes_children_subset hmem hi) hin
    refine .head' ?_ hx
    rw [Holds, kids, Forest.kids_of_find? hnode]
    exact htop
  · intro h
    induction h with
    | single h => exact h.isBelow
    | tail _ hm ih => exact wf.isBelow_of_holds ih hm

theorem isBelow_trans {outer mid inner : NodeId} (h : dom.IsBelow outer mid)
    (hm : dom.IsBelow mid inner) : dom.IsBelow outer inner := by
  rw [wf.isBelow_iff_transGen] at h hm ⊢
  exact h.trans hm

theorem not_isBelow_self (x : NodeId) : ¬dom.IsBelow x x := by
  intro h
  obtain ⟨node, hnode, hin⟩ := isBelow_iff.1 h
  have hid := Forest.id_of_find? hnode
  rw [← hid] at hin
  exact Forest.id_notMem_children wf.nodup (Forest.mem_nodes_of_find? hnode) hin

/-- What is below a node is a child of it, or its parent is below that node. -/
theorem isBelow_cases {outer inner : NodeId} (h : dom.IsBelow outer inner) :
    ∃ p, dom.parent? inner = some p ∧ (p = outer ∨ dom.IsBelow outer p) := by
  obtain ⟨p, hp, hin⟩ := Relation.TransGen.tail'_iff.1 (wf.isBelow_iff_transGen.1 h)
  refine ⟨p, wf.parent?_eq_some_iff.2 hin, ?_⟩
  rcases Relation.reflTransGen_iff_eq_or_transGen.1 hp with rfl | hp
  · exact .inl rfl
  · exact .inr (wf.isBelow_iff_transGen.2 hp)

theorem isBelow_iff_of_parent {outer inner p : NodeId} (h : dom.parent? inner = some p) :
    dom.IsBelow outer inner ↔ p = outer ∨ dom.IsBelow outer p := by
  have hholds := wf.parent?_eq_some_iff.1 h
  constructor
  · intro hbelow
    obtain ⟨q, hq, hcase⟩ := wf.isBelow_cases hbelow
    rw [h] at hq
    cases hq
    exact hcase
  · rintro (rfl | hbelow)
    · exact hholds.isBelow
    · exact wf.isBelow_of_holds hbelow hholds

/-- What is around a node is the same on two pages on which it and all that is around it have the same
parents. -/
theorem isBelow_iff_of_parents {other : Dom} (wf' : other.WellFormed) {x y : NodeId}
    (hsame : ∀ z, z = x ∨ dom.IsBelow z x → other.parent? z = dom.parent? z) :
    other.IsBelow y x ↔ dom.IsBelow y x := by
  have hholds {p z : NodeId} (hz : z = x ∨ dom.IsBelow z x) :
      other.Holds p z ↔ dom.Holds p z := by
    rw [← wf'.parent?_eq_some_iff, hsame z hz, wf.parent?_eq_some_iff]
  have hup {p z : NodeId} (hp : dom.Holds p z) (hz : z = x ∨ dom.IsBelow z x) :
      dom.IsBelow p x := by
    rcases hz with rfl | hz
    · exact hp.isBelow
    · exact wf.isBelow_trans hp.isBelow hz
  constructor
  · intro h
    have hpath := wf'.isBelow_iff_transGen.1 h
    clear h
    induction hpath using Relation.TransGen.head_induction_on with
    | single hp => exact ((hholds (.inl rfl)).1 hp).isBelow
    | head hp _ ih => exact hup ((hholds (.inr ih)).1 hp) (.inr ih)
  · intro h
    have hpath := wf.isBelow_iff_transGen.1 h
    clear h
    rw [wf'.isBelow_iff_transGen]
    induction hpath using Relation.TransGen.head_induction_on with
    | single hp => exact .single ((hholds (.inl rfl)).2 hp)
    | head hp hrest ih => exact .head ((hholds (.inr (wf.isBelow_iff_transGen.2 hrest))).2 hp) ih

/-- Of two nodes around a third one, one is around the other. -/
theorem isBelow_total {outer other inner : NodeId} (h : dom.IsBelow outer inner)
    (ho : dom.IsBelow other inner) :
    outer = other ∨ dom.IsBelow outer other ∨ dom.IsBelow other outer := by
  have hpath := wf.isBelow_iff_transGen.1 h
  clear h
  induction hpath with
  | single hholds =>
    rcases (wf.isBelow_iff_of_parent (wf.parent?_eq_some_iff.2 hholds)).1 ho with heq | hbelow
    · exact .inl heq
    · exact .inr (.inr hbelow)
  | tail hfirst hholds ih =>
    rcases (wf.isBelow_iff_of_parent (wf.parent?_eq_some_iff.2 hholds)).1 ho with rfl | hbelow
    · exact .inr (.inl (wf.isBelow_iff_transGen.2 hfirst))
    · exact ih hbelow

theorem view?_of_mem_nodes {node : Node} (h : node ∈ dom.roots.nodes) :
    dom.view? node.id = some node.view := by
  rw [view?, Forest.view?, Forest.find?_of_mem_nodes wf.nodup h]; rfl

/-- A tree is found under the identity of its top when the page shows each of its nodes. -/
theorem find?_eq_of_views {node : Node} (hself : dom.view? node.id = some node.view)
    (hbelow : ∀ inner ∈ node.children.nodes, dom.view? inner.id = some inner.view) :
    dom.find? node.id = some node := by
  obtain ⟨other, hother⟩ := has_iff_find?.1 (has_iff_view.2 ⟨_, hself⟩)
  have hothers := Forest.mem_nodes_of_find? hother
  have hid : other.id = node.id := Forest.id_of_find? hother
  have hview : other.view = node.view := by
    rw [← hid, wf.view?_of_mem_nodes hothers] at hself
    exact Option.some.inj hself
  have hchildren : other.children = node.children := by
    refine Forest.eq_of_views dom.view? (fun inner hinner => ?_) hbelow ?_
    · exact wf.view?_of_mem_nodes (Forest.nodes_children_subset hothers hinner)
    · rw [← Node.kids_view, ← Node.kids_view, hview]
  rw [hother, Node.eq_of_view hid hview hchildren]

theorem find?_element_of_views {id : NodeId} {tag : Tag} {children : Forest}
    (hself : dom.view? id = some (.element tag children.topIds))
    (hbelow : ∀ inner ∈ children.nodes, dom.view? inner.id = some inner.view) :
    dom.find? id = some (.element id tag children) := by
  have hfind : dom.find? (Node.element id tag children).id = some (.element id tag children) :=
    wf.find?_eq_of_views hself hbelow
  exact hfind

/-- A tree is the same on two pages that show each of its nodes alike. -/
theorem find?_congr {other : Dom} (wf' : other.WellFormed) {x : NodeId} (has : dom.Has x)
    (h : ∀ y, y = x ∨ dom.IsBelow x y → other.view? y = dom.view? y) :
    other.find? x = dom.find? x := by
  obtain ⟨node, hnode⟩ := has_iff_find?.1 has
  have hmem := Forest.mem_nodes_of_find? hnode
  obtain rfl : node.id = x := Forest.id_of_find? hnode
  rw [hnode]
  refine wf'.find?_eq_of_views ?_ fun inner hinner => ?_
  · rw [h _ (.inl rfl), wf.view?_of_mem_nodes hmem]
  · have hplace : dom.IsBelow node.id inner.id :=
      isBelow_iff.2 ⟨node, hnode, Forest.id_mem_ids hinner⟩
    rw [h _ (.inr hplace), wf.view?_of_mem_nodes (Forest.nodes_children_subset hmem hinner)]

end WellFormed

/-! ## Trees -/

/-- A page whose nodes form trees, with all there is to it. -/
structure IsTree (dom : Dom) : Prop where
  /-- No identity stands at two places. -/
  unique : dom.roots.ids.Nodup
  /-- A node has one parent at most. -/
  parent : ∀ p q x, dom.Holds p x → dom.Holds q x → p = q
  /-- The parent that is looked up is the element whose children list the node. -/
  agree : ∀ p x, dom.parent? x = some p ↔ dom.Holds p x
  /-- No node stands twice among the children of an element. -/
  once : ∀ p, (dom.kids p).Nodup
  /-- Going down never leads back. -/
  acyclic : ∀ x, ¬Relation.TransGen dom.Holds x x
  /-- No node was ever to be moved to a place inside itself. -/
  straight : dom.looped = false

theorem WellFormed.isTree {dom : Dom} (wf : dom.WellFormed) (h : dom.looped = false) :
    dom.IsTree where
  unique := wf.nodup
  parent _ _ _ hp hq := wf.parent_unique hp hq
  agree _ _ := wf.parent?_eq_some_iff
  once p := Forest.kids_nodup wf.nodup p
  acyclic x h := wf.not_isBelow_self x (wf.isBelow_iff_transGen.2 h)
  straight := h

end PageBlocks.Dom
