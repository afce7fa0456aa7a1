import PageBlocks.Proofs.Dom.Substitute
import PageBlocks.Proofs.Dom.Tree
/-!
# Moving nodes

To take a node out, to put it at the start or the end of an element and to put it in front of
another node are all rearrangements: the same nodes are there afterwards, with the same tags and
contents, and only the rows of children differ.  Each move is described by what becomes of the row
of each node, and what all of them keep is proved once.

## Main results

* `Dom.Rearranges.wellFormed` — a rearranged page is well formed.
* `Dom.rearranges_detach`, `Dom.rearranges_append`, `Dom.rearranges_prepend`,
  `Dom.rearranges_insertBefore`, `Dom.rearranges_replaceWith` — what each move makes of the rows.
-/

namespace PageBlocks.Dom

/-- A page that has the same nodes as another one, with other rows of children. -/
structure Rearranges (before after : Dom) (rows : NodeId → List NodeId → List NodeId) : Prop where
  ids : after.roots.ids.Perm before.roots.ids
  fresh : after.fresh = before.fresh
  looped : after.looped = before.looped
  view : ∀ x, after.view? x = (before.view? x).map (View.withKids (rows x))

namespace Rearranges

variable {before after : Dom} {rows : NodeId → List NodeId → List NodeId}
  (h : Rearranges before after rows)

include h

theorem has_iff (x : NodeId) : after.Has x ↔ before.Has x :=
  h.ids.mem_iff

theorem tag? (x : NodeId) : after.tag? x = before.tag? x := by
  have hview := h.view x
  rw [tag?_eq_view, tag?_eq_view, hview]
  cases before.view? x with
  | none => rfl
  | some view => cases view <;> rfl

theorem kids {x : NodeId} (hx : rows x [] = []) : after.kids x = rows x (before.kids x) := by
  rw [kids_eq_view, kids_eq_view, h.view x]
  cases before.view? x with
  | none => exact hx.symm
  | some view =>
    cases view with
    | leaf content => exact hx.symm
    | element tag kids => rfl

theorem kids_of_tag {x : NodeId} {tag : Tag} (hx : before.tag? x = some tag) :
    after.kids x = rows x (before.kids x) := by
  obtain ⟨kids, hkids⟩ := tag?_eq_some_iff.1 hx
  rw [kids_eq_view, kids_eq_view, h.view x, hkids]; rfl

theorem wellFormed (wf : before.WellFormed) : after.WellFormed where
  nodup := h.ids.nodup_iff.2 wf.nodup
  lt_fresh id hid := h.fresh ▸ wf.lt_fresh id ((h.has_iff id).1 hid)
  document := by
    rw [h.tag?]
    exact wf.document

end Rearranges

/-- A page is a rearrangement of itself. -/
theorem Rearranges.refl {dom : Dom} {rows : NodeId → List NodeId → List NodeId}
    (h : ∀ x, rows x (dom.kids x) = dom.kids x) : Rearranges dom dom rows where
  ids := .refl _
  fresh := rfl
  looped := rfl
  view x := (Forest.map_withKids_eq_self (h x)).symm

theorem Rearranges.trans {before mid after : Dom} {rows more : NodeId → List NodeId → List NodeId}
    (h : Rearranges before mid rows) (h' : Rearranges mid after more) :
    Rearranges before after fun x kids => more x (rows x kids) where
  ids := h'.ids.trans h.ids
  fresh := h'.fresh.trans h.fresh
  looped := h'.looped.trans h.looped
  view x := by
    rw [h'.view, h.view, Option.map_map]
    congr 1
    funext view
    exact View.withKids_withKids _ _ view

/-! ## Taking a node out -/

section

variable {dom : Dom} {c : NodeId} {node : Node}

theorem mem_ids_iff_isBelow (hc : dom.find? c = some node) {x : NodeId} :
    x ∈ node.ids ↔ x = c ∨ dom.IsBelow c x := by
  rw [Node.ids_eq, List.mem_cons, Forest.id_of_find? hc, isBelow_iff]
  refine or_congr_right ⟨fun h => ⟨node, hc, h⟩, ?_⟩
  rintro ⟨other, hother, h⟩
  rw [hc] at hother
  cases hother
  exact h

variable (wf : dom.WellFormed) (hc : dom.find? c = some node)

include wf hc

/-- A node does not stand in the row of a node inside it. -/
theorem notMem_kids_inside {x : NodeId} (hx : x ∈ node.ids) : c ∉ dom.kids x := by
  intro hin
  rcases (mem_ids_iff_isBelow hc).1 hx with rfl | hx
  · exact wf.not_isBelow_self x (Holds.isBelow hin)
  · exact wf.not_isBelow_self c (wf.isBelow_of_holds hx hin)

/-- What is inside a node keeps its view wherever the node is put. -/
theorem view?_inside {after : Forest} (hn : after.ids.Nodup)
    (hnodes : ∀ inner ∈ node.toForest.nodes, inner ∈ after.nodes) {x : NodeId}
    (hx : x ∈ node.ids) : after.view? x = dom.view? x := by
  obtain ⟨inner, hinner⟩ := Forest.mem_ids_iff.1 hx
  have hid := Forest.id_of_find? hinner
  have hmem := Forest.mem_nodes_of_find? hinner
  have hroots : inner ∈ dom.roots.nodes :=
    Forest.nodes_toForest_subset (Forest.mem_nodes_of_find? hc) hmem
  rw [view?, Forest.view?, Forest.view?, ← hid, Forest.find?_of_mem_nodes hn (hnodes inner hmem),
    Forest.find?_of_mem_nodes wf.nodup hroots]

theorem view?_erase {x : NodeId} (hx : x ∉ node.ids) :
    (dom.roots.erase c).view? x = (dom.view? x).map (View.withKids (swap c [])) := by
  refine Forest.view?_substitute _ wf.nodup hc ?_
  rw [Forest.view?_of_notMem hx]; rfl

theorem nodup_erase : (node.ids ++ (dom.roots.erase c).ids).Nodup :=
  (Forest.ids_erase_perm wf.nodup hc).nodup_iff.1 wf.nodup

end

theorem rearranges_detach {dom : Dom} (wf : dom.WellFormed) (c : NodeId) :
    Rearranges dom (dom.detach c) fun _ => swap c [] := by
  cases hp : dom.parent? c with
  | none =>
    have hnone := wf.parent?_eq_none_iff.1 hp
    rw [detach, hp]
    exact .refl fun x => swap_of_notMem (hnone x)
  | some p =>
    have hhas := (wf.parent?_eq_some_iff.1 hp).has_right
    obtain ⟨node, hc⟩ := has_iff_find?.1 hhas
    have heq : dom.detach c =
        { dom with roots := dom.roots.erase c ++ node.toForest } := by
      rw [detach, take, hp, hc]; rfl
    have hperm : (dom.roots.erase c ++ node.toForest).ids.Perm dom.roots.ids := by
      rw [Forest.ids_append]
      exact List.perm_append_comm.trans (Forest.ids_erase_perm wf.nodup hc).symm
    rw [heq]
    refine ⟨hperm, rfl, rfl, fun x => ?_⟩
    by_cases hx : x ∈ node.ids
    · have hkeep : (dom.view? x).map (View.withKids (swap c [])) = dom.view? x :=
        Forest.map_withKids_eq_self (swap_of_notMem (notMem_kids_inside wf hc hx))
      refine (view?_inside wf hc (hperm.nodup_iff.2 wf.nodup) ?_ hx).trans hkeep.symm
      intro inner hinner
      rw [Forest.nodes_append]
      exact List.mem_append_right _ hinner
    · rw [view?, Forest.view?_append, view?_erase wf hc hx, Forest.view?_of_notMem hx, Option.or_none]

/-! ## Putting a node somewhere else -/

section

variable {dom : Dom} {c p : NodeId} {node : Node} (put : Node → Forest → Forest)
  (wf : dom.WellFormed) (hc : dom.find? c = some node) (hp : dom.Has p) (hin : p ∉ node.ids)

include wf hc hp hin

theorem move_eq : dom.move c p put = { dom with roots := put node (dom.roots.erase c) } := by
  have hmem : p ∈ (dom.roots.erase c).ids := by
    have hperm := (Forest.ids_erase_perm wf.nodup hc).mem_iff.1 hp
    exact (List.mem_append.1 hperm).resolve_left hin
  obtain ⟨place, hplace⟩ := Forest.mem_ids_iff.1 hmem
  have hsome : ((dom.roots.erase c).find? p).isSome = true := by rw [hplace]; rfl
  rw [move, take, hc]
  exact if_pos hsome

/-- A move rearranges the page when what is put in is the node and nothing else, and when all rows
outside the node become what is told. -/
theorem rearranges_move (rows : NodeId → List NodeId → List NodeId)
    (hids : (put node (dom.roots.erase c)).ids.Perm (node.ids ++ (dom.roots.erase c).ids))
    (hnodes : ∀ inner ∈ node.toForest.nodes, inner ∈ (put node (dom.roots.erase c)).nodes)
    (hview : ∀ x, x ∉ node.ids → (put node (dom.roots.erase c)).view? x =
      ((dom.roots.erase c).view? x).map (View.withKids (rows x)))
    (hrows : ∀ x ∈ node.ids, rows x (dom.kids x) = dom.kids x) :
    Rearranges dom (dom.move c p put) fun x kids => rows x (swap c [] kids) := by
  have hperm : (put node (dom.roots.erase c)).ids.Perm dom.roots.ids :=
    hids.trans (Forest.ids_erase_perm wf.nodup hc).symm
  rw [move_eq put wf hc hp hin]
  refine ⟨hperm, rfl, rfl, fun x => ?_⟩
  by_cases hx : x ∈ node.ids
  · have hself : rows x (swap c [] (dom.kids x)) = dom.kids x := by
      rw [swap_of_notMem (notMem_kids_inside wf hc hx), hrows x hx]
    have hkeep : (dom.view? x).map (View.withKids fun kids => rows x (swap c [] kids)) =
        dom.view? x := Forest.map_withKids_eq_self hself
    exact (view?_inside wf hc (hperm.nodup_iff.2 wf.nodup) hnodes hx).trans hkeep.symm
  · refine (hview x hx).trans ?_
    rw [view?_erase wf hc hx, Option.map_map]
    congr 1
    funext view
    exact View.withKids_withKids _ _ view

end

section

variable {dom : Dom} {c p : NodeId} {tag : Tag}
  (wf : dom.WellFormed) (hc : dom.Has c) (hp : dom.tag? p = some tag)
  (hpc : p ≠ c) (hin : ¬dom.IsBelow c p)

include wf hc hp hpc hin

/-- A move into an element, to any place among its children. -/
private theorem rearranges_into (join : Forest → Forest → Forest)
    (arrange : List NodeId → List NodeId)
    (hnodes : ∀ new children, (join new children).nodes.Perm (new.nodes ++ children.nodes))
    (hview : ∀ new children x, x ∉ new.ids → (join new children).view? x = children.view? x)
    (htop : ∀ new children, new.topIds = [c] →
      (join new children).topIds = arrange children.topIds) :
    Rearranges dom
      (dom.move c p fun node => Forest.modify p fun tag children =>
        (tag, join node.toForest children))
      fun x kids => if x = p then arrange (swap c [] kids) else swap c [] kids := by
  obtain ⟨node, hnode⟩ := has_iff_find?.1 hc
  have hnot : p ∉ node.ids := by
    rw [mem_ids_iff_isBelow hnode, not_or]
    exact ⟨hpc, hin⟩
  have hnodup := nodup_erase wf hnode
  have hrest : (dom.roots.erase c).ids.Nodup := hnodup.of_append_right
  obtain ⟨kids, hkids⟩ := tag?_eq_some_iff.1 hp
  have hplace : (dom.roots.erase c).view? p = some (.element tag (swap c [] kids)) := by
    rw [view?_erase wf hnode hnot, hkids]; rfl
  obtain ⟨children, hfind, hchildren⟩ := Forest.find?_of_view?_element hplace
  have hids : (join node.toForest children).ids.Perm (node.ids ++ children.ids) := by
    have hmap := (hnodes node.toForest children).map Node.id
    rw [List.map_append, Forest.map_id_nodes, Forest.map_id_nodes, Forest.map_id_nodes] at hmap
    exact hmap
  let change : Tag → Forest → Tag × Forest := fun tag children => (tag, join node.toForest children)
  have hchange : change tag children = (tag, join node.toForest children) := rfl
  have hperm := Forest.ids_modify_perm change hfind hchange hrest hids
  have htopc : node.toForest.topIds = [c] := by
    rw [Node.topIds_toForest, Forest.id_of_find? hnode]
  refine rearranges_move _ wf hnode (has_of_tag? hp) hnot
    (fun x kids => if x = p then arrange kids else kids) hperm ?_ ?_ ?_
  · intro inner hinner
    refine Forest.mem_nodes_modify _ hfind hchange (List.mem_cons_of_mem _ ?_)
    rw [Forest.nodes, List.append_nil]
    exact (hnodes _ _).mem_iff.2 (List.mem_append_left _ hinner)
  · intro x hx
    by_cases hxp : x = p
    · subst hxp
      rw [Forest.view?_modify_self _ hfind hchange (hperm.nodup_iff.2 hnodup), hplace, htop _ _ htopc,
        hchildren]
      simp only [if_true]
      rfl
    · rw [Forest.view?_modify_of_ne _ hfind hchange hrest hxp (hview _ _ _ hx)]
      simp only [if_neg hxp]
      exact (Forest.map_withKids_eq_self rfl).symm
  · intro x hx
    have hxp : x ≠ p := fun h => hnot (h ▸ hx)
    exact if_neg hxp

theorem rearranges_append :
    Rearranges dom (dom.append p c) fun x kids =>
      if x = p then swap c [] kids ++ [c] else swap c [] kids := by
  have hsome : (dom.tag? p).isSome = true := by rw [hp]; rfl
  rw [append, if_pos hsome]
  refine rearranges_into wf hc hp hpc hin (fun new children => children ++ new)
    (fun kids => kids ++ [c]) ?_ ?_ ?_
  · intro new children
    rw [Forest.nodes_append]
    exact List.perm_append_comm
  · intro new children x hx
    rw [Forest.view?_append, Forest.view?_of_notMem hx, Option.or_none]
  · intro new children h
    rw [Forest.topIds_append, h]

theorem rearranges_prepend :
    Rearranges dom (dom.prepend p c) fun x kids =>
      if x = p then c :: swap c [] kids else swap c [] kids := by
  have hsome : (dom.tag? p).isSome = true := by rw [hp]; rfl
  rw [prepend, if_pos hsome]
  refine rearranges_into wf hc hp hpc hin (fun new children => new ++ children)
    (fun kids => c :: kids) ?_ ?_ ?_
  · intro new children
    rw [Forest.nodes_append]
  · intro new children x hx
    rw [Forest.view?_append, Forest.view?_of_notMem hx, Option.none_or]
  · intro new children h
    rw [Forest.topIds_append, h]; rfl

end

theorem rearranges_insertBefore {dom : Dom} {c s q : NodeId} (wf : dom.WellFormed)
    (hc : dom.Has c) (hq : dom.parent? s = some q) (hsc : s ≠ c) (hin : ¬dom.IsBelow c s) :
    Rearranges dom (dom.insertBefore s c) fun _ kids => swap s [c, s] (swap c [] kids) := by
  have hs : dom.Has s := (wf.parent?_eq_some_iff.1 hq).has_right
  have hsome : (dom.parent? s).isSome = true := by rw [hq]; rfl
  obtain ⟨node, hnode⟩ := has_iff_find?.1 hc
  have hnot : s ∉ node.ids := by
    rw [mem_ids_iff_isBelow hnode, not_or]
    exact ⟨hsc, hin⟩
  have hnodup := nodup_erase wf hnode
  have hrest : (dom.roots.erase c).ids.Nodup := hnodup.of_append_right
  have hmem : s ∈ (dom.roots.erase c).ids :=
    (List.mem_append.1 ((Forest.ids_erase_perm wf.nodup hnode).mem_iff.1 hs)).resolve_left hnot
  obtain ⟨sibling, hfind⟩ := Forest.mem_ids_iff.1 hmem
  have htop : (node.toForest ++ sibling.toForest).topIds = [c, s] := by
    rw [Forest.topIds_append, Node.topIds_toForest, Node.topIds_toForest,
      Forest.id_of_find? hnode, Forest.id_of_find? hfind]; rfl
  rw [insertBefore, if_pos hsome]
  refine rearranges_move _ wf hnode hs hnot (fun _ => swap s [c, s]) ?_ ?_ ?_ ?_
  · refine (Forest.ids_substitute_perm _ hrest hfind).trans ?_
    rw [Forest.ids_append, List.append_assoc]
    exact (Forest.ids_erase_perm hrest hfind).symm.append_left _
  · intro inner hinner
    refine Forest.mem_nodes_substitute _ hfind ?_
    rw [Forest.nodes_append]
    exact List.mem_append_left _ hinner
  · intro x hx
    have hview := Forest.view?_substitute (x := x)
      (fun next => node.toForest ++ next.toForest) hrest hfind
    rw [htop] at hview
    refine hview ?_
    rw [Forest.view?_append, Forest.view?_of_notMem hx, Option.none_or]
  · intro x hx
    refine swap_of_notMem fun hsx => ?_
    rcases (mem_ids_iff_isBelow hnode).1 hx with rfl | hx
    · exact hin (Holds.isBelow hsx)
    · exact hin (wf.isBelow_of_holds hx hsx)

theorem rearranges_replaceWith {dom : Dom} {c s q : NodeId} (wf : dom.WellFormed)
    (hc : dom.Has c) (hq : dom.parent? s = some q) (hsc : s ≠ c) (hin : ¬dom.IsBelow c s) :
    Rearranges dom (dom.replaceWith s c) fun _ kids => swap s [c] (swap c [] kids) := by
  have hinsert := rearranges_insertBefore wf hc hq hsc hin
  have hboth := hinsert.trans (rearranges_detach (hinsert.wellFormed wf) s)
  simp only [swap_swap hsc] at hboth
  rw [replaceWith, if_neg hsc]
  exact hboth

end PageBlocks.Dom
