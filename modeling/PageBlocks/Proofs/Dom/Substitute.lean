import PageBlocks.Proofs.Dom.View
/-!
# Substitution in forests

Every change of a page puts something in the place of a node: nothing when the node is taken out,
the changed element when its start or its children change, and the node behind another one when
that is put in front of it.  What such a change does to the views of the other nodes is the same in
all cases: the node gives way in the row that it stands in.

## Main results

* `Forest.view?_substitute` — the views of the nodes after a substitution.
* `Forest.ids_substitute_perm` — the identities after a substitution.
* `Forest.mem_nodes_substitute` — what was put in is there.
-/

namespace PageBlocks

/-- A row of children in which others stand in the place of one. -/
def swap (s : NodeId) (new kids : List NodeId) : List NodeId :=
  kids.flatMap fun k => if k = s then new else [k]

@[simp] theorem swap_nil (s : NodeId) (new : List NodeId) : swap s new [] = [] := rfl

theorem swap_cons (s : NodeId) (new : List NodeId) (k : NodeId) (kids : List NodeId) :
    swap s new (k :: kids) = (if k = s then new else [k]) ++ swap s new kids := rfl

theorem swap_of_notMem {s : NodeId} {new kids : List NodeId} (h : s ∉ kids) :
    swap s new kids = kids := by
  induction kids with
  | nil => rfl
  | cons k kids ih =>
    rw [List.mem_cons, not_or] at h
    rw [swap_cons, if_neg (Ne.symm h.1), ih h.2]; rfl

theorem swap_self (s : NodeId) (kids : List NodeId) : swap s [s] kids = kids := by
  induction kids with
  | nil => rfl
  | cons k kids ih =>
    rw [swap_cons, ih]
    split
    · next h => rw [h]; rfl
    · rfl

theorem swap_empty (s : NodeId) (kids : List NodeId) :
    swap s [] kids = kids.filter fun k => k ≠ s := by
  induction kids with
  | nil => rfl
  | cons k kids ih =>
    rw [swap_cons, ih]
    by_cases h : k = s <;> simp [h]

/-- To put a node in front of another one, and then to take that one out, is to put it in its place. -/
theorem swap_swap {s c : NodeId} (h : s ≠ c) (kids : List NodeId) :
    swap s [] (swap s [c, s] kids) = swap s [c] kids := by
  induction kids with
  | nil => rfl
  | cons k kids ih =>
    rw [swap_cons, swap_cons, ← ih]
    by_cases hk : k = s
    · rw [if_pos hk, if_pos hk]
      show swap s [] (c :: s :: swap s [c, s] kids) = _
      rw [swap_cons, swap_cons, if_neg (Ne.symm h), if_pos rfl]
      rfl
    · rw [if_neg hk, if_neg hk]
      show swap s [] (k :: swap s [c, s] kids) = _
      rw [swap_cons, if_neg hk]

theorem mem_swap_of_ne {s x : NodeId} {new kids : List NodeId} (hx : x ∉ new) :
    x ∈ swap s new kids ↔ x ∈ kids ∧ x ≠ s := by
  rw [swap, List.mem_flatMap]
  constructor
  · rintro ⟨k, hk, hxk⟩
    split at hxk
    · exact absurd hxk hx
    · next hs =>
      rw [List.mem_singleton] at hxk
      exact ⟨hxk ▸ hk, hxk ▸ hs⟩
  · rintro ⟨hxk, hs⟩
    exact ⟨x, hxk, by rw [if_neg hs]; exact List.mem_singleton.2 rfl⟩

theorem mem_swap_of_mem {s x : NodeId} {new kids : List NodeId} (hx : x ∈ new) (hs : s ∈ kids) :
    x ∈ swap s new kids := by
  rw [swap, List.mem_flatMap]
  exact ⟨s, hs, by rw [if_pos rfl]; exact hx⟩

namespace Forest

variable {s x : NodeId} {node : Node} {forest : Forest}

/-! ## Nodes that are there no more than once -/

private theorem nodup_parts {id : NodeId} {tag : Tag} {children next : Forest}
    (hn : (element id tag children next).ids.Nodup) :
    id ∉ children.ids ∧ id ∉ next.ids ∧ children.ids.Nodup ∧ next.ids.Nodup ∧
      ∀ x ∈ children.ids, x ∉ next.ids := by
  rw [ids, List.nodup_cons, List.mem_append, not_or] at hn
  obtain ⟨⟨hc, hx⟩, happ⟩ := hn
  have hdis := List.disjoint_of_nodup_append happ
  exact ⟨hc, hx, happ.of_append_left, happ.of_append_right, fun x h1 h2 => hdis h1 h2⟩

/-- Is a node the only one that may be found under an identity? -/
private def Only (s : NodeId) (node : Node) (forest : Forest) : Prop :=
  ∀ other, forest.find? s = some other → other = node

private theorem only_of_find? (hs : forest.find? s = some node) : Only s node forest :=
  fun _ h => Option.some.inj (h.symm.trans hs)

private theorem only_next {id : NodeId} {content : Leaf} {next : Forest} (h : id ≠ s)
    (hs : Only s node (leaf id content next)) : Only s node next := by
  intro other hother
  exact hs other (by rw [find?, if_neg h, hother])

private theorem only_parts {id : NodeId} {tag : Tag} {children next : Forest} (h : id ≠ s)
    (hn : (element id tag children next).ids.Nodup)
    (hs : Only s node (element id tag children next)) :
    Only s node children ∧ Only s node next := by
  obtain ⟨_, _, _, _, hdis⟩ := nodup_parts hn
  constructor
  · intro other hother
    exact hs other (by rw [find?, if_neg h, hother]; rfl)
  · intro other hother
    have hc : children.find? s = none :=
      find?_eq_none_iff.2 fun hin => hdis s hin (mem_ids_of_find? hother)
    exact hs other (by rw [find?, if_neg h, hc, hother]; rfl)

private theorem topIds_substitute_only (replace : Node → Forest) (hn : forest.ids.Nodup)
    (hs : Only s node forest) :
    (forest.substitute s replace).topIds = swap s (replace node).topIds forest.topIds := by
  induction forest with
  | nil => rfl
  | leaf id content next ih =>
    rw [ids, List.nodup_cons] at hn
    rw [topIds, swap_cons]
    by_cases h : id = s
    · have hnode := hs (.leaf id content) (by rw [find?, if_pos h])
      have hnot : s ∉ next.topIds := fun hin => hn.1 (h ▸ topIds_subset_ids hin)
      rw [substitute, if_pos h, topIds_append, if_pos h, swap_of_notMem hnot, hnode]
    · rw [substitute, if_neg h, topIds, if_neg h, ih hn.2 (only_next h hs)]; rfl
  | element id tag children next ihc ihn =>
    obtain ⟨_, hidn, _, hnn, _⟩ := nodup_parts hn
    rw [topIds, swap_cons]
    by_cases h : id = s
    · have hnode := hs (.element id tag children) (by rw [find?, if_pos h])
      have hnot : s ∉ next.topIds := fun hin => hidn (h ▸ topIds_subset_ids hin)
      rw [substitute, if_pos h, topIds_append, if_pos h, swap_of_notMem hnot, hnode]
    · rw [substitute, if_neg h, topIds, if_neg h, ihn hnn (only_parts h hn hs).2]; rfl

private theorem view?_substitute_only (replace : Node → Forest) (hn : forest.ids.Nodup)
    (hs : Only s node forest) (hx : (replace node).view? x = node.toForest.view? x) :
    (forest.substitute s replace).view? x =
      (forest.view? x).map (View.withKids (swap s (replace node).topIds)) := by
  have hkeep {part : Forest} (hn : part.ids.Nodup) (htop : s ∈ part.topIds) :
      (part.view? x).map (View.withKids (swap s (replace node).topIds)) = part.view? x :=
    map_withKids_eq_self (swap_of_notMem (notMem_kids_of_mem_topIds hn htop))
  induction forest with
  | nil => rfl
  | leaf id content next ih =>
    by_cases h : id = s
    · have hnode := hs (.leaf id content) (by rw [find?, if_pos h])
      rw [hkeep hn (h ▸ List.mem_cons_self), substitute, if_pos h, hnode, view?_append, hx,
        ← hnode, ← view?_append]
      rfl
    · rw [ids, List.nodup_cons] at hn
      rw [substitute, if_neg h, view?_leaf, view?_leaf, ih hn.2 (only_next h hs)]
      split <;> rfl
  | element id tag children next ihc ihn =>
    by_cases h : id = s
    · have hnode := hs (.element id tag children) (by rw [find?, if_pos h])
      rw [hkeep hn (h ▸ List.mem_cons_self), substitute, if_pos h, hnode, view?_append, hx,
        ← hnode, ← view?_append]
      rfl
    · obtain ⟨_, _, hnc, hnn, _⟩ := nodup_parts hn
      obtain ⟨hsc, hsn⟩ := only_parts h hn hs
      rw [substitute, if_neg h, view?_element, view?_element, topIds_substitute_only replace hnc hsc,
        ihc hnc hsc, ihn hnn hsn, ← Option.map_or]
      split <;> rfl

theorem substitute_eq_self {s : NodeId} {replace : Node → Forest} {forest : Forest}
    (h : ∀ node ∈ forest.nodes, node.id = s → replace node = node.toForest) :
    forest.substitute s replace = forest := by
  induction forest with
  | nil => rfl
  | leaf id content next ih =>
    rw [substitute, ih fun node hnode => h node (List.mem_cons_of_mem _ hnode)]
    split
    · next hid => rw [h _ List.mem_cons_self hid]; rfl
    · rfl
  | element id tag children next ihc ihn =>
    have hnext := ihn fun node hnode => h node (List.mem_cons_of_mem _ (List.mem_append_right _ hnode))
    have hchildren := ihc fun node hnode =>
      h node (List.mem_cons_of_mem _ (List.mem_append_left _ hnode))
    rw [substitute, hchildren, hnext]
    split
    · next hid => rw [h _ List.mem_cons_self hid]; rfl
    · rfl

/-- A substitution that leaves the view of a node as it is where the new nodes stand only changes
the row that the replaced node stands in. -/
theorem view?_substitute (replace : Node → Forest) (hn : forest.ids.Nodup)
    (hs : forest.find? s = some node) (hx : (replace node).view? x = node.toForest.view? x) :
    (forest.substitute s replace).view? x =
      (forest.view? x).map (View.withKids (swap s (replace node).topIds)) :=
  view?_substitute_only replace hn (only_of_find? hs) hx

/-! ## What is there afterwards -/

/-- The new nodes are there. -/
theorem mem_nodes_substitute (replace : Node → Forest) {inner : Node}
    (hs : forest.find? s = some node) (h : inner ∈ (replace node).nodes) :
    inner ∈ (forest.substitute s replace).nodes := by
  induction forest with
  | nil => cases hs
  | leaf id content next ih =>
    by_cases hid : id = s
    · rw [find?, if_pos hid] at hs
      cases hs
      rw [substitute, if_pos hid, nodes_append]
      exact List.mem_append_left _ h
    · rw [find?, if_neg hid] at hs
      rw [substitute, if_neg hid]
      exact List.mem_cons_of_mem _ (ih hs)
  | element id tag children next ihc ihn =>
    by_cases hid : id = s
    · rw [find?, if_pos hid] at hs
      cases hs
      rw [substitute, if_pos hid, nodes_append]
      exact List.mem_append_left _ h
    · rw [find?, if_neg hid] at hs
      rw [substitute, if_neg hid]
      rcases Option.or_eq_some_iff.1 hs with hs | ⟨_, hs⟩
      · exact List.mem_cons_of_mem _ (List.mem_append_left _ (ihc hs))
      · exact List.mem_cons_of_mem _ (List.mem_append_right _ (ihn hs))

/-- The new nodes stand beside all that was outside the replaced node. -/
theorem ids_substitute_perm (replace : Node → Forest) (hn : forest.ids.Nodup)
    (hs : forest.find? s = some node) :
    (forest.substitute s replace).ids.Perm ((replace node).ids ++ (forest.erase s).ids) := by
  induction forest with
  | nil => cases hs
  | leaf id content next ih =>
    by_cases hid : id = s
    · rw [find?, if_pos hid] at hs
      cases hs
      rw [erase, substitute, substitute, if_pos hid, if_pos hid, ids_append]
      exact .refl _
    · rw [find?, if_neg hid] at hs
      rw [ids, List.nodup_cons] at hn
      rw [erase, substitute, substitute, if_neg hid, if_neg hid, ids, ids]
      exact ((ih hn.2 hs).cons id).trans List.perm_middle.symm
  | element id tag children next ihc ihn =>
    by_cases hid : id = s
    · rw [find?, if_pos hid] at hs
      cases hs
      rw [erase, substitute, substitute, if_pos hid, if_pos hid, ids_append]
      exact .refl _
    · obtain ⟨_, _, hnc, hnn, hdis⟩ := nodup_parts hn
      rw [find?, if_neg hid] at hs
      rw [erase, substitute, substitute, if_neg hid, if_neg hid, ids, ids]
      refine List.Perm.trans ?_ List.perm_middle.symm
      refine List.Perm.cons id ?_
      rcases Option.or_eq_some_iff.1 hs with hc | ⟨hc, hs⟩
      · have hnext := hdis s (mem_ids_of_find? hc)
        rw [substitute_of_notMem hnext, substitute_of_notMem hnext, ← List.append_assoc]
        exact (ihc hnc hc).append_right _
      · have hchildren := find?_eq_none_iff.1 hc
        rw [substitute_of_notMem hchildren, substitute_of_notMem hchildren]
        refine ((ihn hnn hs).append_left _).trans ?_
        exact List.perm_append_comm_assoc ..

/-- A forest has the nodes of each of its nodes, and those outside it. -/
theorem ids_erase_perm (hn : forest.ids.Nodup) (hs : forest.find? s = some node) :
    forest.ids.Perm (node.ids ++ (forest.erase s).ids) := by
  have h := ids_substitute_perm Node.toForest hn hs
  rw [substitute_self] at h
  exact h

/-! ## Changes of one element -/

/-- What stands in the place of an element when its start and its children change. -/
private def changed (change : Tag → Forest → Tag × Forest) : Node → Forest
  | .leaf id content => leaf id content nil
  | .element id tag children => element id (change tag children).1 (change tag children).2 nil

private theorem modify_eq_substitute (p : NodeId) (change : Tag → Forest → Tag × Forest)
    (forest : Forest) : forest.modify p change = forest.substitute p (changed change) := by
  rw [modify]
  congr 1

section Modify

variable {p : NodeId} {tag tag' : Tag} {children new : Forest}
  (change : Tag → Forest → Tag × Forest)
  (hp : forest.find? p = some (.element p tag children)) (hc : change tag children = (tag', new))

include hp hc

theorem mem_nodes_modify {inner : Node} (h : inner ∈ (element p tag' new nil).nodes) :
    inner ∈ (forest.modify p change).nodes := by
  rw [modify_eq_substitute]
  refine mem_nodes_substitute _ hp ?_
  rw [changed, hc]
  exact h

theorem ids_modify_perm (hn : forest.ids.Nodup) {extra : List NodeId}
    (h : new.ids.Perm (extra ++ children.ids)) :
    (forest.modify p change).ids.Perm (extra ++ forest.ids) := by
  have hnew := ids_substitute_perm (changed change) hn hp
  have hold := ids_erase_perm hn hp
  rw [← modify_eq_substitute, changed, hc, ids, ids, List.append_nil] at hnew
  rw [Node.ids_eq] at hold
  refine hnew.trans (((h.cons p).append_right _).trans ?_)
  refine List.Perm.trans ?_ (hold.symm.append_left extra)
  rw [List.cons_append, List.cons_append, List.append_assoc]
  exact List.perm_middle.symm

theorem view?_modify_of_ne (hn : forest.ids.Nodup) (hx : x ≠ p)
    (h : new.view? x = children.view? x) :
    (forest.modify p change).view? x = forest.view? x := by
  have hview := view?_substitute (x := x) (changed change) hn hp
  have hself : View.withKids (swap p (changed change (.element p tag children)).topIds) = id := by
    funext view
    exact View.withKids_eq_self (swap_self p view.kids)
  rw [modify_eq_substitute, hview, hself, Option.map_id, id_eq]
  rw [changed, hc, Node.toForest, Node.consTo, view?_element, view?_element, if_neg hx.symm,
    if_neg hx.symm, h]

theorem view?_modify_self (hn : (forest.modify p change).ids.Nodup) :
    (forest.modify p change).view? p = some (.element tag' new.topIds) := by
  have hmem : Node.element p tag' new ∈ (forest.modify p change).nodes :=
    mem_nodes_modify change hp hc List.mem_cons_self
  have hfind := find?_of_mem_nodes hn hmem
  rw [view?]
  exact congrArg (Option.map Node.view) hfind

end Modify

end Forest

end PageBlocks
