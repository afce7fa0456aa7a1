import PageBlocks.Proofs.Dom.Rearrange
/-!
# Pruned pages

When nodes below a scope are taken out of a page one after another, the scope is left with its tree
pruned at these nodes, whatever their order, and also when some of them were below others.  All
other nodes keep their tags and contents, and each node that is left keeps its parent.

## Main results

* `Forest.prune_eq_of_cleared` — a forest is pruned as told once nothing of it is left that is not
  wanted.
* `Dom.Rearranges.find?_eq` — each tree of a page is pruned, wherever it is now.
* `Dom.Cut.detachAll` — nodes are taken out one after another.
* `Dom.Cut.notMem_above` — what is left below the scope has nothing around it that was taken out.
-/

namespace PageBlocks

namespace Forest

/-- A forest without some of its nodes, and without all that is below them. -/
def prune (gone : List NodeId) : Forest → Forest
  | nil => nil
  | leaf id content next =>
    if id ∈ gone then next.prune gone else leaf id content (next.prune gone)
  | element id tag children next =>
    if id ∈ gone then next.prune gone
    else element id tag (children.prune gone) (next.prune gone)

end Forest

/-- A node without some of the nodes below it. -/
def Node.prune (gone : List NodeId) : Node → Node
  | leaf id content => leaf id content
  | element id tag children => element id tag (children.prune gone)

theorem Node.children_prune (gone : List NodeId) (node : Node) :
    (node.prune gone).children = node.children.prune gone := by
  cases node <;> rfl

namespace Forest

variable {gone more : List NodeId} {forest : Forest} {x : NodeId}

theorem prune_eq_self (h : ∀ x ∈ forest.ids, x ∉ gone) : forest.prune gone = forest := by
  induction forest with
  | nil => rfl
  | leaf id content next ih =>
    have hid := h id List.mem_cons_self
    rw [prune, if_neg hid, ih fun x hx => h x (List.mem_cons_of_mem _ hx)]
  | element id tag children next ihc ihn =>
    have hid := h id List.mem_cons_self
    rw [prune, if_neg hid,
      ihc fun x hx => h x (List.mem_cons_of_mem _ (List.mem_append_left _ hx)),
      ihn fun x hx => h x (List.mem_cons_of_mem _ (List.mem_append_right _ hx))]

theorem prune_prune (gone more : List NodeId) (forest : Forest) :
    (forest.prune gone).prune more = forest.prune (gone ++ more) := by
  induction forest with
  | nil => rfl
  | leaf id content next ih =>
    by_cases hg : id ∈ gone
    · simp only [prune, if_pos hg, ih, if_pos (List.mem_append_left more hg)]
    · by_cases hm : id ∈ more
      · simp only [prune, if_neg hg, if_pos hm, ih, if_pos (List.mem_append_right gone hm)]
      · have hnot : id ∉ gone ++ more := fun h => (List.mem_append.1 h).elim hg hm
        simp only [prune, if_neg hg, if_neg hm, if_neg hnot, ih]
  | element id tag children next ihc ihn =>
    by_cases hg : id ∈ gone
    · simp only [prune, if_pos hg, ihn, if_pos (List.mem_append_left more hg)]
    · by_cases hm : id ∈ more
      · simp only [prune, if_neg hg, if_pos hm, ihn, if_pos (List.mem_append_right gone hm)]
      · have hnot : id ∉ gone ++ more := fun h => (List.mem_append.1 h).elim hg hm
        simp only [prune, if_neg hg, if_neg hm, if_neg hnot, ihc, ihn]

theorem prune_congr {other : List NodeId} (h : ∀ x, x ∈ gone ↔ x ∈ other) (forest : Forest) :
    forest.prune gone = forest.prune other := by
  induction forest with
  | nil => rfl
  | leaf id content next ih => simp only [prune, h id, ih]
  | element id tag children next ihc ihn => simp only [prune, h id, ihc, ihn]

/-- A forest is pruned as told once only what is not wanted was taken out, and nothing of it is
left. -/
theorem prune_eq_of_cleared {marked : List NodeId} (hgone : gone ⊆ marked)
    (hclear : ∀ x ∈ (forest.prune gone).ids, x ∉ marked) :
    forest.prune gone = forest.prune marked := by
  have hsame (x : NodeId) : x ∈ gone ++ marked ↔ x ∈ marked := by
    rw [List.mem_append]
    exact or_iff_right_of_imp fun hx => hgone hx
  rw [← prune_congr hsame, ← prune_prune, prune_eq_self hclear]

theorem topIds_prune (gone : List NodeId) (forest : Forest) :
    (forest.prune gone).topIds = forest.topIds.filter fun k => decide (k ∉ gone) := by
  induction forest with
  | nil => rfl
  | leaf id content next ih =>
    rw [prune, topIds, List.filter_cons]
    by_cases h : id ∈ gone
    · rw [if_pos h, if_neg (by simpa using h), ih]
    · rw [if_neg h, if_pos (decide_eq_true h), ← ih, topIds]
  | element id tag children next _ ih =>
    rw [prune, topIds, List.filter_cons]
    by_cases h : id ∈ gone
    · rw [if_pos h, if_neg (by simpa using h), ih]
    · rw [if_neg h, if_pos (decide_eq_true h), ← ih, topIds]

/-- What is left of a forest are nodes of it, pruned. -/
theorem exists_of_mem_nodes_prune {forest : Forest} {node : Node}
    (h : node ∈ (forest.prune gone).nodes) : ∃ inner ∈ forest.nodes, node = inner.prune gone := by
  induction forest with
  | nil => cases h
  | leaf id content next ih =>
    have hnext (hn : node ∈ (next.prune gone).nodes) :
        ∃ inner ∈ (leaf id content next).nodes, node = inner.prune gone := by
      obtain ⟨inner, hinner, heq⟩ := ih hn
      exact ⟨inner, List.mem_cons_of_mem _ hinner, heq⟩
    rw [prune] at h
    split at h
    · exact hnext h
    · rcases List.mem_cons.1 h with rfl | h
      · exact ⟨_, List.mem_cons_self, rfl⟩
      · exact hnext h
  | element id tag children next ihc ihn =>
    have hnext (hn : node ∈ (next.prune gone).nodes) :
        ∃ inner ∈ (element id tag children next).nodes, node = inner.prune gone := by
      obtain ⟨inner, hinner, heq⟩ := ihn hn
      exact ⟨inner, List.mem_cons_of_mem _ (List.mem_append_right _ hinner), heq⟩
    rw [prune] at h
    split at h
    · exact hnext h
    · rcases List.mem_cons.1 h with rfl | h
      · exact ⟨_, List.mem_cons_self, rfl⟩
      · rcases List.mem_append.1 h with h | h
        · obtain ⟨inner, hinner, heq⟩ := ihc h
          exact ⟨inner, List.mem_cons_of_mem _ (List.mem_append_left _ hinner), heq⟩
        · exact hnext h

end Forest

namespace Node

theorem id_prune (gone : List NodeId) (node : Node) : (node.prune gone).id = node.id := by
  cases node <;> rfl

theorem view_prune (gone : List NodeId) (node : Node) :
    (node.prune gone).view = node.view.withKids (List.filter fun k => decide (k ∉ gone)) := by
  cases node with
  | leaf id content => rfl
  | element id tag children =>
    show View.element tag (children.prune gone).topIds = _
    rw [Forest.topIds_prune]; rfl

end Node

namespace Dom

/-! ## Taking nodes out of rows -/

/-- To leave out some members of a row and then others is to leave out both. -/
theorem filter_notMem_append (gone more row : List NodeId) :
    (row.filter fun k => decide (k ∉ gone)).filter (fun k => decide (k ∉ more)) =
      row.filter fun k => decide (k ∉ gone ++ more) := by
  rw [List.filter_filter]
  refine List.filter_congr fun k _ => ?_
  rw [Bool.eq_iff_iff, Bool.and_eq_true, decide_eq_true_iff, decide_eq_true_iff,
    decide_eq_true_iff, List.mem_append, not_or]
  exact and_comm

/-- When the nodes of a tree show what they showed, without what was taken out of their rows, the tree
is pruned, wherever it is now and whatever else there is. -/
theorem find?_eq_prune {gone : List NodeId} {before after : Dom} (wf : before.WellFormed)
    (wf' : after.WellFormed) {x : NodeId} (has : before.Has x)
    (h : ∀ y, y = x ∨ before.IsBelow x y → after.view? y =
      (before.view? y).map (View.withKids (List.filter fun k => decide (k ∉ gone)))) :
    after.find? x = (before.find? x).map (Node.prune gone) := by
  obtain ⟨node, hnode⟩ := has_iff_find?.1 has
  have hnodes := Forest.mem_nodes_of_find? hnode
  have hid : node.id = x := Forest.id_of_find? hnode
  -- What a node shows now is what it showed before, without what was taken out.
  have hshown {inner : Node} (hinner : inner ∈ before.roots.nodes)
      (hplace : inner.id = x ∨ before.IsBelow x inner.id) :
      after.view? (inner.prune gone).id = some (inner.prune gone).view := by
    rw [Node.id_prune, Node.view_prune, h _ hplace, wf.view?_of_mem_nodes hinner]; rfl
  have hfind := wf'.find?_eq_of_views (hshown hnodes (.inl hid)) fun inner hinner => by
    rw [Node.children_prune] at hinner
    obtain ⟨whole, hwhole, rfl⟩ := Forest.exists_of_mem_nodes_prune hinner
    exact hshown (Forest.nodes_children_subset hnodes hwhole)
      (.inr (isBelow_iff.2 ⟨node, hnode, Forest.id_mem_ids hwhole⟩))
  rw [Node.id_prune, hid] at hfind
  rw [hfind, hnode, Option.map_some]

/-- When nodes are taken out of their rows, each tree of the page is pruned, wherever it is now. -/
theorem Rearranges.find?_eq {gone : List NodeId} {before after : Dom}
    (h : Rearranges before after fun _ => List.filter fun k => decide (k ∉ gone))
    (wf : before.WellFormed) (x : NodeId) :
    after.find? x = (before.find? x).map (Node.prune gone) := by
  by_cases has : before.Has x
  · exact find?_eq_prune wf (h.wellFormed wf) has fun y _ => h.view y
  · rw [find?_eq_none_iff.2 has]
    exact find?_eq_none_iff.2 fun has' => has ((h.has_iff x).1 has')

/-! ## One node after another -/

/-- A page from which nodes below a scope were taken out. -/
structure Cut (scope : NodeId) (gone : List NodeId) (before after : Dom) : Prop where
  rearranges : Rearranges before after fun _ => List.filter fun k => decide (k ∉ gone)
  below : ∀ x ∈ gone, before.IsBelow scope x
  tree : after.find? scope = (before.find? scope).map (Node.prune gone)

namespace Cut

variable {scope x y p : NodeId} {gone more : List NodeId} {before after later : Dom}

theorem refl (scope : NodeId) (dom : Dom) : Cut scope [] dom dom where
  rearranges := .refl fun x => List.filter_eq_self.2 fun k _ => by simp
  below x hx := absurd hx List.not_mem_nil
  tree := by
    cases dom.find? scope with
    | none => rfl
    | some node =>
      cases node with
      | leaf id content => rfl
      | element id tag children =>
        rw [Option.map_some, Node.prune, Forest.prune_eq_self fun x _ => List.not_mem_nil]

variable (h : Cut scope gone before after)

include h

theorem wellFormed (wf : before.WellFormed) : after.WellFormed :=
  h.rearranges.wellFormed wf

theorem holds_iff : after.Holds p x ↔ before.Holds p x ∧ x ∉ gone := by
  rw [Holds, h.rearranges.kids rfl, List.mem_filter, decide_eq_true_iff]
  rfl

/-- Leaves are what they were. -/
theorem view?_leaf {content : Leaf} :
    after.view? x = some (.leaf content) ↔ before.view? x = some (.leaf content) := by
  rw [h.rearranges.view]
  cases before.view? x with
  | none => exact Iff.rfl
  | some view =>
    cases view with
    | leaf other => exact Iff.rfl
    | element tag kids =>
      exact iff_of_false (fun heq => by cases heq) fun heq => by cases heq

/-- What is left below a node was below it before. -/
theorem isBelow_of_isBelow (wf : before.WellFormed) (hx : after.IsBelow p x) :
    before.IsBelow p x := by
  rw [wf.isBelow_iff_transGen]
  rw [(h.wellFormed wf).isBelow_iff_transGen] at hx
  exact Relation.TransGen.mono (fun p x hholds => (h.holds_iff.1 hholds).1) _ _ hx

theorem notMem_of_isBelow (wf : before.WellFormed) (hx : after.IsBelow p x) : x ∉ gone := by
  obtain ⟨q, hq, _⟩ := (h.wellFormed wf).isBelow_cases hx
  exact (h.holds_iff.1 ((h.wellFormed wf).parent?_eq_some_iff.1 hq)).2

/-- Less is left when more is taken out. -/
theorem isBelow_mono (wf : before.WellFormed) (h' : Cut scope (gone ++ more) before later)
    (hx : later.IsBelow p x) : after.IsBelow p x := by
  rw [(h.wellFormed wf).isBelow_iff_transGen]
  rw [(h'.wellFormed wf).isBelow_iff_transGen] at hx
  refine Relation.TransGen.mono (fun p x hholds => ?_) _ _ hx
  obtain ⟨hbefore, hnot⟩ := h'.holds_iff.1 hholds
  exact h.holds_iff.2 ⟨hbefore, fun hin => hnot (List.mem_append_left _ hin)⟩

/-- The parent of a node that was not taken out is what it was. -/
theorem parent?_eq (wf : before.WellFormed) (hx : x ∉ gone) :
    after.parent? x = before.parent? x := by
  refine Option.ext fun p => ?_
  rw [(h.wellFormed wf).parent?_eq_some_iff, wf.parent?_eq_some_iff, h.holds_iff]
  exact and_iff_left hx

/-- What is left below the scope has nothing around it that was taken out. -/
theorem notMem_above (wf : before.WellFormed) (hx : after.IsBelow scope x)
    (hy : before.IsBelow y x) : y ∉ gone := by
  have wf' := h.wellFormed wf
  have hpath := wf'.isBelow_iff_transGen.1 hx
  clear hx
  induction hpath with
  | single hholds =>
    intro hgone
    have hparent := wf.parent?_eq_some_iff.2 (h.holds_iff.1 hholds).1
    rcases (wf.isBelow_iff_of_parent hparent).1 hy with rfl | hbelow
    · exact wf.not_isBelow_self _ (h.below _ hgone)
    · exact wf.not_isBelow_self _ (wf.isBelow_trans hbelow (h.below _ hgone))
  | tail hfirst hholds ih =>
    have hparent := wf.parent?_eq_some_iff.2 (h.holds_iff.1 hholds).1
    rcases (wf.isBelow_iff_of_parent hparent).1 hy with rfl | hbelow
    · exact h.notMem_of_isBelow wf (wf'.isBelow_iff_transGen.2 hfirst)
    · exact ih hbelow

/-- What is left below the scope is what has nothing from the scope down to it that was taken
out. -/
theorem isBelow_scope_iff (wf : before.WellFormed) :
    after.IsBelow scope x ↔ before.IsBelow scope x ∧
      ∀ y, before.IsBelow scope y → y = x ∨ before.IsBelow y x → y ∉ gone := by
  constructor
  · intro hx
    refine ⟨h.isBelow_of_isBelow wf hx, fun y _ hy => ?_⟩
    rcases hy with rfl | hy
    · exact h.notMem_of_isBelow wf hx
    · exact h.notMem_above wf hx hy
  · rintro ⟨hbelow, hout⟩
    have hpath := wf.isBelow_iff_transGen.1 hbelow
    rw [(h.wellFormed wf).isBelow_iff_transGen]
    clear hbelow
    induction hpath with
    | single hholds =>
      exact .single (h.holds_iff.2 ⟨hholds, hout _ hholds.isBelow (.inl rfl)⟩)
    | tail hfirst hholds ih =>
      have hmid := wf.isBelow_iff_transGen.2 hfirst
      refine .tail (ih fun y hy hcase => hout y hy (.inr ?_))
        (h.holds_iff.2 ⟨hholds, hout _ (wf.isBelow_of_holds hmid hholds) (.inl rfl)⟩)
      rcases hcase with rfl | hcase
      · exact hholds.isBelow
      · exact wf.isBelow_of_holds hcase hholds

/-- Nodes are taken out in several steps. -/
theorem trans (wf : before.WellFormed) (h' : Cut scope more after later) :
    Cut scope (gone ++ more) before later := by
  have hrearranges := h.rearranges.trans h'.rearranges
  simp only [filter_notMem_append] at hrearranges
  refine ⟨hrearranges, fun x hx => ?_, hrearranges.find?_eq wf scope⟩
  rcases List.mem_append.1 hx with hx | hx
  · exact h.below x hx
  · exact h.isBelow_of_isBelow wf (h'.below x hx)

/-- One more node is taken out. -/
theorem detach (wf : before.WellFormed) (hy : before.IsBelow scope y) :
    Cut scope (gone ++ [y]) before (after.detach y) := by
  have hrow (kids : List NodeId) : swap y [] (kids.filter fun k => decide (k ∉ gone)) =
      kids.filter fun k => decide (k ∉ gone ++ [y]) := by
    rw [← filter_notMem_append, swap_empty]
    simp only [List.mem_singleton]
  have hrearranges := h.rearranges.trans (rearranges_detach (h.wellFormed wf) y)
  simp only [hrow] at hrearranges
  refine ⟨hrearranges, fun x hx => ?_, hrearranges.find?_eq wf scope⟩
  rcases List.mem_append.1 hx with hx | hx
  · exact h.below x hx
  · rw [List.mem_singleton.1 hx]
    exact hy

/-- Nodes are taken out one after another. -/
theorem detachAll (wf : before.WellFormed) {ids : List NodeId}
    (hids : ∀ y ∈ ids, before.IsBelow scope y) :
    Cut scope (gone ++ ids) before (ids.foldl Dom.detach after) := by
  induction ids generalizing gone after with
  | nil =>
    rw [List.append_nil]
    exact h
  | cons y ids ih =>
    have hfirst := h.detach wf (hids y List.mem_cons_self)
    have hrest := ih hfirst fun other ho => hids other (List.mem_cons_of_mem _ ho)
    rw [List.append_assoc] at hrest
    exact hrest

end Cut

end Dom

end PageBlocks
