import PageBlocks.Proofs.Dom.Cleared
import PageBlocks.Proofs.Dom.Growth
import PageBlocks.Proofs.Selector.Pruned
/-!
# Pages that gave nodes away

When nodes below a scope are moved into new elements beside the page, the nodes that were there have
the same tags and contents, and their rows lack what was given away.  The tree around the scope is
then that of a page from which these nodes were just taken out, so that selectors find the same there.

## Main results

* `Dom.Sheds.find?_eq` — each node that was there is pruned.
* `Dom.Sheds.trans` — nodes may be given away in several steps.
* `Dom.Sheds.spot?_eq` — what is left is where it would be on a pruned page.
* `Dom.Sheds.select_eq` — what selectors that look up only find.
-/

namespace PageBlocks

theorem Forest.ids_prune_sublist (gone : List NodeId) (forest : Forest) :
    (forest.prune gone).ids.Sublist forest.ids := by
  induction forest with
  | nil => exact .slnil
  | leaf id content next ih =>
    rw [prune]
    split
    · exact ih.trans (List.sublist_cons_self ..)
    · exact ih.cons_cons id
  | element id tag children next ihc ihn =>
    rw [prune]
    split
    · exact (ihn.trans (List.sublist_append_right ..)).trans (List.sublist_cons_self ..)
    · exact (ihc.append ihn).cons_cons id

/-- A node below which nothing is wanted out is left as it is. -/
theorem Node.prune_eq_self {gone : List NodeId} {node : Node}
    (h : ∀ k ∈ node.children.ids, k ∉ gone) : node.prune gone = node := by
  cases node with
  | leaf id content => rfl
  | element id tag children =>
    have hsame : children.prune gone = children := Forest.prune_eq_self h
    rw [Node.prune, hsame]

theorem Forest.toList_prune (gone : List NodeId) (forest : Forest) :
    (forest.prune gone).toList =
      (forest.toList.filter fun node => decide (node.id ∉ gone)).map (Node.prune gone) := by
  induction forest with
  | nil => rfl
  | leaf id content next ih =>
    rw [prune, toList, List.filter_cons]
    by_cases h : id ∈ gone
    · rw [if_pos h, if_neg (by simp [Node.id, h]), ih]
    · rw [if_neg h, if_pos (by simp [Node.id, h]), toList, ih]
      rfl
  | element id tag children next _ ih =>
    rw [prune, toList, List.filter_cons]
    by_cases h : id ∈ gone
    · rw [if_pos h, if_neg (by simp [Node.id, h]), ih]
    · rw [if_neg h, if_pos (by simp [Node.id, h]), toList, ih]
      rfl

/-- In a row without repetitions a part of it is told by its members. -/
private theorem eq_filter_of_sublist {α : Type} [DecidableEq α] {part row : List α}
    (h : part.Sublist row) (hn : row.Nodup) : part = row.filter (· ∈ part) := by
  induction h with
  | slnil => rfl
  | @cons part row a h ih =>
    obtain ⟨hnot, hrest⟩ := List.nodup_cons.1 hn
    rw [List.filter_cons_of_neg (by simpa using fun ha => hnot (h.subset ha))]
    exact ih hrest
  | @cons_cons part row a h ih =>
    obtain ⟨hnot, hrest⟩ := List.nodup_cons.1 hn
    have hsame : ∀ b ∈ row, decide (b ∈ a :: part) = decide (b ∈ part) := by
      intro b hb
      have hne : b ≠ a := fun heq => hnot (heq ▸ hb)
      simp [hne]
    rw [List.filter_cons_of_pos (by simp), List.filter_congr hsame, ← ih hrest]

namespace Dom

/-- A page some nodes of which, all below a scope, were given to elements that were not there. -/
structure Sheds (scope : NodeId) (gone : List NodeId) (before after : Dom) : Prop where
  wellFormed : after.WellFormed
  there : before.Has scope
  view : ∀ x, before.Has x → after.view? x =
    (before.view? x).map (View.withKids (List.filter fun k => decide (k ∉ gone)))
  below : ∀ x ∈ gone, before.IsBelow scope x
  held : ∀ p x, before.Has x → after.Holds p x → before.Has p ∨ x ∈ gone

variable {scope p x y : NodeId} {gone more : List NodeId} {before after later : Dom}

/-- To make new nodes gives nothing away. -/
theorem Grows.sheds {new : Forest} (h : Grows before after new) (wf : before.WellFormed)
    (hscope : before.Has scope) : Sheds scope [] before after where
  wellFormed := h.wellFormed wf
  there := hscope
  view x hx := by
    rw [h.view? wf hx]
    refine (Forest.map_withKids_eq_self ?_).symm
    exact List.filter_eq_self.2 fun k _ => by simp
  below x hx := absurd hx List.not_mem_nil
  held p x hx hp := .inl ((h.holds_iff wf hx).1 hp).has_left

theorem Sheds.refl (wf : before.WellFormed) (hscope : before.Has scope) :
    Sheds scope [] before before where
  wellFormed := wf
  there := hscope
  view x _ := (Forest.map_withKids_eq_self (List.filter_eq_self.2 fun k _ => by simp)).symm
  below x hx := absurd hx List.not_mem_nil
  held p x _ hp := .inl hp.has_left

/-! ## What selectors list -/

/-- What a selector finds stands below the scope, in the same order. -/
theorem sublist_select (dom : Dom) (scope : NodeId) (selector : Selector) :
    (dom.select scope selector).Sublist (dom.children scope).ids := by
  rw [select]
  split
  · next spot hspot =>
    have hnode : dom.find? scope = some spot.node := by
      rw [← map_node_spot?, hspot]
      rfl
    have hids : spot.descendants.map Spot.id = (dom.children scope).ids := by
      rw [map_id_descendants, children, hnode]
      rfl
    rw [← hids]
    exact (select_sublist spot selector).map Spot.id
  · exact List.nil_sublist _

theorem WellFormed.nodup_children {dom : Dom} (wf : dom.WellFormed) (scope : NodeId) :
    (dom.children scope).ids.Nodup := by
  rw [children]
  cases hnode : dom.find? scope with
  | none => exact List.nodup_nil
  | some node =>
    have hsub := Forest.ids_sublist (Forest.mem_nodes_of_find? hnode)
    rw [Node.ids_eq] at hsub
    exact (wf.nodup.sublist hsub).of_cons

/-- What is below the scope after a cut was there in the same order. -/
theorem Cut.sublist_children (h : Cut scope gone before after) :
    (after.children scope).ids.Sublist (before.children scope).ids := by
  rw [children, children, h.tree]
  cases before.find? scope with
  | none => exact List.Sublist.refl _
  | some node =>
    rw [Option.map_some, Option.map_some, Option.map_some, Node.children_prune]
    exact Forest.ids_prune_sublist ..

namespace Sheds

variable (h : Sheds scope gone before after)

include h

theorem has (hx : before.Has x) : after.Has x := by
  obtain ⟨view, hview⟩ := has_iff_view.1 hx
  exact has_iff_view.2 ⟨_, by rw [h.view x hx, hview]; rfl⟩

theorem tag?_eq (hx : before.Has x) : after.tag? x = before.tag? x := by
  rw [tag?_eq_view, tag?_eq_view, h.view x hx]
  cases before.view? x with
  | none => rfl
  | some view => cases view <;> rfl

theorem holds_iff (hp : before.Has p) : after.Holds p x ↔ before.Holds p x ∧ x ∉ gone := by
  rw [Holds, Holds, kids_eq_view, kids_eq_view, h.view p hp]
  cases before.view? p with
  | none => simp
  | some view => cases view <;> simp [View.withKids, View.kids]

/-- Each node that was there is pruned, wherever it is now. -/
theorem find?_eq (wf : before.WellFormed) (hx : before.Has x) :
    after.find? x = (before.find? x).map (Node.prune gone) :=
  find?_eq_prune wf h.wellFormed hx fun y hy => h.view y <| by
    rcases hy with rfl | hy
    · exact hx
    · exact hy.has_right

/-- A node is what it was if nothing below it was given away. -/
theorem find?_eq_self (wf : before.WellFormed) (hx : before.Has x)
    (hout : ∀ k ∈ gone, ¬before.IsBelow x k) : after.find? x = before.find? x := by
  rw [h.find?_eq wf hx]
  obtain ⟨node, hnode⟩ := has_iff_find?.1 hx
  rw [hnode, Option.map_some, Node.prune_eq_self fun k hk hgone =>
    hout k hgone (isBelow_iff.2 ⟨node, hnode, hk⟩)]

/-- What is below a node now was below it before. -/
theorem isBelow_of_isBelow (wf : before.WellFormed) (hp : before.Has p)
    (hx : after.IsBelow p x) : before.IsBelow p x := by
  obtain ⟨node, hnode, hin⟩ := isBelow_iff.1 hx
  rw [h.find?_eq wf hp] at hnode
  obtain ⟨old, hold, rfl⟩ := Option.map_eq_some_iff.1 hnode
  rw [Node.children_prune] at hin
  exact isBelow_iff.2 ⟨old, hold, (Forest.ids_prune_sublist ..).subset hin⟩

/-- The parent of a node that was not given away is what it was. -/
theorem parent?_eq (wf : before.WellFormed) (hx : before.Has x) (hout : x ∉ gone) :
    after.parent? x = before.parent? x := by
  refine Option.ext fun p => ?_
  rw [h.wellFormed.parent?_eq_some_iff, wf.parent?_eq_some_iff]
  constructor
  · intro hholds
    have hp := (h.held p x hx hholds).resolve_right hout
    exact ((h.holds_iff hp).1 hholds).1
  · intro hholds
    exact (h.holds_iff hholds.has_left).2 ⟨hholds, hout⟩

/-- Neither the scope nor what is around it was given away. -/
theorem notMem_around (wf : before.WellFormed) (k : NodeId)
    (hk : k = scope ∨ before.IsBelow k scope) : k ∉ gone := by
  intro hgone
  have hbelow := h.below k hgone
  rcases hk with rfl | hk
  · exact wf.not_isBelow_self _ hbelow
  · exact wf.not_isBelow_self _ (wf.isBelow_trans hk hbelow)

/-- As long as neither a node nor what is around it was given away, the same is around it. -/
theorem isBelow_iff (wf : before.WellFormed) (hx : before.Has x)
    (hout : ∀ k, k = x ∨ before.IsBelow k x → k ∉ gone) : after.IsBelow p x ↔ before.IsBelow p x :=
  wf.isBelow_iff_of_parents h.wellFormed fun z hz => by
    refine h.parent?_eq wf ?_ (hout z hz)
    rcases hz with rfl | hz
    · exact hx
    · exact hz.has_left

/-- What is around the scope was around it before. -/
theorem isBelow_scope_of_isBelow (wf : before.WellFormed) (hp : after.IsBelow p scope) :
    before.IsBelow p scope :=
  (h.isBelow_iff wf h.there (h.notMem_around wf)).1 hp

/-- As long as nothing was given away, what is around a node was there. -/
theorem has_of_isBelow (hgone : gone = []) (hx : before.Has x) (hp : after.IsBelow p x) :
    before.Has p := by
  have hpath := h.wellFormed.isBelow_iff_transGen.1 hp
  clear hp
  induction hpath using Relation.TransGen.head_induction_on with
  | single hholds => exact (h.held _ _ hx hholds).resolve_right (by simp [hgone])
  | head hholds _ ih => exact (h.held _ _ ih hholds).resolve_right (by simp [hgone])

/-- Nodes may be given away in several steps. -/
theorem trans (wf : before.WellFormed) (h' : Sheds scope more after later) :
    Sheds scope (gone ++ more) before later where
  wellFormed := h'.wellFormed
  there := h.there
  view x hx := by
    rw [h'.view x (h.has hx), h.view x hx, Option.map_map]
    congr 1
    funext view
    rw [Function.comp_apply, View.withKids_withKids]
    exact View.withKids_congr (filter_notMem_append ..)
  below x hx := by
    rcases List.mem_append.1 hx with hx | hx
    · exact h.below x hx
    · exact h.isBelow_of_isBelow wf h.there (h'.below x hx)
  held p x hx hp := by
    rcases h'.held p x (h.has hx) hp with hafter | hx'
    · have hholds := ((h'.holds_iff hafter).1 hp).1
      exact (h.held p x hx hholds).imp_right (List.mem_append_left more)
    · exact .inr (List.mem_append_right gone hx')

/-- What is left of the page is where it would be if what was given away were just taken out. -/
theorem spot?_eq (wf : before.WellFormed) (hx : before.Has x)
    (hout : ∀ k, k = x ∨ before.IsBelow k x → k ∉ gone) :
    after.spot? x = (gone.foldl Dom.detach before).spot? x := by
  have hcut : Cut scope gone before (gone.foldl Dom.detach before) :=
    (Cut.refl scope before).detachAll wf h.below
  have wf' := hcut.wellFormed wf
  obtain ⟨spot, hspot⟩ := exists_spot? ((hcut.rearranges.has_iff x).2 hx)
  obtain ⟨hmem, hid⟩ := (spot?_eq_some_iff wf').1 hspot
  obtain ⟨node, hroot, hnode, hin⟩ := mem_spots_iff.1 hmem
  have htop : (gone.foldl Dom.detach before).Sits (.top node) := hnode
  -- The node at the very top was there, and neither it nor what is below it moved.
  have habove : node.id = x ∨ before.IsBelow node.id x := by
    rcases root_eq_or_mem_ancestors spot with heq | hanc
    · left
      rw [← hid, ← heq, hroot]
      rfl
    · right
      have hbelow := wf'.isBelow_of_mem_ancestors (sits_of_mem_spots hmem) hanc
      rw [hroot, hid] at hbelow
      exact hcut.isBelow_of_isBelow wf hbelow
  have hthere : before.Has node.id := by
    rcases habove with heq | hbelow
    · exact heq ▸ hx
    · exact hbelow.has_left
  have hfind : after.find? node.id = some node := by
    rw [h.find?_eq wf hthere, ← hcut.rearranges.find?_eq wf]
    exact wf'.find?_spot htop
  have hparent : after.parent? node.id = none := by
    rw [h.parent?_eq wf hthere (hout _ habove), ← hcut.parent?_eq wf (hout _ habove)]
    exact wf'.parent?_eq_none_iff.2 (wf'.not_holds_top htop)
  have hafter : node ∈ after.roots.toList := h.wellFormed.mem_top hfind hparent
  rw [hspot]
  exact (spot?_eq_some_iff h.wellFormed).2
    ⟨mem_spots_iff.2 ⟨node, hroot, hafter, hin⟩, hid⟩

/-- Selectors find what they would find if what was given away were just taken out. -/
theorem select_eq_detached (wf : before.WellFormed) (selector : Selector) :
    after.select scope selector = (gone.foldl Dom.detach before).select scope selector := by
  rw [select, select, h.spot?_eq wf h.there (h.notMem_around wf)]

/-- Selectors that look up only find what they found before, as far as that was not given away. -/
theorem select_eq (wf : before.WellFormed) {selector : Selector} (hs : selector.looksUp = true)
    {tag : Tag} (htag : before.tag? scope = some tag) (hdocument : tag.isDocument = false) :
    after.select scope selector = (before.select scope selector).filter fun y =>
      decide (∀ k ∈ gone, k ≠ y ∧ ¬before.IsBelow k y) := by
  have hcut : Cut scope gone before (gone.foldl Dom.detach before) :=
    (Cut.refl scope before).detachAll wf h.below
  generalize hpage : gone.foldl Dom.detach before = page at hcut
  have hpart := hcut.sublist_children
  have honce := wf.nodup_children scope
  rw [h.select_eq_detached wf, hpage,
    eq_filter_of_sublist ((sublist_select page scope selector).trans hpart) honce,
    eq_filter_of_sublist (List.filter_sublist.trans (sublist_select before scope selector)) honce]
  refine List.filter_congr fun y _ => decide_eq_decide.2 ?_
  rw [hcut.mem_select_iff_of_looksUp wf hs htag hdocument, List.mem_filter, decide_eq_true_iff,
    and_comm]
  refine and_congr_right fun hy => ?_
  have hbelow := (isBelow_of_mem_select wf hy).1
  rw [hcut.isBelow_scope_iff wf]
  constructor
  · rintro ⟨-, hout⟩ k hk
    exact ⟨fun heq => hout k (h.below k hk) (.inl heq) hk,
      fun hin => hout k (h.below k hk) (.inr hin) hk⟩
  · intro hout
    refine ⟨hbelow, fun k _ hcase hk => ?_⟩
    rcases hcase with heq | hin
    · exact (hout k hk).1 heq
    · exact (hout k hk).2 hin

/-- As long as nothing was given away, all selectors find what they found before. -/
theorem select_eq_self (wf : before.WellFormed) (hgone : gone = []) (selector : Selector) :
    after.select scope selector = before.select scope selector := by
  subst hgone
  exact h.select_eq_detached wf selector

end Sheds

end Dom

end PageBlocks
