import PageBlocks.Proofs.Dom.Prune
import PageBlocks.Proofs.Dom.Spots
/-!
# What removals leave behind

What is left of a page depends on which nodes were taken out and not on their order, but for the
subtrees that are beside the page now: there it still shows whether a node was taken out before the
one around it or with that one.

## Main results

* `Dom.spot?_eq_some_iff` — a node is at one spot of a page.
* `Dom.Cleared.find?_eq` — around a cleared scope just what is marked is missing.
* `Dom.Agree.spot?_eq` — a scope that was cleared of the same nodes is at the same spot.
-/

namespace PageBlocks.Dom

variable {dom : Dom}

/-! ## The one spot of a node -/

theorem map_id_spots (dom : Dom) : dom.spots.map Spot.id = dom.roots.ids := by
  rw [← Forest.map_id_nodes, ← map_node_spots, List.map_map]; rfl

theorem spot?_eq_some_iff (wf : dom.WellFormed) {x : NodeId} {spot : Spot} :
    dom.spot? x = some spot ↔ spot ∈ dom.spots ∧ spot.id = x := by
  constructor
  · intro h
    exact ⟨List.mem_of_find?_eq_some h, (sits_of_spot? h).2⟩
  · rintro ⟨hmem, rfl⟩
    have hunique : (dom.spots.map Spot.id).Nodup := by
      rw [map_id_spots]
      exact wf.nodup
    have has : dom.Has spot.id := by
      rw [Has, ← map_id_spots]
      exact List.mem_map_of_mem hmem
    obtain ⟨other, hother⟩ := exists_spot? has
    rw [hother, List.inj_on_of_nodup_map hunique (List.mem_of_find?_eq_some hother) hmem
      (sits_of_spot? hother).2]

theorem root_of_mem_within {parent spot : Spot} {before : List Node} {forest : Forest}
    (h : spot ∈ Spot.within parent before forest) : spot.root = parent.root := by
  induction forest generalizing parent before with
  | nil => cases h
  | leaf id content next ih =>
    rcases List.mem_cons.1 h with rfl | h
    · rfl
    · exact ih h
  | element id tag children next ihc ihn =>
    rcases List.mem_cons.1 h with rfl | h
    · rfl
    · rcases List.mem_append.1 h with h | h
      · have hroot := ihc h
        exact hroot
      · exact ihn h

/-- The spots of a page are those of the nodes at its top and all below them. -/
theorem mem_spots_iff {spot : Spot} :
    spot ∈ dom.spots ↔ ∃ node, spot.root = .top node ∧ node ∈ dom.roots.toList ∧
      spot ∈ Spot.top node :: (Spot.top node).descendants := by
  rw [spots, List.mem_flatMap]
  constructor
  · rintro ⟨node, hnode, h⟩
    refine ⟨node, ?_, hnode, h⟩
    rcases List.mem_cons.1 h with rfl | h
    · rfl
    · exact root_of_mem_within h
  · rintro ⟨node, _, hnode, h⟩
    exact ⟨node, hnode, h⟩

/-- The spots around one lead to the very top. -/
theorem root_eq_or_mem_ancestors (spot : Spot) :
    spot.root = spot ∨ spot.root ∈ spot.ancestors := by
  induction spot with
  | top node => exact .inl rfl
  | inside parent before node after ih =>
    exact .inr (List.mem_cons.2 ih)

/-- A node without a parent is at the top. -/
theorem WellFormed.mem_top (wf : dom.WellFormed) {x : NodeId} {node : Node}
    (hnode : dom.find? x = some node) (hparent : dom.parent? x = none) :
    node ∈ dom.roots.toList := by
  have has : x ∈ dom.roots.ids := Forest.mem_ids_of_find? hnode
  rcases List.mem_append.1 ((Forest.ids_perm dom.roots).mem_iff.1 has) with htop | hrow
  · rw [← Forest.map_id_toList] at htop
    obtain ⟨other, hother, rfl⟩ := List.mem_map.1 htop
    have hsame := Forest.find?_of_mem_nodes wf.nodup (Forest.mem_nodes_of_mem_toList hother)
    cases hnode.symm.trans hsame
    exact hother
  · obtain ⟨holder, hholder, hx⟩ := List.mem_flatMap.1 hrow
    exact absurd (Forest.mem_kids_of_mem_nodes wf.nodup hholder hx)
      (wf.parent?_eq_none_iff.1 hparent holder.id)

/-! ## Pages that were cleared -/

variable {scope x y : NodeId} {gone marked : List NodeId} {before after first second : Dom}

namespace Cut

variable (h : Cut scope gone before after) (wf : before.WellFormed)

include h wf

/-- What is left around the scope and was below it is below it still. -/
theorem isBelow_scope_of_isBelow (hx : ¬before.IsBelow scope x) (hy : after.IsBelow x y)
    (hscope : before.IsBelow scope y) : after.IsBelow scope y := by
  have wf' := h.wellFormed wf
  have hpath := wf'.isBelow_iff_transGen.1 hy
  clear hy
  induction hpath with
  | single hholds =>
    have hparent := wf.parent?_eq_some_iff.2 (h.holds_iff.1 hholds).1
    rcases (wf.isBelow_iff_of_parent hparent).1 hscope with rfl | hbelow
    · exact hholds.isBelow
    · exact absurd hbelow hx
  | tail _ hholds ih =>
    have hparent := wf.parent?_eq_some_iff.2 (h.holds_iff.1 hholds).1
    rcases (wf.isBelow_iff_of_parent hparent).1 hscope with rfl | hbelow
    · exact hholds.isBelow
    · exact wf'.isBelow_of_holds (ih hbelow) hholds

end Cut

/-- A page from which marked nodes were taken out until none of them was left below a scope. -/
structure Cleared (scope : NodeId) (marked : List NodeId) (before after : Dom) : Prop where
  below : ∀ x ∈ marked, before.IsBelow scope x
  cut : ∃ gone, gone ⊆ marked ∧ Cut scope gone before after
  clear : ∀ x ∈ marked, ¬after.IsBelow scope x

namespace Cleared

/-- A page is cleared of all that was taken out of it. -/
theorem of_cut (h : Cut scope gone before after) (wf : before.WellFormed) :
    Cleared scope gone before after :=
  ⟨h.below, ⟨gone, List.Subset.refl _, h⟩, fun _ hx hbelow => h.notMem_of_isBelow wf hbelow hx⟩

/-- Around a cleared scope just what is marked is missing. -/
theorem find?_eq (h : Cleared scope marked before after) (wf : before.WellFormed)
    (hx : ¬before.IsBelow scope x) :
    after.find? x = (before.find? x).map (Node.prune marked) := by
  obtain ⟨gone, hgone, hcut⟩ := h.cut
  have hfind := hcut.rearranges.find?_eq wf x
  rw [hfind]
  cases hnode : before.find? x with
  | none => rfl
  | some node =>
    rw [hnode, Option.map_some] at hfind
    have hclear : ∀ y ∈ (node.children.prune gone).ids, y ∉ marked := by
      intro y hy hmarked
      rw [← Node.children_prune] at hy
      have hbelow : after.IsBelow x y := isBelow_iff.2 ⟨_, hfind, hy⟩
      exact h.clear y hmarked (hcut.isBelow_scope_of_isBelow wf hx hbelow (h.below y hmarked))
    have hpruned := Forest.prune_eq_of_cleared hgone hclear
    cases node with
    | leaf id content => rfl
    | element id tag children => exact congrArg (fun left => some (Node.element id tag left)) hpruned

end Cleared

/-- Two pages that were made from one by clearing a scope of the same nodes. -/
def Agree (scope : NodeId) (before first second : Dom) : Prop :=
  ∃ marked, Cleared scope marked before first ∧ Cleared scope marked before second

namespace Agree

variable (h : Agree scope before first second) (wf : before.WellFormed)

theorem symm (h : Agree scope before first second) : Agree scope before second first := by
  obtain ⟨marked, hfirst, hsecond⟩ := h
  exact ⟨marked, hsecond, hfirst⟩

theorem exists_cut (h : Agree scope before first second) : ∃ gone, Cut scope gone before first := by
  obtain ⟨marked, hfirst, _⟩ := h
  obtain ⟨gone, _, hcut⟩ := hfirst.cut
  exact ⟨gone, hcut⟩

include h wf

/-- Around the scope the pages are the same. -/
theorem find?_eq (hx : ¬before.IsBelow scope x) : first.find? x = second.find? x := by
  obtain ⟨marked, hfirst, hsecond⟩ := h
  rw [hfirst.find?_eq wf hx, hsecond.find?_eq wf hx]

/-- The tree around the scope is at the top of both pages. -/
theorem mem_top {spot : Spot} {node : Node} (hspot : spot ∈ first.spots) (hid : spot.id = scope)
    (hroot : spot.root = .top node) (hnode : node ∈ first.roots.toList) :
    node ∈ second.roots.toList := by
  obtain ⟨gone, hcut⟩ := h.exists_cut
  obtain ⟨gone', hcut'⟩ := h.symm.exists_cut
  have wf₁ := hcut.wellFormed wf
  have wf₂ := hcut'.wellFormed wf
  have htop : first.Sits (.top node) := hnode
  have hout : ¬before.IsBelow scope node.id := by
    intro hbelow
    rcases root_eq_or_mem_ancestors spot with heq | hmem
    · have hself : node.id = scope := by rw [← hid, ← heq, hroot]; rfl
      rw [hself] at hbelow
      exact wf.not_isBelow_self _ hbelow
    · have habove := wf₁.isBelow_of_mem_ancestors (sits_of_mem_spots hspot) hmem
      rw [hroot, hid] at habove
      exact wf.not_isBelow_self _ (wf.isBelow_trans (hcut.isBelow_of_isBelow wf habove) hbelow)
  have hleft : node.id ∉ gone := fun hin => hout (hcut.below _ hin)
  have hleft' : node.id ∉ gone' := fun hin => hout (hcut'.below _ hin)
  have hparent : first.parent? node.id = none := wf₁.parent?_eq_none_iff.2 (wf₁.not_holds_top htop)
  refine wf₂.mem_top (x := node.id) ?_ ?_
  · rw [← h.find?_eq wf hout]
    exact wf₁.find?_spot htop
  · rw [hcut'.parent?_eq wf hleft', ← hcut.parent?_eq wf hleft, hparent]

/-- A scope that was cleared of the same nodes is at the same spot. -/
theorem spot?_eq : first.spot? scope = second.spot? scope := by
  have hmoves {first second : Dom} (h : Agree scope before first second) {spot : Spot}
      (hspot : first.spot? scope = some spot) : second.spot? scope = some spot := by
    obtain ⟨gone, hcut⟩ := h.exists_cut
    obtain ⟨gone', hcut'⟩ := h.symm.exists_cut
    obtain ⟨hmem, hid⟩ := (spot?_eq_some_iff (hcut.wellFormed wf)).1 hspot
    obtain ⟨node, hroot, hnode, hin⟩ := mem_spots_iff.1 hmem
    exact (spot?_eq_some_iff (hcut'.wellFormed wf)).2
      ⟨mem_spots_iff.2 ⟨node, hroot, h.mem_top wf hmem hid hroot hnode, hin⟩, hid⟩
  exact Option.ext fun spot => ⟨hmoves h, hmoves h.symm⟩

end Agree

end PageBlocks.Dom
