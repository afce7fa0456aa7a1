import PageBlocks.Proofs.Dom.Change
/-!
# Guarded nodes

While blocks are made some nodes must stay where they are.  A set of them is guarded below a scope
when it has with each node also the parent of that node, which is never the scope itself.  Then
nothing below the scope is in the set, so that whatever is found there may be moved.  As long as the
nodes of the set are fixed, it stays guarded.

When all nodes of a page are guarded, all that happens is that new nodes come up beside it.  Each tree of
the page is then what it was, with the same around it, and what is new holds nothing of it.

## Main results

* `Dom.Guarded.notMem_of_isBelow_scope` — what is below the scope is not guarded.
* `Dom.Guarded.of_changes` — changes that fix the guarded nodes keep them guarded.
* `Dom.Guarded.around` — a guarded set may be extended by a node and all that is around it.
* `Dom.append_loose` — what is free may be moved into a new element.
* `Dom.Changes.keeps` — changes that leave all nodes of a page fixed and closed only add to it.
* `Dom.Keeps.notMem_of_new` — what is new holds no node that was there.
-/

namespace PageBlocks.Dom

/-- The nodes of a set have their parents in the set, and none of these is the scope. -/
structure Guarded (kept : Set NodeId) (scope : NodeId) (dom : Dom) : Prop where
  wellFormed : dom.WellFormed
  has : ∀ k ∈ kept, dom.Has k
  up : ∀ k ∈ kept, ∀ p, dom.Holds p k → p ∈ kept ∧ p ≠ scope

/-- A node that may be moved. -/
def Free (kept : Set NodeId) (dom : Dom) (id : NodeId) : Prop :=
  id ∉ kept ∧ dom.Has id

/-- An element that nothing holds. -/
structure Loose (dom : Dom) (id : NodeId) : Prop where
  element : ∃ tag, dom.tag? id = some tag
  parent : dom.parent? id = none

variable {kept closed : Set NodeId} {scope x y p : NodeId} {dom before after : Dom}

/-! ## What is free -/

theorem Free.of_has (h : Free kept before x) (hm : ∀ y, before.Has y → after.Has y) :
    Free kept after x :=
  ⟨h.1, hm x h.2⟩

namespace Guarded

theorem notMem_of_isBelow_scope (h : Guarded kept scope dom) (hx : dom.IsBelow scope x) :
    x ∉ kept := by
  have hpath := h.wellFormed.isBelow_iff_transGen.1 hx
  clear hx
  induction hpath with
  | single hholds => exact fun hin => (h.up _ hin _ hholds).2 rfl
  | tail _ hholds ih => exact fun hin => ih (h.up _ hin _ hholds).1

theorem notMem_of_isBelow (h : Guarded kept scope dom) (hy : y ∉ kept) (hx : dom.IsBelow y x) :
    x ∉ kept := by
  have hpath := h.wellFormed.isBelow_iff_transGen.1 hx
  clear hx
  induction hpath with
  | single hholds => exact fun hin => hy (h.up _ hin _ hholds).1
  | tail _ hholds ih => exact fun hin => ih (h.up _ hin _ hholds).1

theorem free_of_isBelow_scope (h : Guarded kept scope dom) (hx : dom.IsBelow scope x) :
    Free kept dom x :=
  ⟨h.notMem_of_isBelow_scope hx, hx.has_right⟩

theorem free_of_isBelow (h : Guarded kept scope dom) (hy : Free kept dom y)
    (hx : dom.IsBelow y x) : Free kept dom x :=
  ⟨h.notMem_of_isBelow hy.1 hx, hx.has_right⟩

/-- Changes that fix the guarded nodes keep them guarded. -/
theorem of_changes {fixed : Set NodeId} (h : Guarded kept scope before)
    (hc : Changes fixed closed before after) (hfixed : kept ⊆ fixed) :
    Guarded kept scope after := by
  have hext := hc.extends h.wellFormed
  refine ⟨hext.wellFormed, fun k hk => hext.has k (h.has k hk), fun k hk p hp => ?_⟩
  rw [← hext.wellFormed.parent?_eq_some_iff,
    hc.parent?_eq h.wellFormed (hfixed hk) (h.has k hk), h.wellFormed.parent?_eq_some_iff] at hp
  exact h.up k hk p hp

/-- What is above a guarded node stays above it, as long as the guarded nodes are fixed. -/
theorem isBelow_iff {fixed : Set NodeId} (h : Guarded kept scope before)
    (hc : Changes fixed closed before after) (hfixed : kept ⊆ fixed) (hx : x ∈ kept) :
    after.IsBelow y x ↔ before.IsBelow y x := by
  have wf := h.wellFormed
  have hup {z : NodeId} (hz : z = x ∨ before.IsBelow z x) : z ∈ kept := by
    rcases hz with rfl | hz
    · exact hx
    · by_contra hout
      exact h.notMem_of_isBelow hout hz hx
  exact wf.isBelow_iff_of_parents (hc.wellFormed wf) fun z hz =>
    hc.parent?_eq wf (hfixed (hup hz)) (h.has z (hup hz))

/-- A page guards nothing at least. -/
theorem empty (wf : dom.WellFormed) (scope : NodeId) : Guarded ∅ scope dom :=
  ⟨wf, fun _ hk => absurd hk (Set.notMem_empty _), fun _ hk => absurd hk (Set.notMem_empty _)⟩

theorem insert_loose (h : Guarded kept scope dom) (hp : Loose dom p) :
    Guarded (insert p kept) scope dom := by
  obtain ⟨tag, htag⟩ := hp.element
  refine ⟨h.wellFormed, fun k hk => ?_, fun k hk q hq => ?_⟩
  · rcases hk with rfl | hk
    · exact has_of_tag? htag
    · exact h.has k hk
  · rcases hk with rfl | hk
    · exact absurd hq (h.wellFormed.parent?_eq_none_iff.1 hp.parent q)
    · exact ⟨.inr (h.up k hk q hq).1, (h.up k hk q hq).2⟩

/-- A node and all that is around it may be guarded as well, if it is not guarded already or is the
scope. -/
theorem around {c : NodeId} (h : Guarded kept scope dom) (has : dom.Has c)
    (hc : c ∉ kept ∨ c = scope) :
    Guarded (kept ∪ {k | k = c ∨ dom.IsBelow k c}) c dom := by
  have wf := h.wellFormed
  refine ⟨wf, fun k hk => ?_, fun k hk p hp => ?_⟩
  · rcases hk with hk | rfl | hk
    · exact h.has k hk
    · exact has
    · exact hk.has_left
  · rcases hk with hk | hk
    · obtain ⟨hin, hne⟩ := h.up k hk p hp
      refine ⟨.inl hin, ?_⟩
      rcases hc with hc | rfl
      · exact fun heq => hc (heq ▸ hin)
      · exact hne
    · have hbelow : dom.IsBelow p c := by
        rcases hk with rfl | hk
        · exact hp.isBelow
        · exact wf.isBelow_trans hp.isBelow hk
      exact ⟨.inr (.inr hbelow), fun heq => wf.not_isBelow_self c (heq ▸ hbelow)⟩

end Guarded

/-! ## Series of changes -/

/-- Operations that touch nothing guarded touch nothing guarded one after another. -/
theorem foldl_changes {α : Type} (step : Dom → α → Dom)
    (hstep : ∀ dom item, Guarded kept scope dom → Changes kept kept dom (step dom item))
    (items : List α) (hg : Guarded kept scope dom) :
    Changes kept kept dom (items.foldl step dom) := by
  induction items generalizing dom with
  | nil => exact .refl
  | cons item items ih =>
    have hfirst := hstep dom item hg
    exact hfirst.trans (ih (hg.of_changes hfirst subset_rfl))

/-- To take out nodes that need not stay touches nothing guarded. -/
theorem detachAll_changes (closed : Set NodeId) (dom : Dom) {ids : List NodeId}
    (hids : ∀ id ∈ ids, id ∉ kept) : Changes kept closed dom (ids.foldl Dom.detach dom) := by
  induction ids generalizing dom with
  | nil => exact .refl
  | cons id ids ih =>
    have hfirst : Change kept closed dom (dom.detach id) := .detach (hids id List.mem_cons_self)
    exact .head hfirst (ih _ fun other h => hids other (List.mem_cons_of_mem _ h))

/-! ## New elements -/

theorem not_isBelow_loose (wf : dom.WellFormed) (hp : Loose dom p) : ¬dom.IsBelow x p := by
  intro h
  obtain ⟨q, hq, _⟩ := wf.isBelow_cases h
  rw [hp.parent] at hq
  cases hq

theorem Loose.of_changes {fixed : Set NodeId} (hp : Loose before p) (wf : before.WellFormed)
    (hc : Changes fixed closed before after) (hfixed : p ∈ fixed) : Loose after p := by
  obtain ⟨tag, htag⟩ := hp.element
  exact ⟨(hc.extends wf).element p tag htag,
    (hc.parent?_eq wf hfixed (has_of_tag? htag)).trans hp.parent⟩

theorem loose_createElement (wf : dom.WellFormed) (tag : Tag) :
    Loose (dom.createElement tag).2 dom.fresh where
  element := ⟨tag, tag?_eq_some_iff.2 ⟨[], wf.view?_createElement tag⟩⟩
  parent := (grows_createElement dom tag).parent?_top wf List.mem_cons_self

theorem Guarded.fresh_notMem (h : Guarded kept scope dom) : dom.fresh ∉ kept := fun hin =>
  h.wellFormed.not_has_fresh (h.has _ hin)

/-- A free node is free when the next new node is guarded. -/
theorem Free.insert_fresh (h : Free kept dom x) (wf : dom.WellFormed) :
    Free (insert dom.fresh kept) dom x := by
  refine ⟨?_, h.2⟩
  rintro (rfl | hin)
  · exact wf.not_has_fresh h.2
  · exact h.1 hin

/-- What is free may be moved into an element that nothing holds. -/
theorem append_loose (wf : dom.WellFormed) (hp : Loose dom p) (hnot : p ∉ closed)
    (hx : Free kept dom x) (hne : p ≠ x) : Change kept closed dom (dom.append p x) := by
  obtain ⟨tag, htag⟩ := hp.element
  exact .append hx.1 hnot hx.2 htag hne (not_isBelow_loose wf hp)

/-- New text may be put into an element that nothing holds. -/
theorem appendText_loose (wf : dom.WellFormed) (hp : Loose dom p) (hnot : p ∉ closed)
    (hkept : ∀ k ∈ kept, dom.Has k) (content : String) :
    Changes kept closed dom (dom.appendText p content) := by
  have hcreate : Change kept closed dom (dom.createLeaf (.text .plain content)).2 :=
    .createLeaf dom _
  have hgrows := grows_createLeaf dom (.text .plain content)
  obtain ⟨tag, htag⟩ := hp.element
  have hhas : dom.Has p := has_of_tag? htag
  have hnew : Free kept (dom.createLeaf (.text .plain content)).2 dom.fresh :=
    ⟨fun hin => wf.not_has_fresh (hkept _ hin), hgrows.has_iff.2 (.inr List.mem_cons_self)⟩
  have hloose : Loose (dom.createLeaf (.text .plain content)).2 p := by
    have hstay : Change (insert p kept) closed dom (dom.createLeaf (.text .plain content)).2 :=
      .createLeaf dom _
    exact hp.of_changes wf (.single hstay) (Set.mem_insert _ _)
  have hne : p ≠ dom.fresh := fun heq => wf.not_has_fresh (heq ▸ hhas)
  exact .tail (.single hcreate) (append_loose (hgrows.wellFormed wf) hloose hnot hnew hne)

/-! ## Changes that only add -/

/-- A page with all trees of an earlier one, where they were. -/
structure Keeps (before after : Dom) : Prop where
  wellFormed : after.WellFormed
  find? : ∀ x, before.Has x → after.find? x = before.find? x
  parent? : ∀ x, before.Has x → after.parent? x = before.parent? x

variable {node : Node}

namespace Keeps

theorem refl (wf : dom.WellFormed) : Keeps dom dom :=
  ⟨wf, fun _ _ => rfl, fun _ _ => rfl⟩

variable (h : Keeps before after)

include h

theorem has (hx : before.Has x) : after.Has x := by
  obtain ⟨node, hnode⟩ := has_iff_find?.1 hx
  exact has_iff_find?.2 ⟨node, (h.find? x hx).trans hnode⟩

/-- What is around a node that was there is what was around it. -/
theorem isBelow_iff (wf : before.WellFormed) (hx : before.Has x) :
    after.IsBelow y x ↔ before.IsBelow y x :=
  wf.isBelow_iff_of_parents h.wellFormed fun z hz => h.parent? z <| by
    rcases hz with rfl | hz
    · exact hx
    · exact hz.has_left

/-- What is new holds no node that was there. -/
theorem notMem_of_new (wf : before.WellFormed) (hx : ¬before.Has x) (hnode : after.find? x = some node) :
    ∀ k ∈ node.ids, ¬before.Has k := by
  intro k hk hthere
  rcases (mem_ids_iff_isBelow hnode).1 hk with rfl | hbelow
  · exact hx hthere
  · exact hx ((h.isBelow_iff wf hthere).1 hbelow).has_left

end Keeps

/-- All nodes of a page may be guarded together. -/
theorem WellFormed.guarded_all (wf : dom.WellFormed) : Guarded {k | dom.Has k} dom.fresh dom where
  wellFormed := wf
  has _ hk := hk
  up _ _ _ hp := ⟨hp.has_left, fun heq => wf.not_has_fresh (heq ▸ hp.has_left)⟩

/-- Changes that leave all nodes of a page fixed and closed only add to it. -/
theorem Changes.keeps (h : Changes {k | before.Has k} {k | before.Has k} before after)
    (wf : before.WellFormed) : Keeps before after where
  wellFormed := h.wellFormed wf
  find? x hx := by
    have hsealed : Sealed {k | before.Has k} {k | before.Has k} before :=
      fun _ hp => ⟨hp, fun _ hk => hk.has_right⟩
    refine wf.find?_congr (h.wellFormed wf) hx fun y hy => h.view?_eq wf hsealed ?_
    rcases hy with rfl | hy
    · exact hx
    · exact hy.has_right
  parent? x hx := h.parent?_eq wf hx hx

end PageBlocks.Dom
