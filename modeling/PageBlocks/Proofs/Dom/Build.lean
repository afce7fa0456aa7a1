import PageBlocks.Proofs.Dom.Guard
/-!
# Elements that are built

An element at the top of the page is built by putting nodes at the end of its children: nodes from
elsewhere, or new ones that were built before.  When none of the nodes that it takes is inside another
one, each of them is in it afterwards just as it was, and so is whatever it held already.

## Main results

* `Dom.builds_append` — a node is put into an element as it is.
* `Dom.builds_nested` — a new element is built, and then put into another one.
* `Dom.builds_foldl` — an element is built by one step for each member of a row.
-/

namespace PageBlocks.Dom

variable {p c x : NodeId} {tag : Tag} {node : Node} {children new row : Forest}
  {gone rest : List NodeId} {dom before first mid after : Dom}
  {rows : NodeId → List NodeId → List NodeId}

/-! ## Trees of rearranged pages -/

/-- A tree in which no row is changed is what it was. -/
theorem Rearranges.find?_eq_self (h : Rearranges before after rows) (wf : before.WellFormed)
    (has : before.Has x)
    (hrows : ∀ y, y = x ∨ before.IsBelow x y → rows y (before.kids y) = before.kids y) :
    after.find? x = before.find? x :=
  wf.find?_congr (h.wellFormed wf) has fun y hy => by
    rw [h.view]
    exact Forest.map_withKids_eq_self (hrows y hy)

/-- An element whose row is changed holds the trees of the new row, if none of these is changed. -/
theorem Rearranges.find?_eq_element (h : Rearranges before after rows) (wf : before.WellFormed)
    (hp : before.find? p = some (.element p tag children)) (hrow : rows p children.topIds = new.topIds)
    (hnew : ∀ inner ∈ new.nodes, inner ∈ before.roots.nodes ∧
      rows inner.id (before.kids inner.id) = before.kids inner.id) :
    after.find? p = some (.element p tag new) := by
  refine (h.wellFormed wf).find?_element_of_views ?_ fun inner hinner => ?_
  · rw [h.view, view?, Forest.view?, ← find?, hp, ← hrow]
    rfl
  · obtain ⟨hmem, hsame⟩ := hnew inner hinner
    rw [h.view, ← wf.view?_of_mem_nodes hmem]
    exact Forest.map_withKids_eq_self hsame

section

variable (wf : dom.WellFormed) (hp : dom.find? p = some (.element p tag children))
  (hc : dom.find? c = some node) (hne : p ≠ c) (hout : ¬dom.IsBelow p c) (hin : ¬dom.IsBelow c p)

include wf hp hc hne hout hin

/-- A node that is put into an element from elsewhere stands there as it is, beside what was there. -/
private theorem find?_into (arrange : List NodeId → List NodeId)
    (h : Rearranges dom after fun x kids =>
      if x = p then arrange (swap c [] kids) else swap c [] kids)
    (htop : new.topIds = arrange children.topIds)
    (hnew : ∀ inner ∈ new.nodes, inner ∈ children.nodes ∨ inner ∈ node.toForest.nodes) :
    after.find? p = some (.element p tag new) := by
  have hkids : dom.kids p = children.topIds := Forest.kids_of_find? hp
  refine h.find?_eq_element wf hp ?_ fun inner hinner => ?_
  · have hnot : c ∉ children.topIds := by
      rw [← hkids]
      exact fun hholds => hout (Holds.isBelow hholds)
    rw [if_pos rfl, swap_of_notMem hnot, htop]
  · have hplace : dom.IsBelow p inner.id ∨ inner.id = c ∨ dom.IsBelow c inner.id := by
      rcases hnew inner hinner with hinner | hinner
      · exact .inl (isBelow_iff.2 ⟨_, hp, Forest.id_mem_ids hinner⟩)
      · have hids : inner.id ∈ node.ids := Forest.id_mem_ids hinner
        exact .inr ((mem_ids_iff_isBelow hc).1 hids)
    have hip : inner.id ≠ p := by
      intro heq
      rcases hplace with hplace | hplace | hplace
      · exact wf.not_isBelow_self p (heq ▸ hplace)
      · exact hne (heq.symm.trans hplace)
      · exact hin (heq ▸ hplace)
    refine ⟨?_, ?_⟩
    · rcases hnew inner hinner with hinner | hinner
      · exact Forest.nodes_children_subset (Forest.mem_nodes_of_find? hp) hinner
      · exact Forest.nodes_toForest_subset (Forest.mem_nodes_of_find? hc) hinner
    · rw [if_neg hip]
      refine swap_of_notMem fun hholds => ?_
      rcases hplace with hplace | hplace | hplace
      · exact hout (wf.isBelow_of_holds hplace hholds)
      · rw [hplace] at hholds
        exact wf.not_isBelow_self c (Holds.isBelow hholds)
      · exact wf.not_isBelow_self c (wf.isBelow_of_holds hplace hholds)

/-- A node that is appended stands behind what was there. -/
theorem find?_append_self :
    (dom.append p c).find? p = some (.element p tag (children ++ node.toForest)) := by
  have htag := tag?_of_find? hp
  refine find?_into wf hp hc hne hout hin (fun kids => kids ++ [c])
    (rearranges_append wf (has_iff_find?.2 ⟨node, hc⟩) htag hne hin) ?_ fun inner hinner => ?_
  · rw [Forest.topIds_append, Node.topIds_toForest, Forest.id_of_find? hc]
  · rwa [Forest.nodes_append, List.mem_append] at hinner

/-- A node that is prepended stands in front of what was there. -/
theorem find?_prepend_self :
    (dom.prepend p c).find? p = some (.element p tag (node.toForest ++ children)) := by
  have htag := tag?_of_find? hp
  refine find?_into wf hp hc hne hout hin (fun kids => c :: kids)
    (rearranges_prepend wf (has_iff_find?.2 ⟨node, hc⟩) htag hne hin) ?_ fun inner hinner => ?_
  · rw [Forest.topIds_append, Node.topIds_toForest, Forest.id_of_find? hc]
    rfl
  · rw [Forest.nodes_append, List.mem_append] at hinner
    exact hinner.symm

end

/-- A tree is what it was when a node from outside it goes to a place outside it. -/
theorem find?_append_of_apart (wf : dom.WellFormed) (hp : dom.tag? p = some tag) (hc : dom.Has c)
    (hne : p ≠ c) (hin : ¬dom.IsBelow c p) (has : dom.Has x) (hxp : ¬(x = p ∨ dom.IsBelow x p))
    (hxc : ¬dom.IsBelow x c) : (dom.append p c).find? x = dom.find? x := by
  refine (rearranges_append wf hc hp hne hin).find?_eq_self wf has fun y hy => ?_
  have hyp : y ≠ p := by
    rintro rfl
    exact hxp (hy.imp_left Eq.symm)
  rw [if_neg hyp]
  refine swap_of_notMem fun hholds => hxc ?_
  rcases hy with rfl | hy
  · exact Holds.isBelow hholds
  · exact wf.isBelow_of_holds hy hholds

/-! ## What is left alone -/

/-- All trees of a page are what they were, but for an element that is built and for those from which
nodes were taken; and only these nodes have another parent. -/
structure Spares (p : NodeId) (gone : List NodeId) (before after : Dom) : Prop where
  wellFormed : after.WellFormed
  has : ∀ x, before.Has x → after.Has x
  find? : ∀ x, before.Has x → x ≠ p → (∀ k ∈ gone, ¬before.IsBelow x k) →
    after.find? x = before.find? x
  parent? : ∀ x, before.Has x → x ∉ gone → after.parent? x = before.parent? x

theorem isBelow_iff_of_find? (h : after.find? x = before.find? x) {y : NodeId} :
    after.IsBelow x y ↔ before.IsBelow x y := by
  rw [isBelow_iff, isBelow_iff, h]

namespace Spares

theorem refl (wf : dom.WellFormed) : Spares p [] dom dom :=
  ⟨wf, fun _ h => h, fun _ _ _ _ => rfl, fun _ _ _ => rfl⟩

theorem trans (h : Spares p gone before mid) (h' : Spares p rest mid after) :
    Spares p (gone ++ rest) before after where
  wellFormed := h'.wellFormed
  has x hx := h'.has x (h.has x hx)
  find? x hx hxp hout := by
    have hfirst := h.find? x hx hxp fun k hk => hout k (List.mem_append_left _ hk)
    refine (h'.find? x (h.has x hx) hxp fun k hk => ?_).trans hfirst
    rw [isBelow_iff_of_find? hfirst]
    exact hout k (List.mem_append_right _ hk)
  parent? x hx hout := by
    rw [List.mem_append, not_or] at hout
    exact (h'.parent? x (h.has x hx) hout.2).trans (h.parent? x hx hout.1)

end Spares

/-- Nodes of a page, each mentioned once, none of which is inside another one. -/
structure Separate (ids : List NodeId) (dom : Dom) : Prop where
  has : ∀ k ∈ ids, dom.Has k
  nodup : ids.Nodup
  apart : ∀ k ∈ ids, ∀ l ∈ ids, ¬dom.IsBelow k l

/-- Nodes that may be put into an element at the top of the page, outside of which they are. -/
structure Movable (p : NodeId) (ids : List NodeId) (dom : Dom) : Prop extends Separate ids dom where
  wellFormed : dom.WellFormed
  loose : Loose dom p
  ne : ∀ k ∈ ids, k ≠ p
  out : ∀ k ∈ ids, ¬dom.IsBelow p k

/-- What is separate may be put into a new element. -/
theorem Separate.createElement (h : Separate gone dom) (wf : dom.WellFormed) (tag : Tag) :
    Movable dom.fresh gone (dom.createElement tag).2 := by
  have hgrows := grows_createElement dom tag
  refine ⟨⟨fun k hk => ?_, h.nodup, fun k hk l hl => ?_⟩, hgrows.wellFormed wf,
    loose_createElement wf tag, fun k hk heq => ?_, fun k hk hin => ?_⟩
  · exact hgrows.has_iff.2 (.inl (h.has k hk))
  · rw [isBelow_iff_of_find? (hgrows.find? wf (h.has k hk))]
    exact h.apart k hk l hl
  · exact wf.not_has_fresh (heq ▸ h.has k hk)
  · exact wf.not_has_fresh ((hgrows.isBelow_iff wf (h.has k hk)).1 hin).has_left

theorem Separate.tail (h : Separate (x :: rest) dom) : Separate rest dom where
  has k hk := h.has k (List.mem_cons_of_mem _ hk)
  nodup := h.nodup.of_cons
  apart k hk l hl := h.apart k (List.mem_cons_of_mem _ hk) l (List.mem_cons_of_mem _ hl)

namespace Movable

/-- Some of the nodes may be put into the element before the others. -/
theorem left (h : Movable p (gone ++ rest) dom) : Movable p gone dom where
  wellFormed := h.wellFormed
  loose := h.loose
  has k hk := h.has k (List.mem_append_left _ hk)
  ne k hk := h.ne k (List.mem_append_left _ hk)
  out k hk := h.out k (List.mem_append_left _ hk)
  nodup := h.nodup.of_append_left
  apart k hk l hl := h.apart k (List.mem_append_left _ hk) l (List.mem_append_left _ hl)

/-- What may be put into an element may be put into a new one. -/
theorem createElement (h : Movable p gone dom) (tag : Tag) :
    Movable dom.fresh gone (dom.createElement tag).2 :=
  h.toSeparate.createElement h.wellFormed tag

/-- The other nodes are as they were then. -/
theorem find?_eq (h : Movable p (gone ++ rest) before) (hs : Spares p gone before after)
    (hx : x ∈ rest) : after.find? x = before.find? x := by
  have hin : x ∈ gone ++ rest := List.mem_append_right _ hx
  exact hs.find? x (h.has x hin) (h.ne x hin) fun k hk => h.apart x hin k (List.mem_append_left _ hk)

/-- The other nodes may be put into the element then. -/
theorem right (h : Movable p (gone ++ rest) before) (hs : Spares p gone before after)
    (hp : after.tag? p = some tag) : Movable p rest after where
  wellFormed := hs.wellFormed
  loose := by
    obtain ⟨old, hold⟩ := h.loose.element
    refine ⟨⟨tag, hp⟩, (hs.parent? p (has_of_tag? hold) fun hgone => ?_).trans h.loose.parent⟩
    exact h.ne p (List.mem_append_left _ hgone) rfl
  has k hk := hs.has k (h.has k (List.mem_append_right _ hk))
  ne k hk := h.ne k (List.mem_append_right _ hk)
  out k hk := by
    have hin : k ∈ gone ++ rest := List.mem_append_right _ hk
    -- Neither the node nor what is around it was taken, so that the same is around it.
    rw [h.wellFormed.isBelow_iff_of_parents hs.wellFormed fun z hz => ?_]
    · exact h.out k hin
    · refine hs.parent? z ?_ fun hgone => ?_
      · rcases hz with rfl | hz
        · exact h.has z hin
        · exact hz.has_left
      · rcases hz with rfl | hz
        · exact List.disjoint_of_nodup_append h.nodup hgone hk
        · exact h.apart z (List.mem_append_left _ hgone) k hin hz
  nodup := h.nodup.of_append_right
  apart k hk l hl := by
    rw [isBelow_iff_of_find? (h.find?_eq hs hk)]
    exact h.apart k (List.mem_append_right _ hk) l (List.mem_append_right _ hl)

end Movable

/-! ## What is built -/

/-- An element got more children, some of which were taken from elsewhere. -/
structure Builds (p : NodeId) (gone : List NodeId) (new : Forest) (before after : Dom) : Prop
    extends Spares p gone before after where
  row : ∃ tag children, before.find? p = some (.element p tag children) ∧
    after.find? p = some (.element p tag (children ++ new))

theorem Loose.exists_find? (h : Loose dom p) :
    ∃ tag children, dom.find? p = some (.element p tag children) := by
  obtain ⟨tag, htag⟩ := h.element
  obtain ⟨children, hfind⟩ := exists_find?_of_tag? htag
  exact ⟨tag, children, hfind⟩

namespace Builds

theorem refl (wf : dom.WellFormed) (hp : Loose dom p) : Builds p [] .nil dom dom := by
  obtain ⟨tag, children, hfind⟩ := hp.exists_find?
  exact ⟨.refl wf, tag, children, hfind, by rw [Forest.append_nil, hfind]⟩

theorem trans (h : Builds p gone new before mid) (h' : Builds p rest row mid after) :
    Builds p (gone ++ rest) (new ++ row) before after := by
  obtain ⟨tag, children, hbefore, hmid⟩ := h.row
  obtain ⟨tag', children', hmid', hafter⟩ := h'.row
  cases hmid.symm.trans hmid'
  refine ⟨h.toSpares.trans h'.toSpares, tag, children, hbefore, ?_⟩
  rw [hafter, Forest.append_assoc]

theorem movable (h : Builds p gone new before after) (hm : Movable p (gone ++ rest) before) :
    Movable p rest after := by
  obtain ⟨tag, children, -, hafter⟩ := h.row
  exact hm.right h.toSpares (tag?_of_find? hafter)

end Builds

/-- A node is put into an element as it is. -/
theorem builds_append (h : Movable p [c] dom) (hc : dom.find? c = some node) :
    Builds p [c] node.toForest dom (dom.append p c) := by
  have wf := h.wellFormed
  have has : dom.Has c := h.has c List.mem_cons_self
  have hne : p ≠ c := (h.ne c List.mem_cons_self).symm
  have hout := h.out c List.mem_cons_self
  have hin : ¬dom.IsBelow c p := not_isBelow_loose wf h.loose
  obtain ⟨tag, children, hfind⟩ := h.loose.exists_find?
  have htag := tag?_of_find? hfind
  have hchange : Change {c}ᶜ ∅ dom (dom.append p c) :=
    append_loose wf h.loose (Set.notMem_empty _) ⟨fun hnot => hnot rfl, has⟩ hne
  have hext := hchange.extends wf
  refine ⟨⟨hext.wellFormed, hext.has, fun x hx hxp hout => ?_, fun x hx hout => ?_⟩, tag, children,
    hfind, find?_append_self wf hfind hc hne hout hin⟩
  · refine find?_append_of_apart wf htag has hne hin hx ?_ (hout c List.mem_cons_self)
    exact not_or.2 ⟨hxp, not_isBelow_loose wf h.loose⟩
  · refine hchange.parent?_eq wf (fun heq => hout ?_) hx
    exact List.mem_singleton.2 heq

/-- A new node, with what was put into it, is put into an element. -/
theorem builds_nested (h : Movable p gone dom) (hgrows : Grows dom first new)
    (htop : dom.fresh ∈ new.topIds) (hs : Spares dom.fresh gone first mid)
    (hnode : mid.find? dom.fresh = some node) :
    Builds p gone node.toForest dom (mid.append p dom.fresh) := by
  have wf := h.wellFormed
  have wf2 := hs.wellFormed
  have hhas {x : NodeId} (hx : dom.Has x) : first.Has x := hgrows.has_iff.2 (.inl hx)
  have hfresh : first.Has dom.fresh := hgrows.has_iff.2 (.inr (Forest.topIds_subset_ids htop))
  have hne {x : NodeId} (hx : dom.Has x) : x ≠ dom.fresh := fun heq => wf.not_has_fresh (heq ▸ hx)
  have hsame {x : NodeId} (hx : dom.Has x) (hout : ∀ k ∈ gone, ¬dom.IsBelow x k) :
      mid.find? x = dom.find? x := by
    have hfirst := hgrows.find? wf hx
    refine (hs.find? x (hhas hx) (hne hx) fun k hk => ?_).trans hfirst
    rw [isBelow_iff_of_find? hfirst]
    exact hout k hk
  have hparent {x : NodeId} (hx : dom.Has x) (hout : x ∉ gone) : mid.parent? x = dom.parent? x :=
    (hs.parent? x (hhas hx) hout).trans (hgrows.parent?_eq wf hx)
  -- The new node is at the top until it is put into the element.
  have hnot {x : NodeId} : ¬mid.IsBelow x dom.fresh := by
    intro hbelow
    obtain ⟨q, hq, -⟩ := wf2.isBelow_cases hbelow
    rw [hs.parent? _ hfresh fun hin => wf.not_has_fresh (h.has _ hin), hgrows.parent?_top wf htop] at hq
    cases hq
  obtain ⟨tag, children, hp⟩ := h.loose.exists_find?
  have hpdom : dom.Has p := has_iff_find?.2 ⟨_, hp⟩
  have hpmid : mid.find? p = some (.element p tag children) := (hsame hpdom h.out).trans hp
  have hloose : Loose mid p := by
    refine ⟨⟨tag, tag?_of_find? hpmid⟩, (hparent hpdom fun hin => ?_).trans h.loose.parent⟩
    exact h.ne p hin rfl
  have hmovable : Movable p [dom.fresh] mid := by
    refine ⟨⟨?_, List.nodup_singleton _, ?_⟩, wf2, hloose, ?_, ?_⟩
    · exact List.forall_mem_singleton.2 (hs.has _ hfresh)
    · exact List.forall_mem_singleton.2 (List.forall_mem_singleton.2 hnot)
    · exact List.forall_mem_singleton.2 (hne hpdom).symm
    · exact List.forall_mem_singleton.2 hnot
  have hlast := builds_append hmovable hnode
  refine ⟨⟨hlast.wellFormed, fun x hx => hlast.has x (hs.has x (hhas hx)), fun x hx hxp hout => ?_,
    fun x hx hout => ?_⟩, tag, children, hp, ?_⟩
  · refine (hlast.find? x (hs.has x (hhas hx)) hxp ?_).trans (hsame hx hout)
    exact List.forall_mem_singleton.2 hnot
  · refine (hlast.parent? x (hs.has x (hhas hx)) ?_).trans (hparent hx hout)
    exact fun hin => hne hx (List.mem_singleton.1 hin)
  · obtain ⟨tag', children', hmid, hafter⟩ := hlast.row
    cases hpmid.symm.trans hmid
    exact hafter

/-- New text is put into an element. -/
theorem builds_appendText (h : Movable p [] dom) (content : String) :
    Builds p [] (.leaf dom.fresh (.text .plain content) .nil) dom (dom.appendText p content) := by
  have hgrows := grows_createLeaf dom (.text .plain content)
  have hfind := hgrows.find?_new h.wellFormed List.mem_cons_self
  rw [Forest.find?, if_pos rfl] at hfind
  exact builds_nested h hgrows List.mem_cons_self (.refl (hgrows.wellFormed h.wellFormed)) hfind

/-- An attribute of an element at the top is set. -/
theorem spares_setAttribute (wf : dom.WellFormed) (hp : dom.find? p = some (.element p tag children))
    (hloose : Loose dom p) (name value : String) :
    Spares p [] dom (dom.setAttribute p name value) ∧ (dom.setAttribute p name value).find? p =
      some (.element p (tag.setAttribute name value) children) := by
  have htag := tag?_of_find? hp
  have wf' := wellFormed_setAttribute wf htag name value
  have hview := view?_setAttribute wf htag name value
  have hmem := Forest.mem_nodes_of_find? hp
  refine ⟨⟨wf', fun x hx => (has_setAttribute_iff wf htag name value).2 hx, fun x hx hxp _ => ?_,
    fun x _ _ => Option.ext fun q => ?_⟩, ?_⟩
  · refine wf.find?_congr wf' hx fun y hy => ?_
    have hyp : y ≠ p := by
      rintro rfl
      rcases hy with heq | hin
      · exact hxp heq.symm
      · exact not_isBelow_loose wf hloose hin
    rw [hview, if_neg hyp]
  · rw [wf'.parent?_eq_some_iff, wf.parent?_eq_some_iff, Holds, Holds,
      kids_setAttribute wf htag name value]
  · refine wf'.find?_element_of_views ?_ fun inner hinner => ?_
    · rw [hview, if_pos rfl, kids, Forest.kids_of_find? hp]
      rfl
    · have hin : inner.id ∈ children.ids := Forest.id_mem_ids hinner
      have hip : inner.id ≠ p := by
        intro heq
        rw [heq] at hin
        exact Forest.id_notMem_children wf.nodup hmem hin
      rw [hview, if_neg hip, wf.view?_of_mem_nodes (Forest.nodes_children_subset hmem hinner)]

/-! ## One step after another -/

/-- A relation between the members of two rows may be replaced by one that holds of the same members. -/
theorem forall₂_of_mem {α β : Type} {R S : α → β → Prop} {items : List α} {others : List β}
    (h : List.Forall₂ R items others) (hmem : ∀ a ∈ items, ∀ b, R a b → S a b) :
    List.Forall₂ S items others := by
  have hboth := (List.forall₂_and_left items others).2 ⟨fun _ ha => ha, h⟩
  exact hboth.imp fun a b hab => hmem a hab.1 b hab.2

/-- An element is built by one step for each member of a row.  What a step adds is told by the nodes
that it takes as they were before all steps. -/
theorem builds_foldl {α : Type} {step : Dom → α → Dom} {ids : α → List NodeId}
    {R : (NodeId → Option Node) → α → Node → Prop}
    (hcongr : ∀ look look' item node, (∀ k ∈ ids item, look k = look' k) →
      R look item node → R look' item node)
    {items : List α} (hstep : ∀ item ∈ items, ∀ dom, Movable p (ids item) dom →
      ∃ node, Builds p (ids item) node.toForest dom (step dom item) ∧ R dom.find? item node)
    (h : Movable p (items.flatMap ids) dom) :
    ∃ new, Builds p (items.flatMap ids) new dom (items.foldl step dom) ∧
      List.Forall₂ (R dom.find?) items new.toList := by
  induction items generalizing dom with
  | nil => exact ⟨.nil, .refl h.wellFormed h.loose, .nil⟩
  | cons item items ih =>
    rw [List.flatMap_cons] at h ⊢
    obtain ⟨node, hfirst, hnode⟩ := hstep item List.mem_cons_self dom h.left
    obtain ⟨new, hrest, hnew⟩ := ih (fun other hother => hstep other (List.mem_cons_of_mem _ hother))
      (hfirst.movable h)
    refine ⟨node.toForest ++ new, hfirst.trans hrest, ?_⟩
    have hlist : (node.toForest ++ new).toList = node :: new.toList := by
      rw [Forest.toList_append]
      cases node <;> rfl
    rw [hlist]
    refine .cons hnode (forall₂_of_mem hnew fun other hother child hchild => ?_)
    exact hcongr _ _ other child (fun k hk =>
      h.find?_eq hfirst.toSpares (List.mem_flatMap.2 ⟨other, hother, hk⟩)) hchild

end PageBlocks.Dom
