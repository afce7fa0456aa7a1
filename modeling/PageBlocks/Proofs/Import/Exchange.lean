import Mathlib.Logic.Function.Basic
import PageBlocks.Proofs.Dom.Build
import PageBlocks.Proofs.Dom.Guard
import PageBlocks.Proofs.Import.Trees
import PageBlocks.Proofs.Import.Turns
/-!
# Blocks in the place of elements

A rule may put each block in the place of the element that it is made from.  If the blocks only copy
what they are made from, and no element stands inside another one, it does not matter that they come one
after another: the content is in the end what it is when all elements give way at once.

The same holds of any nodes of a page that give way to others one after another: each tree of the page is
in the end what it is when all of them are exchanged at once.  The nodes that come for them are new, so
that none that is still to give way is ever inside one of those.

## Main results

* `Dom.Exchanged.find?_eq` — each tree that was there has its nodes exchanged.
* `Dom.Exchanged.keeps` — what is added to a page does not matter.
* `Dom.Exchanged.replaceWith` — one more node gives way to a new one.
* `Import.Turned.exchanged` — a turn exchanges an element for its block, if there are cells.
* `Import.makeEach_exchanged` — so do all turns of a rule, and each element is untouched until its turn.
* `Import.makeEach_exchanges` — what becomes of the content, and how many blocks are placed.
-/

namespace PageBlocks

/-! ## Exchanged trees -/

section

namespace Forest

/-- A forest in which other nodes stand in the place of some, of which nothing is left. -/
def exchange (given : NodeId → Option Node) : Forest → Forest
  | nil => nil
  | leaf id content next => ((given id).getD (.leaf id content)).consTo (next.exchange given)
  | element id tag children next =>
    ((given id).getD (.element id tag (children.exchange given))).consTo (next.exchange given)

end Forest

/-- A node in which others stand in the place of some below it. -/
def Node.exchange (given : NodeId → Option Node) : Node → Node
  | leaf id content => leaf id content
  | element id tag children => element id tag (children.exchange given)

/-- The identity of what stands in the place of a node. -/
def givenId (given : NodeId → Option Node) (x : NodeId) : NodeId :=
  ((given x).map Node.id).getD x

variable {given : NodeId → Option Node} {forest : Forest} {node : Node} {x : NodeId}

/-- A node that is exchanged, or kept as what became of it, has that identity. -/
theorem id_getD_given (h : node.id = x) : ((given x).getD node).id = givenId given x := by
  rw [givenId]
  cases given x with
  | none => exact h
  | some other => rfl

theorem givenId_of_none (h : given x = none) : givenId given x = x := by
  rw [givenId, h]
  rfl

theorem givenId_of_some (h : given x = some node) : givenId given x = node.id := by
  rw [givenId, h]
  rfl

@[simp] theorem Forest.topIds_consTo (node : Node) (forest : Forest) :
    (node.consTo forest).topIds = node.id :: forest.topIds := by
  cases node <;> rfl

theorem Node.children_exchange (given : NodeId → Option Node) (node : Node) :
    (node.exchange given).children = node.children.exchange given := by
  cases node <;> rfl

@[simp] theorem Node.id_exchange (given : NodeId → Option Node) (node : Node) :
    (node.exchange given).id = node.id := by
  cases node <;> rfl

namespace Forest

theorem nodes_consTo (node : Node) (forest : Forest) :
    (node.consTo forest).nodes = node.toForest.nodes ++ forest.nodes := by
  cases node <;> simp [Node.consTo, Node.toForest, nodes]

theorem topIds_exchange (given : NodeId → Option Node) (forest : Forest) :
    (forest.exchange given).topIds = forest.topIds.map (givenId given) := by
  induction forest with
  | nil => rfl
  | leaf id content next ih =>
    have hself : ((given id).getD (.leaf id content)).id = givenId given id := id_getD_given rfl
    rw [exchange, topIds_consTo, hself, ih]
    rfl
  | element id tag children next _ ih =>
    have hself : ((given id).getD (.element id tag (children.exchange given))).id =
        givenId given id := id_getD_given rfl
    rw [exchange, topIds_consTo, hself, ih]
    rfl

theorem exchange_eq_self (h : ∀ x ∈ forest.ids, given x = none) : forest.exchange given = forest := by
  induction forest with
  | nil => rfl
  | leaf id content next ih =>
    rw [exchange, h id List.mem_cons_self, ih fun x hx => h x (List.mem_cons_of_mem _ hx)]
    rfl
  | element id tag children next ihc ihn =>
    rw [exchange, h id List.mem_cons_self,
      ihc fun x hx => h x (List.mem_cons_of_mem _ (List.mem_append_left _ hx)),
      ihn fun x hx => h x (List.mem_cons_of_mem _ (List.mem_append_right _ hx))]
    rfl

/-- A node of an exchanged forest is one of the old nodes, or it came with one that was given. -/
theorem mem_nodes_exchange (h : node ∈ (forest.exchange given).nodes) :
    (∃ old ∈ forest.nodes, node = old.exchange given) ∨
      ∃ x new, given x = some new ∧ node ∈ new.toForest.nodes := by
  induction forest with
  | nil => cases h
  | leaf id content next ih =>
    rw [exchange, nodes_consTo, List.mem_append] at h
    rcases h with h | h
    · cases hgiven : given id with
      | none =>
        rw [hgiven] at h
        exact .inl ⟨_, List.mem_cons_self, List.mem_singleton.1 h⟩
      | some new =>
        rw [hgiven] at h
        exact .inr ⟨id, new, hgiven, h⟩
    · exact (ih h).imp_left fun ⟨old, hold, heq⟩ => ⟨old, List.mem_cons_of_mem _ hold, heq⟩
  | element id tag children next ihc ihn =>
    have hin {inner : Node} (h : inner ∈ children.nodes ++ next.nodes) :
        inner ∈ (element id tag children next).nodes := List.mem_cons_of_mem _ h
    rw [exchange, nodes_consTo, List.mem_append] at h
    rcases h with h | h
    · cases hgiven : given id with
      | none =>
        rw [hgiven] at h
        rcases List.mem_cons.1 h with rfl | h
        · exact .inl ⟨_, List.mem_cons_self, rfl⟩
        · rw [nodes, List.append_nil] at h
          exact (ihc h).imp_left fun ⟨old, hold, heq⟩ =>
            ⟨old, hin (List.mem_append_left _ hold), heq⟩
      | some new =>
        rw [hgiven] at h
        exact .inr ⟨id, new, hgiven, h⟩
    · exact (ihn h).imp_left fun ⟨old, hold, heq⟩ => ⟨old, hin (List.mem_append_right _ hold), heq⟩

end Forest

theorem Node.exchange_eq_self (h : ∀ x ∈ node.children.ids, given x = none) :
    node.exchange given = node := by
  cases node with
  | leaf id content => rfl
  | element id tag children => exact congrArg _ (Forest.exchange_eq_self h)

theorem Node.view_exchange (given : NodeId → Option Node) (node : Node) :
    (node.exchange given).view = node.view.withKids (List.map (givenId given)) := by
  cases node with
  | leaf id content => rfl
  | element id tag children => exact congrArg _ (Forest.topIds_exchange given children)

namespace Dom

/-- A page on which other nodes stand in the place of some, where all that came with these is new. -/
structure Exchanged (given : NodeId → Option Node) (before after : Dom) : Prop where
  wellFormed : after.WellFormed
  view : ∀ x, before.Has x →
    after.view? x = (before.view? x).map (View.withKids (List.map (givenId given)))
  put : ∀ x new, given x = some new → after.find? new.id = some new
  new : ∀ x new, given x = some new → ∀ k ∈ new.ids, ¬before.Has k

namespace Exchanged

variable {before mid after : Dom} {old p : NodeId} {new : Node}

/-- At first nothing is exchanged. -/
theorem refl (wf : before.WellFormed) : Exchanged (fun _ => none) before before where
  wellFormed := wf
  view x _ := by
    have hsame : (before.kids x).map (givenId fun _ => none) = before.kids x := List.map_id' _
    exact (Forest.map_withKids_eq_self hsame).symm
  put x new h := by cases h
  new x new h := by cases h

theorem has (h : Exchanged given before after) (has : before.Has x) : after.Has x := by
  obtain ⟨view, hview⟩ := has_iff_view.1 has
  exact has_iff_view.2 ⟨_, (h.view x has).trans (congrArg _ hview)⟩

/-- The row of a node that was there holds what stands in the place of its children. -/
theorem kids_eq (h : Exchanged given before after) (has : before.Has x) :
    after.kids x = (before.kids x).map (givenId given) := by
  rw [kids_eq_view, kids_eq_view, h.view x has]
  cases before.view? x with
  | none => rfl
  | some view => cases view <;> rfl

/-- Each tree that was there has its nodes exchanged. -/
theorem find?_eq (h : Exchanged given before after) (wf : before.WellFormed) (has : before.Has x) :
    after.find? x = (before.find? x).map (Node.exchange given) := by
  obtain ⟨node, hnode⟩ := has_iff_find?.1 has
  obtain rfl : node.id = x := Forest.id_of_find? hnode
  have hmem := Forest.mem_nodes_of_find? hnode
  have hshown {old : Node} (hold : old ∈ before.roots.nodes) :
      after.view? (old.exchange given).id = some (old.exchange given).view := by
    rw [Node.id_exchange, Node.view_exchange, h.view _ (Forest.id_mem_ids hold),
      wf.view?_of_mem_nodes hold]
    rfl
  rw [hnode, Option.map_some, ← Node.id_exchange given node]
  refine h.wellFormed.find?_eq_of_views (hshown hmem) fun inner hinner => ?_
  rw [Node.children_exchange] at hinner
  rcases Forest.mem_nodes_exchange hinner with ⟨old, hold, rfl⟩ | ⟨x, new, hnew, hin⟩
  · exact hshown (Forest.nodes_children_subset hmem hold)
  · have hput := Forest.mem_nodes_of_find? (h.put x new hnew)
    exact h.wellFormed.view?_of_mem_nodes (Forest.nodes_toForest_subset hput hin)

/-- A tree is as it was as long as nothing in it is exchanged. -/
theorem find?_eq_self (h : Exchanged given before after) (wf : before.WellFormed) (has : before.Has x)
    (hfree : ∀ y, before.IsBelow x y → given y = none) : after.find? x = before.find? x := by
  obtain ⟨node, hnode⟩ := has_iff_find?.1 has
  rw [h.find?_eq wf has, hnode, Option.map_some]
  refine congrArg some (Node.exchange_eq_self fun y hy => hfree y ?_)
  exact isBelow_iff.2 ⟨node, hnode, hy⟩

/-- What is added to a page does not matter. -/
theorem keeps (h : Exchanged given before mid) (hkeeps : Keeps mid after) :
    Exchanged given before after where
  wellFormed := hkeeps.wellFormed
  view x hx := by
    rw [← h.view x hx, view?, view?, Forest.view?, Forest.view?, ← find?, ← find?,
      hkeeps.find? x (h.has hx)]
  put x new hnew := by
    have hput := h.put x new hnew
    exact (hkeeps.find? _ (has_iff_find?.2 ⟨_, hput⟩)).trans hput
  new := h.new

/-- A node that is still to give way is where it was. -/
theorem parent?_eq (h : Exchanged given before after) (wf : before.WellFormed)
    (hp : before.parent? x = some p) (hx : given x = none) : after.parent? x = some p := by
  have hholds := wf.parent?_eq_some_iff.1 hp
  rw [h.wellFormed.parent?_eq_some_iff, Holds, h.kids_eq hholds.has_left, ← givenId_of_none hx]
  exact List.mem_map_of_mem hholds

/-- A row in which one more node gives way. -/
private theorem swap_givenId (hold : given old = none) {kids : List NodeId}
    (h : ∀ k ∈ kids, k ≠ old → givenId given k ≠ old) :
    swap old [new.id] (kids.map (givenId given)) =
      kids.map (givenId (Function.update given old (some new))) := by
  induction kids with
  | nil => rfl
  | cons k kids ih =>
    rw [List.map_cons, swap_cons, ih fun k hk => h k (List.mem_cons_of_mem _ hk), List.map_cons]
    by_cases hk : k = old
    · subst hk
      rw [givenId_of_none hold, if_pos rfl, givenId_of_some (Function.update_self ..)]
      rfl
    · have hsame : givenId (Function.update given old (some new)) k = givenId given k := by
        rw [givenId, Function.update_of_ne hk, ← givenId]
      rw [if_neg (h k List.mem_cons_self hk), hsame]
      rfl

/-- The row of a node that was there, once `old` gives way to `new`. -/
private theorem swap_kids_givenId (h : Exchanged given before mid) (hold : given old = none)
    (hat : before.Holds p old) (has : before.Has x) :
    swap old [new.id] (mid.kids x) =
      (before.kids x).map (givenId (Function.update given old (some new))) := by
  rw [h.kids_eq has]
  refine swap_givenId hold fun k hk hko heq => ?_
  cases hgiven : given k with
  | none => exact hko ((givenId_of_none hgiven).symm.trans heq)
  | some node =>
    have hself : node.id ∈ node.ids := by
      rw [Node.ids_eq]
      exact List.mem_cons_self
    rw [givenId_of_some hgiven] at heq
    exact h.new k node hgiven node.id hself (heq ▸ hat.has_right)

private theorem update_cases {node : Node} (h : Function.update given old (some new) x = some node) :
    node = new ∨ given x = some node := by
  by_cases hx : x = old
  · subst hx
    rw [Function.update_self] at h
    exact .inl (Option.some.inj h).symm
  · rw [Function.update_of_ne hx] at h
    exact .inr h

/-- One more node gives way to a new one. -/
theorem replaceWith (h : Exchanged given before mid) (wf : before.WellFormed)
    (hp : before.parent? old = some p) (hold : given old = none)
    (hnew : mid.find? new.id = some new) (htop : mid.parent? new.id = none)
    (hout : ∀ k ∈ new.ids, ¬before.Has k) :
    Exchanged (Function.update given old (some new)) before (mid.replaceWith old new.id) := by
  have wfm := h.wellFormed
  have hholds : before.Holds p old := wf.parent?_eq_some_iff.1 hp
  have hparent : mid.parent? old = some p := h.parent?_eq wf hp hold
  have hids {k : NodeId} (hk : k = new.id ∨ mid.IsBelow new.id k) : ¬before.Has k :=
    hout k ((mem_ids_iff_isBelow hnew).2 hk)
  have hne : old ≠ new.id := fun heq => hids (.inl heq) hholds.has_right
  have hin : ¬mid.IsBelow new.id old := fun hbelow => hids (.inr hbelow) hholds.has_right
  have hmoved := rearranges_replaceWith wfm (has_iff_find?.2 ⟨_, hnew⟩) hparent hne hin
  have hloose (y : NodeId) : swap new.id [] (mid.kids y) = mid.kids y :=
    swap_of_notMem (wfm.parent?_eq_none_iff.1 htop y)
  -- The node that gives way is in a tree that was there, so that no tree that came later changes.
  have hkept {node : Node} (hnode : mid.find? node.id = some node)
      (hfar : ∀ k ∈ node.ids, ¬before.Has k) :
      (mid.replaceWith old new.id).find? node.id = some node := by
    rw [← hnode]
    refine hmoved.find?_eq_self wfm (has_iff_find?.2 ⟨_, hnode⟩) fun y hy => ?_
    rw [hloose]
    refine swap_of_notMem fun hmem => ?_
    obtain rfl : y = p := wfm.parent_unique hmem (wfm.parent?_eq_some_iff.1 hparent)
    exact hfar y ((mem_ids_iff_isBelow hnode).2 hy) hholds.has_left
  refine ⟨hmoved.wellFormed wfm, fun x hx => ?_, fun x node hnode => ?_, fun x node hnode => ?_⟩
  · obtain ⟨view, hview⟩ := has_iff_view.1 hx
    have hrow : mid.kids x = view.kids.map (givenId given) := by
      rw [h.kids_eq hx, kids_of_view hview]
    rw [hmoved.view, h.view x hx, hview, Option.map_some, Option.map_some, Option.map_some,
      View.withKids_withKids]
    refine congrArg some (View.withKids_congr ?_)
    rw [← hrow, hloose, h.swap_kids_givenId hold hholds hx, kids_of_view hview]
  · obtain rfl | hgiven := update_cases hnode
    · exact hkept hnew hout
    · exact hkept (h.put x node hgiven) (h.new x node hgiven)
  · obtain rfl | hgiven := update_cases hnode
    · exact hout
    · exact h.new x node hgiven

end Exchanged

end Dom

end

/-! ## Turns that exchange -/

open Dom

namespace Import

/-- The block that was made from an element, if it had its turn and there were cells. -/
def blockFor (host : Host) (params : Params) (taken : List Turn) (x : NodeId) : Option Node :=
  (taken.find? fun turn => turn.element = x).bind (Turn.block? host params)

variable {host : Host} {sanitize : Sanitize.Sanitizer} {params : Params} {root p : NodeId} {task : Task}
  {given : NodeId → Option Node} {dom page after : Dom} {turn : Turn} {taken : List Turn}

theorem map_element_turnsOf (elements : List NodeId) :
    (turnsOf host params root task page elements).map Turn.element = elements := by
  induction elements generalizing page with
  | nil => rfl
  | cons element elements ih => rw [turnsOf, List.map_cons, ih]

theorem blockFor_of_notMem {x : NodeId} (h : x ∉ taken.map Turn.element) :
    blockFor host params taken x = none := by
  have hnone : taken.find? (fun turn => turn.element = x) = none := by
    refine List.find?_eq_none.2 fun turn hturn heq => h ?_
    exact List.mem_map.2 ⟨turn, hturn, of_decide_eq_true heq⟩
  rw [blockFor, hnone]
  rfl

theorem blockFor_cons (x : NodeId) :
    blockFor host params (turn :: taken) x =
      if x = turn.element then turn.block? host params else blockFor host params taken x := by
  rw [blockFor, List.find?_cons]
  by_cases h : x = turn.element
  · rw [if_pos h, decide_eq_true h.symm]
    rfl
  · rw [if_neg h, decide_eq_false (Ne.symm h)]
    rfl

/-- What is exchanged after one more turn, seen before and after the turns that follow. -/
private theorem blockFor_cons_or (h : turn.element ∉ taken.map Turn.element)
    (hgiven : given turn.element = none) (x : NodeId) :
    (blockFor host params (turn :: taken) x).or (given x) =
      (blockFor host params taken x).or
        (Function.update given turn.element (turn.block? host params) x) := by
  rw [blockFor_cons]
  by_cases hx : x = turn.element
  · subst hx
    rw [if_pos rfl, blockFor_of_notMem h, hgiven, Option.or_none, Option.none_or,
      Function.update_self]
  · rw [if_neg hx, Function.update_of_ne hx]

/-- A turn exchanges an element for its block, if there are cells. -/
theorem Turned.exchanged {made : Option Creation} (h : Turned host params root turn made after)
    (hmode : turn.task.rule.mode = .replace) (wf : dom.WellFormed)
    (hpage : Exchanged given dom turn.page) (hp : dom.parent? turn.element = some p)
    (hgiven : given turn.element = none) :
    Exchanged (Function.update given turn.element (turn.block? host params)) dom after ∧
      (turn.block? host params).isSome = (turn.cells? params).isSome ∧
      placedCount made.toList = if (turn.cells? params).isSome then 1 else 0 := by
  cases h with
  | nothing hcells hkeeps =>
    have hnone : turn.block? host params = none := by
      rw [Turn.block?, hcells]
      rfl
    rw [hnone, hcells]
    refine ⟨?_, rfl, rfl⟩
    rw [← hgiven, Function.update_eq_self]
    exact hpage.keeps hkeeps
  | @block block mid creation hcells hblock hbeside hplaced =>
    have hmid := hpage.keeps hbeside.toKeeps
    have hplace : place? mid root turn.element block.id turn.task.rule.mode =
        some (mid.replaceWith turn.element block.id) := by
      have hparent := hmid.parent?_eq wf hp hgiven
      rw [hmode, place?, hparent]
      rfl
    rw [hplace] at hplaced ⊢
    rw [hblock, hcells]
    refine ⟨?_, rfl, ?_⟩
    · refine hmid.replaceWith wf hp hgiven hbeside.made hbeside.top fun k hk hin => ?_
      exact hbeside.notMem_of_new hpage.wellFormed hbeside.new hbeside.made k hk (hpage.has hin)
    · rw [Option.toList_some, placedCount, List.countP_singleton, hplaced]
      rfl

/-- All turns of a rule exchange the elements with cells for their blocks, and what is in an element
stays as it was until its turn. -/
theorem makeEach_exchanged (hcopies : Copies params task.rule)
    (hfinder : task.finder = PageBlocks.findCells sanitize) (hmode : task.rule.mode = .replace)
    (wf : dom.WellFormed) {elements : List NodeId} (hapart : Separate elements dom)
    (hparents : ∀ x ∈ elements, ∃ p, dom.parent? x = some p) (hpage : Exchanged given dom page)
    (hfree : ∀ x ∈ elements, ∀ y, y = x ∨ dom.IsBelow x y → given y = none)
    {creations : List Creation}
    (h : makeEach (standardHost sanitize) params root task page elements = (.ok creations, after)) :
    let taken := turnsOf (standardHost sanitize) params root task page elements
    Exchanged (fun x => (blockFor (standardHost sanitize) params taken x).or (given x)) dom after ∧
      placedCount creations = taken.countP (fun turn => (turn.cells? params).isSome) ∧
      ∀ turn ∈ taken, turn.page.find? turn.element = dom.find? turn.element ∧
        (turn.block? (standardHost sanitize) params).isSome = (turn.cells? params).isSome := by
  induction elements generalizing page given creations with
  | nil =>
    cases h
    exact ⟨hpage, rfl, fun _ hturn => absurd hturn List.not_mem_nil⟩
  | cons element elements ih =>
    obtain ⟨made, mid, more, hmade, hmore, rfl⟩ := (makeEach_inTurn _ _ _ _).exists_of_ok h
    rw [List.forall_mem_cons] at hparents hfree
    obtain ⟨p, hp⟩ := hparents.1
    have hnot : element ∉ elements := (List.nodup_cons.1 hapart.nodup).1
    have hnone : given element = none := hfree.1 element (.inl rfl)
    obtain ⟨hmid, hblock, hcount⟩ :=
      (makeBlock_turned hcopies hfinder hpage.wellFormed hmade).exchanged hmode wf hpage hp hnone
    obtain ⟨hafter, hcounts, hblocks⟩ := ih hapart.tail hparents.2 hmid
      (fun x hx y hy => by
        have hne : y ≠ element := by
          rintro rfl
          rcases hy with rfl | hy
          · exact hnot hx
          · exact hapart.apart x (List.mem_cons_of_mem _ hx) y List.mem_cons_self hy
        rw [Function.update_of_ne hne]
        exact hfree.2 x hx y hy) hmore
    have hturns : turnsOf (standardHost sanitize) params root task page (element :: elements) =
        ⟨task, page, element⟩ ::
          turnsOf (standardHost sanitize) params root task mid elements := by
      rw [turnsOf, hmade]
    intro taken
    rw [show taken = _ from hturns]
    refine ⟨?_, ?_, List.forall_mem_cons.2 ⟨⟨?_, hblock⟩, hblocks⟩⟩
    · convert hafter using 2 with x
      exact blockFor_cons_or (by rwa [map_element_turnsOf]) hnone x
    · rw [placedCount, List.countP_append, List.countP_cons, Nat.add_comm]
      exact congrArg₂ _ hcounts hcount
    · have has : dom.Has element := hapart.has element List.mem_cons_self
      exact hpage.find?_eq_self wf has fun y hy => hfree.1 y (.inr hy)

/-- A rule that only copies, and replaces elements of the content none of which is inside another one,
makes of the content what it is when all elements with cells are exchanged for their blocks at once.
Each block is made from an element that is still what it was, and the number of blocks that are placed is
that of the elements with cells. -/
theorem makeEach_exchanges (sanitize : Sanitize.Sanitizer) (params : Params) {rule : BlockRule}
    {dom after : Dom} {root : NodeId} {creations : List Creation} (wf : dom.WellFormed)
    (has : dom.Has root) (hmode : rule.mode = .replace) (hcopies : Copies params rule)
    (hbelow : ∀ x ∈ candidates dom root rule.selectors, dom.IsBelow root x)
    (hapart : Separate (candidates dom root rule.selectors) dom)
    (h : makeEach (standardHost sanitize) params root (Task.ofRule (standardHost sanitize) rule) dom
      (candidates dom root rule.selectors) = (.ok creations, after)) :
    let host := standardHost sanitize
    let taken := turnsOf host params root (Task.ofRule host rule) dom
      (candidates dom root rule.selectors)
    after.find? root = (dom.find? root).map (Node.exchange (blockFor host params taken)) ∧
      placedCount creations = taken.countP (fun turn => (turn.cells? params).isSome) ∧
      taken.map Turn.element = candidates dom root rule.selectors ∧
      ∀ turn ∈ taken, turn.page.find? turn.element = dom.find? turn.element ∧
        (turn.block? host params).isSome = (turn.cells? params).isSome := by
  intro host taken
  have hfinder : (Task.ofRule host rule).finder = PageBlocks.findCells sanitize := by
    rw [Task.ofRule, hcopies.strategy]
    exact Strategy.finder_block host
  have hparents (x : NodeId) (hx : x ∈ candidates dom root rule.selectors) :
      ∃ p, dom.parent? x = some p := by
    obtain ⟨p, hp, -⟩ := wf.isBelow_cases (hbelow x hx)
    exact ⟨p, hp⟩
  have htask : Copies params (Task.ofRule host rule).rule := hcopies
  obtain ⟨hafter, hcount, hturns⟩ := makeEach_exchanged htask hfinder hmode wf hapart hparents
    (.refl wf) (fun _ _ _ _ => rfl) h
  simp only [Option.or_none] at hafter
  exact ⟨hafter.find?_eq wf has, hcount, map_element_turnsOf _, hturns⟩

/-- A page with two paragraphs and a line between them. -/
def linedPage : Dom where
  roots := .element documentId documentTag
    (.element 1 ⟨"main", .html, []⟩
      (.element 2 ⟨"p", .html, []⟩ (.element 3 ⟨"b", .html, [("title", "x")]⟩ .nil .nil)
        (.element 4 ⟨"hr", .html, []⟩ .nil
          (.element 5 ⟨"p", .html, []⟩ (.element 6 ⟨"b", .html, [("title", "")]⟩ .nil .nil)
            .nil))) .nil) .nil
  fresh := 7
  looped := false

/-- A rule by which each paragraph becomes a card with the title that is told in it. -/
def cardRule : BlockRule :=
  ⟨"card", [], ["p"], none, [("cells", .list [.text "b[title]"])], .replace⟩

/-- Only the first paragraph tells a title: its card is in front of the line, and the other paragraph
stays. -/
theorem makeEach_exchanges_card :
    linedPage.WellFormed ∧ linedPage.Has 1 ∧ cardRule.mode = .replace ∧
      Copies (Value.ofFields []) cardRule ∧
      (∀ x ∈ candidates linedPage 1 cardRule.selectors, linedPage.IsBelow 1 x) ∧
      Separate (candidates linedPage 1 cardRule.selectors) linedPage ∧
      ∃ creations after, makeEach (standardHost .ok) (Value.ofFields []) 1
          (Task.ofRule (standardHost .ok) cardRule) linedPage
          (candidates linedPage 1 cardRule.selectors) = (.ok creations, after) ∧
        placedCount creations = 1 ∧
        (after.find? 1).map Node.markup = some ("<main><table><tr><th>Card</th></tr>" ++
          "<tr><td>x</td></tr></table><hr/><p><b title=\"\"></b></p></main>") := by
  have wf : linedPage.WellFormed :=
    ⟨by decide, (by decide : ∀ id ∈ linedPage.roots.ids, id < linedPage.fresh), ⟨documentTag, rfl⟩⟩
  have hcopies : Copies (Value.ofFields []) cardRule :=
    ⟨by decide +kernel, by decide +kernel, by decide +kernel⟩
  have hfound : candidates linedPage 1 cardRule.selectors = [2, 5] := by decide +kernel
  have hbelow : ∀ x ∈ candidates linedPage 1 cardRule.selectors, linedPage.IsBelow 1 x := by
    rw [hfound]
    decide
  have hapart : Separate (candidates linedPage 1 cardRule.selectors) linedPage := by
    rw [hfound]
    exact ⟨by decide, by decide, by decide⟩
  refine ⟨wf, by decide, rfl, hcopies, hbelow, hapart, ?_⟩
  rcases hrun : makeEach (standardHost .ok) (Value.ofFields []) 1
    (Task.ofRule (standardHost .ok) cardRule) linedPage
    (candidates linedPage 1 cardRule.selectors) with ⟨fault | creations, after⟩
  · have hok : (makeEach (standardHost .ok) (Value.ofFields []) 1
        (Task.ofRule (standardHost .ok) cardRule) linedPage
        (candidates linedPage 1 cardRule.selectors)).1.isOk = true := by decide +kernel
    rw [hrun] at hok
    cases hok
  · obtain ⟨hafter, hcount, -, -⟩ := makeEach_exchanges .ok (Value.ofFields []) wf (by decide) rfl
      hcopies hbelow hapart hrun
    refine ⟨creations, after, rfl, hcount.trans (by decide +kernel), ?_⟩
    rw [hafter]
    decide +kernel

end Import

end PageBlocks
