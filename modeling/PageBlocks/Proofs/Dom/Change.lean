import Mathlib.Data.Set.Insert
import PageBlocks.Proofs.Dom.Growth
import PageBlocks.Proofs.Dom.Rearrange
/-!
# Changes of a page

Whatever is done to a page is done by few elementary changes: new nodes are made beside the others,
a node is taken out or moved, or an attribute is set.  A node is only ever moved to a place that is
not inside it.  Two sets of nodes say what a change must not touch: `fixed` nodes are not moved, and
`closed` elements get no children, nor lose any as long as these are fixed.

An edit may be asked for with anything.  A node that is not there is left alone, and a move to a
place inside the moved node is refused, but it leaves a mark on the page that no later edit takes
away.  So a page stays well formed under every edit, and a page without a mark has been a tree all
the way to it.

## Main results

* `Dom.Change.extends`, `Dom.Changes.extends` — changes keep a page well formed and lose no node.
* `Dom.Changes.parent?_eq` — fixed nodes stay where they are.
* `Dom.Changes.view?_eq` — closed elements stay what they are.
* `Dom.Edit.extends` — an edit keeps a page well formed and loses no node.
* `Dom.apart_of_move` — a move that leaves no mark is one to a place outside the node.
* `Dom.Edits.isTree` — every page on the way to one without a mark is a tree.
-/

namespace PageBlocks.Dom

/-- One elementary change, which leaves the `fixed` nodes at their places and puts nothing into the
`closed` ones. -/
inductive Change (fixed closed : Set NodeId) : Dom → Dom → Prop
  | createElement (dom : Dom) (tag : Tag) : Change fixed closed dom (dom.createElement tag).2
  | createLeaf (dom : Dom) (content : Leaf) : Change fixed closed dom (dom.createLeaf content).2
  | adopt (dom : Dom) (node : Node) : Change fixed closed dom (dom.adopt node).2
  | detach {dom : Dom} {c : NodeId} (hc : c ∉ fixed) : Change fixed closed dom (dom.detach c)
  | append {dom : Dom} {c p : NodeId} {tag : Tag} (hc : c ∉ fixed) (hp : p ∉ closed)
      (has : dom.Has c) (htag : dom.tag? p = some tag) (hne : p ≠ c) (hin : ¬dom.IsBelow c p) :
      Change fixed closed dom (dom.append p c)
  | prepend {dom : Dom} {c p : NodeId} {tag : Tag} (hc : c ∉ fixed) (hp : p ∉ closed)
      (has : dom.Has c) (htag : dom.tag? p = some tag) (hne : p ≠ c) (hin : ¬dom.IsBelow c p) :
      Change fixed closed dom (dom.prepend p c)
  | insertBefore {dom : Dom} {c s q : NodeId} (hc : c ∉ fixed) (hq : q ∉ closed)
      (has : dom.Has c) (hs : dom.parent? s = some q) (hne : s ≠ c) (hin : ¬dom.IsBelow c s) :
      Change fixed closed dom (dom.insertBefore s c)
  | setAttribute {dom : Dom} {id : NodeId} {tag : Tag} (hid : id ∉ closed)
      (htag : dom.tag? id = some tag) (name value : String) :
      Change fixed closed dom (dom.setAttribute id name value)

/-- Any number of elementary changes, one after another. -/
abbrev Changes (fixed closed : Set NodeId) : Dom → Dom → Prop :=
  Relation.ReflTransGen (Change fixed closed)

/-! ## What one change does to the page -/

/-- What is between a page and a later one: the same nodes and maybe more, each element still an
element, and a larger next identity. -/
structure Extends (before after : Dom) : Prop where
  wellFormed : after.WellFormed
  has : ∀ x, before.Has x → after.Has x
  element : ∀ x tag, before.tag? x = some tag → ∃ tag', after.tag? x = some tag'
  fresh_le : before.fresh ≤ after.fresh

theorem Extends.refl {dom : Dom} (wf : dom.WellFormed) : Extends dom dom :=
  ⟨wf, fun _ h => h, fun _ tag h => ⟨tag, h⟩, Nat.le_refl _⟩

theorem Extends.trans {first second third : Dom} (h : Extends first second)
    (h' : Extends second third) : Extends first third where
  wellFormed := h'.wellFormed
  has x hx := h'.has x (h.has x hx)
  element x tag hx := by
    obtain ⟨tag', htag'⟩ := h.element x tag hx
    exact h'.element x tag' htag'
  fresh_le := Nat.le_trans h.fresh_le h'.fresh_le

theorem Grows.extends {before after : Dom} {new : Forest} (h : Grows before after new)
    (wf : before.WellFormed) : Extends before after where
  wellFormed := h.wellFormed wf
  has _ hx := h.has_iff.2 (.inl hx)
  element x tag hx := ⟨tag, by rw [tag?, h.find? wf (has_of_tag? hx)]; exact hx⟩
  fresh_le := h.fresh_le

theorem Rearranges.extends {before after : Dom} {rows : NodeId → List NodeId → List NodeId}
    (h : Rearranges before after rows) (wf : before.WellFormed) : Extends before after where
  wellFormed := h.wellFormed wf
  has x hx := (h.has_iff x).2 hx
  element x tag hx := ⟨tag, by rw [h.tag?]; exact hx⟩
  fresh_le := Nat.le_of_eq h.fresh.symm

variable {fixed closed : Set NodeId} {before after : Dom}

theorem Change.extends (h : Change fixed closed before after) (wf : before.WellFormed) :
    Extends before after := by
  cases h with
  | createElement tag => exact (grows_createElement before tag).extends wf
  | createLeaf content => exact (grows_createLeaf before content).extends wf
  | adopt node => exact (grows_adopt before node).extends wf
  | detach hc => exact (rearranges_detach wf _).extends wf
  | append hc hp has htag hne hin => exact (rearranges_append wf has htag hne hin).extends wf
  | prepend hc hp has htag hne hin => exact (rearranges_prepend wf has htag hne hin).extends wf
  | insertBefore hc hq has hs hne hin =>
    exact (rearranges_insertBefore wf has hs hne hin).extends wf
  | setAttribute hid htag name value =>
    exact ⟨wellFormed_setAttribute wf htag name value,
      fun _ hx => (has_setAttribute_iff wf htag name value).2 hx,
      fun _ _ hx => isElement_setAttribute wf htag name value hx, Nat.le_refl _⟩

theorem Changes.extends (h : Changes fixed closed before after) (wf : before.WellFormed) :
    Extends before after := by
  induction h with
  | refl => exact .refl wf
  | tail _ hlast ih => exact ih.trans (hlast.extends ih.wellFormed)

theorem Changes.wellFormed (h : Changes fixed closed before after) (wf : before.WellFormed) :
    after.WellFormed :=
  (h.extends wf).wellFormed

/-! ## Straight moves -/

/-- Elementary changes never move a node to a place inside itself. -/
theorem Change.looped_eq (h : Change fixed closed before after) (wf : before.WellFormed) :
    after.looped = before.looped := by
  cases h with
  | createElement tag => exact (grows_createElement before tag).looped
  | createLeaf content => exact (grows_createLeaf before content).looped
  | adopt node => exact (grows_adopt before node).looped
  | detach hc => exact (rearranges_detach wf _).looped
  | append hc hp has htag hne hin => exact (rearranges_append wf has htag hne hin).looped
  | prepend hc hp has htag hne hin => exact (rearranges_prepend wf has htag hne hin).looped
  | insertBefore hc hq has hs hne hin => exact (rearranges_insertBefore wf has hs hne hin).looped
  | setAttribute hid htag name value => rfl

theorem Changes.looped_eq (h : Changes fixed closed before after) (wf : before.WellFormed) :
    after.looped = before.looped := by
  induction h with
  | refl => rfl
  | tail hfirst hlast ih => rw [hlast.looped_eq (Changes.wellFormed hfirst wf), ih]

/-! ## Fixed nodes -/

/-- Putting a node in front of another one keeps the other members of the row. -/
private theorem mem_swap_insert {s c x : NodeId} {kids : List NodeId} (hx : x ≠ c) :
    x ∈ swap s [c, s] (swap c [] kids) ↔ x ∈ kids := by
  have hout : x ∈ swap c [] kids ↔ x ∈ kids := by
    rw [mem_swap_of_ne List.not_mem_nil]
    exact and_iff_left hx
  by_cases hs : x = s
  · subst hs
    rw [← hout]
    constructor
    · intro h
      by_contra hnot
      rw [swap_of_notMem hnot] at h
      exact hnot h
    · exact mem_swap_of_mem (List.mem_cons_of_mem _ List.mem_cons_self)
  · have hnew : x ∉ [c, s] := by
      rw [List.mem_cons, List.mem_singleton, not_or]
      exact ⟨hx, hs⟩
    rw [mem_swap_of_ne hnew, hout]
    exact and_iff_left hs

private theorem mem_swap_out {c x : NodeId} {kids : List NodeId} (hx : x ≠ c) :
    x ∈ swap c [] kids ↔ x ∈ kids := by
  rw [mem_swap_of_ne List.not_mem_nil]
  exact and_iff_left hx

theorem Change.holds_iff (h : Change fixed closed before after) (wf : before.WellFormed)
    {x : NodeId} (hx : x ∈ fixed) (has : before.Has x) (p : NodeId) :
    after.Holds p x ↔ before.Holds p x := by
  cases h with
  | createElement tag => exact (grows_createElement before tag).holds_iff wf has
  | createLeaf content => exact (grows_createLeaf before content).holds_iff wf has
  | adopt node => exact (grows_adopt before node).holds_iff wf has
  | @detach c hc =>
    have hne : x ≠ c := fun h => hc (h ▸ hx)
    rw [Holds, (rearranges_detach wf c).kids (swap_nil ..)]
    exact mem_swap_out hne
  | @append c q tag hc hp hasc htag hne hin =>
    have hxc : x ≠ c := fun h => hc (h ▸ hx)
    have hrows := rearranges_append wf hasc htag hne hin
    by_cases hpq : p = q
    · subst hpq
      rw [Holds, hrows.kids_of_tag htag, if_pos rfl, List.mem_append, List.mem_singleton,
        mem_swap_out hxc]
      exact or_iff_left hxc
    · rw [Holds, hrows.kids (by rw [if_neg hpq]; rfl), if_neg hpq, mem_swap_out hxc]; rfl
  | @prepend c q tag hc hp hasc htag hne hin =>
    have hxc : x ≠ c := fun h => hc (h ▸ hx)
    have hrows := rearranges_prepend wf hasc htag hne hin
    by_cases hpq : p = q
    · subst hpq
      rw [Holds, hrows.kids_of_tag htag, if_pos rfl, List.mem_cons, mem_swap_out hxc]
      exact or_iff_right hxc
    · rw [Holds, hrows.kids (by rw [if_neg hpq]; rfl), if_neg hpq, mem_swap_out hxc]; rfl
  | @insertBefore c s q hc hq hasc hs hne hin =>
    have hxc : x ≠ c := fun h => hc (h ▸ hx)
    rw [Holds, (rearranges_insertBefore wf hasc hs hne hin).kids rfl]
    exact mem_swap_insert hxc
  | setAttribute hid htag name value =>
    rw [Holds, kids_setAttribute wf htag]; rfl

theorem Change.parent?_eq (h : Change fixed closed before after) (wf : before.WellFormed)
    {x : NodeId} (hx : x ∈ fixed) (has : before.Has x) : after.parent? x = before.parent? x := by
  have wf' := (h.extends wf).wellFormed
  refine Option.ext fun p => ?_
  rw [wf'.parent?_eq_some_iff, wf.parent?_eq_some_iff]
  exact h.holds_iff wf hx has p

/-- Fixed nodes stay where they are. -/
theorem Changes.parent?_eq (h : Changes fixed closed before after) (wf : before.WellFormed)
    {x : NodeId} (hx : x ∈ fixed) (has : before.Has x) : after.parent? x = before.parent? x := by
  induction h with
  | refl => rfl
  | tail hfirst hlast ih =>
    have hext := Changes.extends hfirst wf
    rw [hlast.parent?_eq hext.wellFormed hx (hext.has x has), ih]

/-! ## Closed elements -/

/-- Closed elements are there, and all that they hold is fixed. -/
def Sealed (fixed closed : Set NodeId) (dom : Dom) : Prop :=
  ∀ p ∈ closed, dom.Has p ∧ ∀ x, dom.Holds p x → x ∈ fixed

theorem Change.view?_eq (h : Change fixed closed before after) (wf : before.WellFormed)
    (hs : Sealed fixed closed before) {p : NodeId} (hp : p ∈ closed) :
    after.view? p = before.view? p := by
  obtain ⟨has, hheld⟩ := hs p hp
  have hout {c : NodeId} (hc : c ∉ fixed) : swap c [] (before.kids p) = before.kids p :=
    swap_of_notMem fun hin => hc (hheld c hin)
  cases h with
  | createElement tag => exact (grows_createElement before tag).view? wf has
  | createLeaf content => exact (grows_createLeaf before content).view? wf has
  | adopt node => exact (grows_adopt before node).view? wf has
  | @detach c hc =>
    rw [(rearranges_detach wf c).view]
    exact Forest.map_withKids_eq_self (hout hc)
  | @append c q tag hc hq hasc htag hne hin =>
    have hpq : p ≠ q := fun h => hq (h ▸ hp)
    rw [(rearranges_append wf hasc htag hne hin).view]
    exact Forest.map_withKids_eq_self ((if_neg hpq).trans (hout hc))
  | @prepend c q tag hc hq hasc htag hne hin =>
    have hpq : p ≠ q := fun h => hq (h ▸ hp)
    rw [(rearranges_prepend wf hasc htag hne hin).view]
    exact Forest.map_withKids_eq_self ((if_neg hpq).trans (hout hc))
  | @insertBefore c s q hc hq hasc hparent hne hin =>
    have hsp : s ∉ before.kids p := fun h =>
      hq (wf.parent_unique h (wf.parent?_eq_some_iff.1 hparent) ▸ hp)
    have hsame : swap s [c, s] (swap c [] (before.kids p)) = before.kids p := by
      rw [hout hc, swap_of_notMem hsp]
    rw [(rearranges_insertBefore wf hasc hparent hne hin).view]
    exact Forest.map_withKids_eq_self hsame
  | @setAttribute id tag hid htag name value =>
    have hne : p ≠ id := fun h => hid (h ▸ hp)
    rw [view?_setAttribute wf htag, if_neg hne]

theorem Change.sealed (h : Change fixed closed before after) (wf : before.WellFormed)
    (hs : Sealed fixed closed before) : Sealed fixed closed after := by
  intro p hp
  obtain ⟨has, hheld⟩ := hs p hp
  refine ⟨(h.extends wf).has p has, fun x hx => hheld x ?_⟩
  rw [Holds, kids_eq_view, h.view?_eq wf hs hp, ← kids_eq_view] at hx
  exact hx

theorem Changes.sealed (h : Changes fixed closed before after) (wf : before.WellFormed)
    (hs : Sealed fixed closed before) : Sealed fixed closed after := by
  induction h with
  | refl => exact hs
  | tail hfirst hlast ih => exact hlast.sealed (Changes.wellFormed hfirst wf) ih

/-- Closed elements stay what they are. -/
theorem Changes.view?_eq (h : Changes fixed closed before after) (wf : before.WellFormed)
    (hs : Sealed fixed closed before) {p : NodeId} (hp : p ∈ closed) :
    after.view? p = before.view? p := by
  induction h with
  | refl => rfl
  | tail hfirst hlast ih =>
    rw [hlast.view?_eq (Changes.wellFormed hfirst wf) (Changes.sealed hfirst wf hs) hp, ih]

/-! ## Fewer demands -/

theorem Change.mono {fixed' closed' : Set NodeId} (hf : fixed' ⊆ fixed) (hc : closed' ⊆ closed)
    (h : Change fixed closed before after) : Change fixed' closed' before after := by
  cases h with
  | createElement tag => exact .createElement before tag
  | createLeaf content => exact .createLeaf before content
  | adopt node => exact .adopt before node
  | detach hm => exact .detach fun h => hm (hf h)
  | append hm hp has htag hne hin =>
    exact .append (fun h => hm (hf h)) (fun h => hp (hc h)) has htag hne hin
  | prepend hm hp has htag hne hin =>
    exact .prepend (fun h => hm (hf h)) (fun h => hp (hc h)) has htag hne hin
  | insertBefore hm hp has hs hne hin =>
    exact .insertBefore (fun h => hm (hf h)) (fun h => hp (hc h)) has hs hne hin
  | setAttribute hid htag name value => exact .setAttribute (fun h => hid (hc h)) htag name value

theorem Changes.mono {fixed' closed' : Set NodeId} (hf : fixed' ⊆ fixed) (hc : closed' ⊆ closed)
    (h : Changes fixed closed before after) : Changes fixed' closed' before after :=
  Relation.ReflTransGen.mono (fun _ _ hstep => Change.mono hf hc hstep) _ _ h

/-! ## Moves that may be refused -/

/-- A page that is marked is the same page. -/
theorem Extends.marked {dom : Dom} (wf : dom.WellFormed) :
    Extends dom { dom with looped := true } :=
  ⟨⟨wf.nodup, wf.lt_fresh, wf.document⟩, fun _ h => h, fun _ tag h => ⟨tag, h⟩, Nat.le_refl _⟩

/-- A move of a node is one to a place outside it, or it is refused. -/
theorem move_cases {dom : Dom} {c p : NodeId} (put : Node → Forest → Forest) (wf : dom.WellFormed)
    (has : dom.Has c) :
    p ≠ c ∧ ¬dom.IsBelow c p ∨ dom.move c p put = { dom with looped := true } := by
  obtain ⟨node, hc⟩ := has_iff_find?.1 has
  by_cases hp : ((dom.roots.erase c).find? p).isSome = true
  · obtain ⟨place, hplace⟩ := Option.isSome_iff_exists.1 hp
    have hmem : p ∈ (dom.roots.erase c).ids := Forest.mem_ids_of_find? hplace
    have hnot : p ∉ node.ids := fun hin =>
      List.disjoint_of_nodup_append (nodup_erase wf hc) hin hmem
    rw [mem_ids_iff_isBelow hc, not_or] at hnot
    exact .inl hnot
  · refine .inr ?_
    rw [move, take, hc]
    exact if_neg hp

/-- A move that needs something to be there does nothing, is refused, or is one to a place outside
the node. -/
theorem extends_moveIf {α : Type} {needed : Option α} {dom : Dom} {c p : NodeId}
    {put : Node → Forest → Forest} (wf : dom.WellFormed)
    (h : ∀ value, needed = some value → dom.Has c → p ≠ c → ¬dom.IsBelow c p →
      Extends dom (dom.move c p put)) :
    Extends dom (if needed.isSome then dom.move c p put else dom) := by
  cases hneeded : needed with
  | none => exact .refl wf
  | some value =>
    show Extends dom (dom.move c p put)
    by_cases has : dom.Has c
    · rcases move_cases put wf has with ⟨hne, hin⟩ | hrefused
      · exact h value hneeded has hne hin
      · rw [hrefused]
        exact .marked wf
    · rw [move, take_eq_none_iff.2 (find?_eq_none_iff.2 has)]
      exact .refl wf

theorem extends_append {dom : Dom} (wf : dom.WellFormed) (p c : NodeId) :
    Extends dom (dom.append p c) := by
  refine extends_moveIf wf fun tag htag has hne hin => ?_
  have hmoved := (rearranges_append wf has htag hne hin).extends wf
  rw [append, htag] at hmoved
  exact hmoved

theorem extends_prepend {dom : Dom} (wf : dom.WellFormed) (p c : NodeId) :
    Extends dom (dom.prepend p c) := by
  refine extends_moveIf wf fun tag htag has hne hin => ?_
  have hmoved := (rearranges_prepend wf has htag hne hin).extends wf
  rw [prepend, htag] at hmoved
  exact hmoved

theorem extends_insertBefore {dom : Dom} (wf : dom.WellFormed) (s c : NodeId) :
    Extends dom (dom.insertBefore s c) := by
  refine extends_moveIf wf fun q hq has hne hin => ?_
  have hmoved := (rearranges_insertBefore wf has hq hne hin).extends wf
  rw [insertBefore, hq] at hmoved
  exact hmoved

theorem extends_replaceWith {dom : Dom} (wf : dom.WellFormed) (old new : NodeId) :
    Extends dom (dom.replaceWith old new) := by
  rw [replaceWith]
  split
  · exact .refl wf
  · have hfirst := extends_insertBefore wf old new
    exact hfirst.trans ((rearranges_detach hfirst.wellFormed old).extends hfirst.wellFormed)

/-- A move that leaves no mark is one to a place outside the node. -/
theorem apart_of_move {dom : Dom} {c p : NodeId} {put : Node → Forest → Forest}
    (wf : dom.WellFormed) (has : dom.Has c) (h : (dom.move c p put).looped = false) :
    p ≠ c ∧ ¬dom.IsBelow c p := by
  refine (move_cases put wf has).resolve_right fun hrefused => ?_
  rw [hrefused] at h
  cases h

theorem apart_of_append {dom : Dom} {c p : NodeId} {tag : Tag} (wf : dom.WellFormed)
    (has : dom.Has c) (htag : dom.tag? p = some tag) (h : (dom.append p c).looped = false) :
    p ≠ c ∧ ¬dom.IsBelow c p := by
  rw [append, htag] at h
  exact apart_of_move wf has h

theorem apart_of_prepend {dom : Dom} {c p : NodeId} {tag : Tag} (wf : dom.WellFormed)
    (has : dom.Has c) (htag : dom.tag? p = some tag) (h : (dom.prepend p c).looped = false) :
    p ≠ c ∧ ¬dom.IsBelow c p := by
  rw [prepend, htag] at h
  exact apart_of_move wf has h

theorem apart_of_insertBefore {dom : Dom} {c s q : NodeId} (wf : dom.WellFormed) (has : dom.Has c)
    (hs : dom.parent? s = some q) (h : (dom.insertBefore s c).looped = false) :
    s ≠ c ∧ ¬dom.IsBelow c s := by
  rw [insertBefore, hs] at h
  exact apart_of_move wf has h


/-! ## Attributes of what may be no element -/

theorem setAttribute_of_no_element {dom : Dom} {id : NodeId} (wf : dom.WellFormed)
    (h : dom.tag? id = none) (name value : String) : dom.setAttribute id name value = dom := by
  have hsame : dom.roots.modify id (fun tag children => (tag.setAttribute name value, children)) =
      dom.roots := by
    refine Forest.substitute_eq_self fun node hnode hid => ?_
    have hfind := Forest.find?_of_mem_nodes wf.nodup hnode
    rw [hid] at hfind
    rw [tag?, find?, hfind] at h
    cases node with
    | leaf id content => rfl
    | element id tag children => cases h
  rw [setAttribute, hsame]

theorem extends_setAttribute {dom : Dom} (wf : dom.WellFormed) (id : NodeId) (name value : String) :
    Extends dom (dom.setAttribute id name value) := by
  cases htag : dom.tag? id with
  | none =>
    rw [setAttribute_of_no_element wf htag]
    exact .refl wf
  | some tag =>
    exact Change.extends (.setAttribute (Set.notMem_empty id) htag name value :
      Change ∅ ∅ dom (dom.setAttribute id name value)) wf

/-! ## Edits -/

/-- One edit of a page. -/
inductive Edit : Dom → Dom → Prop
  | createElement (dom : Dom) (tag : Tag) : Edit dom (dom.createElement tag).2
  | createLeaf (dom : Dom) (content : Leaf) : Edit dom (dom.createLeaf content).2
  | adopt (dom : Dom) (node : Node) : Edit dom (dom.adopt node).2
  | detach (dom : Dom) (id : NodeId) : Edit dom (dom.detach id)
  | append (dom : Dom) (parent child : NodeId) : Edit dom (dom.append parent child)
  | prepend (dom : Dom) (parent child : NodeId) : Edit dom (dom.prepend parent child)
  | insertBefore (dom : Dom) (sibling child : NodeId) : Edit dom (dom.insertBefore sibling child)
  | setAttribute (dom : Dom) (id : NodeId) (name value : String) :
      Edit dom (dom.setAttribute id name value)

/-- Any number of edits, one after another. -/
abbrev Edits : Dom → Dom → Prop :=
  Relation.ReflTransGen Edit

/-- An edit keeps a page well formed and loses no node. -/
theorem Edit.extends (h : Edit before after) (wf : before.WellFormed) : Extends before after := by
  cases h with
  | createElement tag => exact (grows_createElement before tag).extends wf
  | createLeaf content => exact (grows_createLeaf before content).extends wf
  | adopt node => exact (grows_adopt before node).extends wf
  | detach id => exact (rearranges_detach wf id).extends wf
  | append parent child => exact extends_append wf parent child
  | prepend parent child => exact extends_prepend wf parent child
  | insertBefore sibling child => exact extends_insertBefore wf sibling child
  | setAttribute id name value => exact extends_setAttribute wf id name value

theorem straight_of_moveIf {condition : Prop} [Decidable condition] {dom : Dom} {c p : NodeId}
    {put : Node → Forest → Forest}
    (h : (if condition then dom.move c p put else dom).looped = false) : dom.looped = false := by
  split at h
  · rw [move] at h
    split at h
    · exact h
    · next node rest htake =>
      obtain ⟨found, _, heq⟩ := Option.map_eq_some_iff.1 htake
      cases heq
      split at h
      · exact h
      · cases h
  · exact h

/-- No edit takes the mark away. -/
theorem Edit.straight (h : Edit before after) (wf : before.WellFormed)
    (hs : after.looped = false) : before.looped = false := by
  cases h with
  | createElement tag => exact hs
  | createLeaf content => exact hs
  | adopt node => exact hs
  | detach id => exact (rearranges_detach wf id).looped.symm.trans hs
  | append parent child => exact straight_of_moveIf hs
  | prepend parent child => exact straight_of_moveIf hs
  | insertBefore sibling child => exact straight_of_moveIf hs
  | setAttribute id name value => exact hs

theorem Edits.extends (h : Edits before after) (wf : before.WellFormed) : Extends before after := by
  induction h with
  | refl => exact .refl wf
  | tail _ hlast ih => exact ih.trans (hlast.extends ih.wellFormed)

theorem Edits.straight (h : Edits before after) (wf : before.WellFormed)
    (hs : after.looped = false) : before.looped = false := by
  induction h with
  | refl => exact hs
  | tail hfirst hlast ih => exact ih (hlast.straight (Edits.extends hfirst wf).wellFormed hs)

/-- Every page on the way to one without a mark is a tree. -/
theorem Edits.isTree {page : Dom} (hfirst : Edits before page) (hrest : Edits page after)
    (wf : before.WellFormed) (hs : after.looped = false) : page.IsTree := by
  have hpage := (hfirst.extends wf).wellFormed
  exact hpage.isTree (hrest.straight hpage hs)

/-! ## Changes are edits -/

theorem Change.edit {fixed closed : Set NodeId} (h : Change fixed closed before after) :
    Edit before after := by
  cases h with
  | createElement tag => exact .createElement before tag
  | createLeaf content => exact .createLeaf before content
  | adopt node => exact .adopt before node
  | detach _ => exact .detach before _
  | append _ _ _ _ _ _ => exact .append before _ _
  | prepend _ _ _ _ _ _ => exact .prepend before _ _
  | insertBefore _ _ _ _ _ _ => exact .insertBefore before _ _
  | setAttribute _ _ name value => exact .setAttribute before _ name value

theorem Changes.edits {fixed closed : Set NodeId} (h : Changes fixed closed before after) :
    Edits before after :=
  Relation.ReflTransGen.mono (fun _ _ hstep => Change.edit hstep) _ _ h

end PageBlocks.Dom
