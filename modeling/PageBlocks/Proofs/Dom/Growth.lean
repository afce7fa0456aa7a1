import PageBlocks.Proofs.Dom.Tree
import PageBlocks.Proofs.Dom.Substitute
/-!
# New nodes and new attributes

New nodes are put beside all others and get the next identities, so that nothing is changed about
the nodes that were there.  A new attribute changes the tag of one element and nothing else.

## Main results

* `Dom.Grows.wellFormed` — a page with new nodes is well formed.
* `Dom.Grows.view?` — the nodes that were there keep their views.
* `Dom.wellFormed_setAttribute`, `Dom.view?_setAttribute` — what a new attribute changes.
-/

namespace PageBlocks.Dom

/-- A page with new nodes beside all that was there. -/
structure Grows (before after : Dom) (new : Forest) : Prop where
  roots : after.roots = before.roots ++ new
  ids : new.ids = List.range' before.fresh new.ids.length
  fresh : after.fresh = before.fresh + new.ids.length
  looped : after.looped = before.looped

theorem grows_createElement (dom : Dom) (tag : Tag) :
    Grows dom (dom.createElement tag).2 (.element dom.fresh tag .nil .nil) :=
  ⟨rfl, rfl, rfl, rfl⟩

theorem grows_createLeaf (dom : Dom) (content : Leaf) :
    Grows dom (dom.createLeaf content).2 (.leaf dom.fresh content .nil) :=
  ⟨rfl, rfl, rfl, rfl⟩

theorem grows_adopt (dom : Dom) (node : Node) :
    Grows dom (dom.adopt node).2 (node.toForest.renumber dom.fresh).1 := by
  have hids := Forest.ids_renumber dom.fresh node.toForest
  have hlength : (node.toForest.renumber dom.fresh).1.ids.length = node.toForest.ids.length := by
    rw [hids, List.length_range']
  refine ⟨rfl, ?_, ?_, rfl⟩
  · rw [hlength, hids]
  · rw [hlength, ← Forest.renumber_snd]; rfl

theorem WellFormed.not_has_fresh {dom : Dom} (wf : dom.WellFormed) : ¬dom.Has dom.fresh := fun h =>
  Nat.lt_irrefl _ (wf.lt_fresh _ h)

/-- The next identity is that of the copy. -/
theorem WellFormed.find?_adopt {dom : Dom} (wf : dom.WellFormed) (node : Node) :
    (dom.adopt node).2.find? dom.fresh = (node.toForest.renumber dom.fresh).1.find? dom.fresh := by
  have hold : dom.roots.find? dom.fresh = none := Forest.find?_eq_none_iff.2 wf.not_has_fresh
  rw [find?, (grows_adopt dom node).roots, Forest.find?_append, hold, Option.none_or]

namespace Grows

variable {before after : Dom} {new : Forest} (h : Grows before after new)

include h

theorem le_of_mem {x : NodeId} (hx : x ∈ new.ids) : before.fresh ≤ x := by
  rw [h.ids] at hx
  exact (List.mem_range'_1.1 hx).1

theorem has_iff {x : NodeId} : after.Has x ↔ before.Has x ∨ x ∈ new.ids := by
  rw [Has, h.roots, Forest.ids_append, List.mem_append]; rfl

theorem fresh_le : before.fresh ≤ after.fresh := by
  rw [h.fresh]
  exact Nat.le_add_right _ _

variable (wf : before.WellFormed)

include wf

theorem notMem_of_has {x : NodeId} (hx : before.Has x) : x ∉ new.ids := fun hin =>
  Nat.not_lt.2 (h.le_of_mem hin) (wf.lt_fresh x hx)

/-- The nodes that were there are what they were. -/
theorem find? {x : NodeId} (hx : before.Has x) : after.find? x = before.find? x := by
  rw [Dom.find?, h.roots, Forest.find?_append,
    Forest.find?_eq_none_iff.2 (h.notMem_of_has wf hx), Option.or_none]; rfl

/-- What is new is what it was made as. -/
theorem find?_new {x : NodeId} (hx : x ∈ new.ids) : after.find? x = new.find? x := by
  have hnot : ¬before.Has x := fun hin => h.notMem_of_has wf hin hx
  rw [Dom.find?, h.roots, Forest.find?_append, Forest.find?_eq_none_iff.2 hnot, Option.none_or]

theorem view? {x : NodeId} (hx : before.Has x) : after.view? x = before.view? x := by
  rw [Dom.view?, h.roots, Forest.view?_append, Forest.view?_of_notMem (h.notMem_of_has wf hx),
    Option.or_none]; rfl

theorem view?_new {x : NodeId} (hx : x ∈ new.ids) : after.view? x = new.view? x := by
  have hnot : ¬before.Has x := fun hin => h.notMem_of_has wf hin hx
  rw [Dom.view?, h.roots, Forest.view?_append, Forest.view?_of_notMem hnot, Option.none_or]

theorem wellFormed : after.WellFormed where
  nodup := by
    have hnew : new.ids.Nodup := h.ids ▸ List.nodup_range'
    rw [h.roots, Forest.ids_append]
    exact wf.nodup.append hnew fun x hx hin => h.notMem_of_has wf hx hin
  lt_fresh id hid := by
    rw [h.fresh]
    rcases h.has_iff.1 hid with hid | hid
    · exact Nat.lt_of_lt_of_le (wf.lt_fresh id hid) (Nat.le_add_right _ _)
    · rw [h.ids] at hid
      exact (List.mem_range'_1.1 hid).2
  document := by
    obtain ⟨tag, htag⟩ := wf.document
    refine ⟨tag, ?_⟩
    rw [tag?, h.find? wf (has_of_tag? htag)]
    exact htag

/-- The nodes that were there are held by what held them. -/
theorem holds_iff {p x : NodeId} (hx : before.Has x) : after.Holds p x ↔ before.Holds p x := by
  by_cases hp : before.Has p
  · rw [Holds, Holds, kids_eq_view, kids_eq_view, h.view? wf hp]
  · constructor
    · intro hin
      have hnew := (h.has_iff.1 hin.has_left).resolve_left hp
      have hkids : x ∈ new.kids p := by
        rw [Holds, kids_eq_view, h.view?_new wf hnew] at hin
        rw [Forest.kids_eq_view]
        exact hin
      exact absurd (Forest.kids_subset_ids hkids) (h.notMem_of_has wf hx)
    · intro hin
      exact absurd hin.has_left hp

theorem parent?_eq {x : NodeId} (hx : before.Has x) : after.parent? x = before.parent? x := by
  refine Option.ext fun p => ?_
  rw [(h.wellFormed wf).parent?_eq_some_iff, wf.parent?_eq_some_iff, h.holds_iff wf hx]

/-- What is around the nodes that were there is what was around them. -/
theorem isBelow_iff {x y : NodeId} (hx : before.Has x) : after.IsBelow y x ↔ before.IsBelow y x :=
  wf.isBelow_iff_of_parents (h.wellFormed wf) fun z hz => h.parent?_eq wf <| by
    rcases hz with rfl | hz
    · exact hx
    · exact hz.has_left

/-- Nothing holds what is new and at the top. -/
theorem parent?_top {x : NodeId} (hx : x ∈ new.topIds) : after.parent? x = none := by
  have wf' := h.wellFormed wf
  refine wf'.parent?_eq_none_iff.2 fun p => Forest.notMem_kids_of_mem_topIds wf'.nodup ?_
  rw [h.roots, Forest.topIds_append]
  exact List.mem_append_right _ hx

end Grows

/-- A new element is empty. -/
theorem WellFormed.find?_createElement {dom : Dom} (wf : dom.WellFormed) (tag : Tag) :
    (dom.createElement tag).2.find? dom.fresh = some (.element dom.fresh tag .nil) := by
  rw [(grows_createElement dom tag).find?_new wf List.mem_cons_self, Forest.find?, if_pos rfl]

theorem WellFormed.view?_createElement {dom : Dom} (wf : dom.WellFormed) (tag : Tag) :
    (dom.createElement tag).2.view? dom.fresh = some (.element tag []) :=
  congrArg (Option.map Node.view) (wf.find?_createElement tag)

/-! ## Attributes -/

section

variable {dom : Dom} {id : NodeId} {tag : Tag} (wf : dom.WellFormed)
  (htag : dom.tag? id = some tag) (name value : String)

include wf htag

private theorem setAttribute_facts :
    (dom.setAttribute id name value).roots.ids.Perm dom.roots.ids ∧
      ∀ x, (dom.setAttribute id name value).view? x =
        if x = id then some (.element (tag.setAttribute name value) (dom.kids id))
        else dom.view? x := by
  obtain ⟨kids, hkids⟩ := tag?_eq_some_iff.1 htag
  obtain ⟨children, hfind, htop⟩ := Forest.find?_of_view?_element hkids
  let change : Tag → Forest → Tag × Forest := fun tag children =>
    (tag.setAttribute name value, children)
  have hchange : change tag children = (tag.setAttribute name value, children) := rfl
  have hperm : (dom.roots.modify id change).ids.Perm ([] ++ dom.roots.ids) :=
    Forest.ids_modify_perm change hfind hchange wf.nodup (.refl _)
  refine ⟨hperm, fun x => ?_⟩
  by_cases hx : x = id
  · have hself := Forest.view?_modify_self change hfind hchange (hperm.nodup_iff.2 wf.nodup)
    rw [if_pos hx, hx, kids_of_view hkids]
    exact hself.trans (by rw [htop]; rfl)
  · rw [if_neg hx]
    exact Forest.view?_modify_of_ne change hfind hchange wf.nodup hx rfl

theorem has_setAttribute_iff {x : NodeId} :
    (dom.setAttribute id name value).Has x ↔ dom.Has x :=
  (setAttribute_facts wf htag name value).1.mem_iff

theorem view?_setAttribute (x : NodeId) :
    (dom.setAttribute id name value).view? x =
      if x = id then some (.element (tag.setAttribute name value) (dom.kids id))
      else dom.view? x :=
  (setAttribute_facts wf htag name value).2 x

theorem kids_setAttribute (x : NodeId) :
    (dom.setAttribute id name value).kids x = dom.kids x := by
  rw [kids_eq_view, view?_setAttribute wf htag]
  by_cases hx : x = id
  · rw [if_pos hx, hx]; rfl
  · rw [if_neg hx, ← kids_eq_view]

theorem isElement_setAttribute {x : NodeId} {old : Tag} (hx : dom.tag? x = some old) :
    ∃ new, (dom.setAttribute id name value).tag? x = some new := by
  rw [tag?_eq_view, view?_setAttribute wf htag]
  by_cases h : x = id
  · rw [if_pos h]; exact ⟨_, rfl⟩
  · rw [if_neg h, ← tag?_eq_view]; exact ⟨old, hx⟩

theorem wellFormed_setAttribute : (dom.setAttribute id name value).WellFormed where
  nodup := (setAttribute_facts wf htag name value).1.nodup_iff.2 wf.nodup
  lt_fresh x hx := wf.lt_fresh x ((has_setAttribute_iff wf htag name value).1 hx)
  document := by
    obtain ⟨old, hold⟩ := wf.document
    exact isElement_setAttribute wf htag name value hold

end

end PageBlocks.Dom
