import Mathlib.Data.List.Dedup
import PageBlocks.Proofs.Dom.Build
import PageBlocks.Proofs.Dom.Prune
/-!
# Elements that take nodes from anywhere

Nodes may be put into an element at the top of the page wherever they were before: elsewhere, in the
same element already, or inside another one that is put there too.  Each is taken out of the row that it
stood in, and stands where it was put last.

## Main results

* `Dom.Takes.trans` — to take nodes and then others.
* `Dom.takes_appendAll` — an element takes nodes one after another.
* `Dom.takes_nested` — a new element takes nodes, and is then put into another one.
-/

namespace PageBlocks.Dom

variable {p c x : NodeId} {ids more row others kids : List NodeId} {tag : Tag} {new : Forest}
  {dom before mid after : Dom}

theorem filter_notMem_eq_self (h : ∀ k ∈ row, k ∉ ids) :
    (row.filter fun k => decide (k ∉ ids)) = row :=
  List.filter_eq_self.2 fun k hk => decide_eq_true (h k hk)

/-- What becomes of the row of a node when some nodes are taken out of all rows, and a row of nodes is
put at the end of one. -/
def rowAfter (p : NodeId) (ids row : List NodeId) (x : NodeId) (kids : List NodeId) : List NodeId :=
  (kids.filter fun k => decide (k ∉ ids)) ++ if x = p then row else []

/-- An element took nodes from wherever they were, and got a row of nodes at its end: some of these, and
new ones. -/
structure Takes (p : NodeId) (ids row : List NodeId) (before after : Dom) : Prop where
  wellFormed : after.WellFormed
  view : ∀ x, before.Has x → after.view? x = (before.view? x).map (View.withKids (rowAfter p ids row x))
  parent? : ∀ x, before.Has x → x ∉ ids → after.parent? x = before.parent? x

/-- An element at the top of the page may take some nodes. -/
structure Ready (p : NodeId) (ids : List NodeId) (dom : Dom) : Prop where
  wellFormed : dom.WellFormed
  loose : Loose dom p
  has : ∀ k ∈ ids, dom.Has k
  notMem : p ∉ ids

namespace Ready

theorem left (h : Ready p (ids ++ more) dom) : Ready p ids dom where
  wellFormed := h.wellFormed
  loose := h.loose
  has k hk := h.has k (List.mem_append_left _ hk)
  notMem hp := h.notMem (List.mem_append_left _ hp)

theorem has_self (h : Ready p ids dom) : dom.Has p :=
  has_of_tag? h.loose.element.choose_spec

theorem fresh_ne (h : Ready p ids dom) : dom.fresh ≠ p := fun heq =>
  h.wellFormed.not_has_fresh (heq ▸ h.has_self)

theorem fresh_notMem (h : Ready p ids dom) : dom.fresh ∉ ids := fun hin =>
  h.wellFormed.not_has_fresh (h.has _ hin)

end Ready

/-- A new element may take whatever is there. -/
theorem ready_createElement (wf : dom.WellFormed) (has : ∀ k ∈ ids, dom.Has k) (tag : Tag) :
    Ready dom.fresh ids (dom.createElement tag).2 where
  wellFormed := (grows_createElement dom tag).wellFormed wf
  loose := loose_createElement wf tag
  has k hk := (grows_createElement dom tag).has_iff.2 (.inl (has k hk))
  notMem hin := wf.not_has_fresh (has _ hin)

namespace Takes

theorem has (h : Takes p ids row before after) (hx : before.Has x) : after.Has x := by
  obtain ⟨view, hview⟩ := has_iff_view.1 hx
  refine has_iff_view.2 ⟨view.withKids (rowAfter p ids row x), ?_⟩
  rw [h.view x hx, hview]
  rfl

/-- An element other than the one that takes is left with what is not taken. -/
theorem view_of_ne (h : Takes p ids row before after) (hx : x ≠ p)
    (hview : before.view? x = some (.element tag kids)) :
    after.view? x = some (.element tag (kids.filter fun k => decide (k ∉ ids))) := by
  rw [h.view x (has_iff_view.2 ⟨_, hview⟩), hview, Option.map_some, View.withKids, rowAfter, if_neg hx,
    List.append_nil]

theorem view_self (h : Takes p ids row before after)
    (hview : before.view? p = some (.element tag kids)) :
    after.view? p = some (.element tag ((kids.filter fun k => decide (k ∉ ids)) ++ row)) := by
  rw [h.view p (has_iff_view.2 ⟨_, hview⟩), hview, Option.map_some, View.withKids, rowAfter, if_pos rfl]

theorem refl (wf : dom.WellFormed) : Takes p [] [] dom dom where
  wellFormed := wf
  view x _ := by
    refine (Forest.map_withKids_eq_self ?_).symm
    simp [rowAfter]
  parent? _ _ _ := rfl

theorem trans (h : Takes p ids row before mid) (h' : Takes p more others mid after) :
    Takes p (ids ++ more) ((row.filter fun k => decide (k ∉ more)) ++ others) before after where
  wellFormed := h'.wellFormed
  view x hx := by
    have hrow (kids : List NodeId) : rowAfter p more others x (rowAfter p ids row x kids) =
        rowAfter p (ids ++ more) ((row.filter fun k => decide (k ∉ more)) ++ others) x kids := by
      rw [rowAfter, rowAfter, rowAfter, List.filter_append, filter_notMem_append, List.append_assoc]
      congr 1
      split <;> rfl
    rw [h'.view x (h.has hx), h.view x hx, Option.map_map]
    congr 1
    funext view
    rw [Function.comp_apply, View.withKids_withKids]
    simp only [hrow]
  parent? x hx hout := by
    rw [List.mem_append, not_or] at hout
    exact (h'.parent? x (h.has hx) hout.2).trans (h.parent? x hx hout.1)

/-- A node that was put into the element stays there unless it is taken as well. -/
theorem trans_single (h : Takes p ids [c] before mid) (h' : Takes p more row mid after)
    (hc : c ∉ more) : Takes p (ids ++ more) (c :: row) before after := by
  have hall := h.trans h'
  rwa [filter_notMem_eq_self (List.forall_mem_singleton.2 hc)] at hall

/-- The element may take more nodes. -/
theorem ready (h : Takes p ids row before after) (hr : Ready p (ids ++ more) before) :
    Ready p more after where
  wellFormed := h.wellFormed
  loose := by
    obtain ⟨tag, htag⟩ := hr.loose.element
    obtain ⟨kids, hview⟩ := tag?_eq_some_iff.1 htag
    refine ⟨⟨tag, tag?_eq_some_iff.2 ⟨_, h.view_self hview⟩⟩, ?_⟩
    exact (h.parent? p (has_of_tag? htag) hr.left.notMem).trans hr.loose.parent
  has k hk := h.has (hr.has k (List.mem_append_right _ hk))
  notMem hp := hr.notMem (List.mem_append_right _ hp)

/-- What was not there before need not be told as taken. -/
theorem of_new (h : Takes p (ids ++ more) row before after) (hnew : ∀ k ∈ more, ¬before.Has k) :
    Takes p ids row before after where
  wellFormed := h.wellFormed
  view x hx := by
    obtain ⟨view, hview⟩ := has_iff_view.1 hx
    have hkids : ∀ k ∈ view.kids, k ∉ more := fun k hk hin => by
      rw [← kids_of_view hview] at hk
      exact hnew k hin (Holds.has_right hk)
    rw [h.view x hx, hview, Option.map_some, Option.map_some]
    refine congrArg some (View.withKids_congr ?_)
    rw [rowAfter, rowAfter, ← filter_notMem_append,
      filter_notMem_eq_self fun k hk => hkids k (List.mem_of_mem_filter hk)]
  parent? x hx hout := by
    refine h.parent? x hx fun hin => ?_
    rcases List.mem_append.1 hin with hin | hin
    · exact hout hin
    · exact hnew x hin hx

end Takes

/-- An element takes one node. -/
theorem takes_append (h : Ready p [c] dom) : Takes p [c] [c] dom (dom.append p c) := by
  have wf := h.wellFormed
  have has : dom.Has c := h.has c List.mem_cons_self
  have hne : p ≠ c := fun heq => h.notMem (List.mem_singleton.2 heq)
  obtain ⟨tag, htag⟩ := h.loose.element
  have hrows := rearranges_append wf has htag hne (not_isBelow_loose wf h.loose)
  have hchange : Change {c}ᶜ ∅ dom (dom.append p c) :=
    append_loose wf h.loose (Set.notMem_empty _) ⟨fun hnot => hnot rfl, has⟩ hne
  refine ⟨hrows.wellFormed wf, fun x _ => ?_, fun x hx hout => ?_⟩
  · rw [hrows.view]
    congr 2
    funext kids
    rw [rowAfter, swap_empty]
    by_cases hx : x = p <;> simp [hx]
  · refine hchange.parent?_eq wf (fun heq => hout ?_) hx
    exact List.mem_singleton.2 heq

/-- An element takes nodes one after another: each stands where it was taken last. -/
theorem takes_appendAll (h : Ready p ids dom) :
    Takes p ids ids.dedup dom (ids.foldl (fun dom id => dom.append p id) dom) := by
  induction ids generalizing dom with
  | nil => exact .refl h.wellFormed
  | cons id ids ih =>
    have hready : Ready p ([id] ++ ids) dom := h
    have hfirst := takes_append hready.left
    have hall := hfirst.trans (ih (hfirst.ready hready))
    rw [List.foldl_cons]
    by_cases hid : id ∈ ids
    · rw [List.dedup_cons_of_mem hid]
      simpa [hid] using hall
    · rw [List.dedup_cons_of_notMem hid]
      simpa [hid] using hall

/-- What a new element took was taken from the page before it. -/
theorem Takes.of_createElement (h : Takes dom.fresh ids row (dom.createElement tag).2 mid)
    (wf : dom.WellFormed) : Takes p ids [] dom mid where
  wellFormed := h.wellFormed
  view x hx := by
    have hgrows := grows_createElement dom tag
    have hne : x ≠ dom.fresh := fun heq => wf.not_has_fresh (heq ▸ hx)
    rw [h.view x (hgrows.has_iff.2 (.inl hx)), hgrows.view? wf hx]
    congr 2
    funext kids
    rw [rowAfter, rowAfter, if_neg hne, ite_self]
  parent? x hx hout := by
    have hgrows := grows_createElement dom tag
    exact (h.parent? x (hgrows.has_iff.2 (.inl hx)) hout).trans (hgrows.parent?_eq wf hx)

/-- To take a node that nothing holds changes no other row. -/
theorem view?_append_top (h : Ready p [c] dom) (hc : dom.parent? c = none) (hx : dom.Has x)
    (hne : x ≠ p) : (dom.append p c).view? x = dom.view? x := by
  rw [(takes_append h).view x hx]
  refine Forest.map_withKids_eq_self ?_
  rw [rowAfter, if_neg hne, List.append_nil]
  refine filter_notMem_eq_self fun k hk hin => ?_
  rw [List.mem_singleton.1 hin] at hk
  exact h.wellFormed.parent?_eq_none_iff.1 hc x hk

/-- A new element takes nodes, and is then put at the end of another one. -/
theorem takes_nested (h : Ready p ids dom)
    (hbuild : Takes dom.fresh ids row (dom.createElement tag).2 mid) :
    Takes p ids [dom.fresh] dom (mid.append p dom.fresh) ∧
      (mid.append p dom.fresh).view? dom.fresh = some (.element tag row) ∧
      ∀ x, mid.Has x → x ≠ p → (mid.append p dom.fresh).view? x = mid.view? x := by
  have wf := h.wellFormed
  have hloose := loose_createElement wf tag
  have hnew : (dom.createElement tag).2.Has dom.fresh := has_of_tag? hloose.element.choose_spec
  have hfirst : Takes p ids [] dom mid := hbuild.of_createElement wf
  have hready : Ready p [dom.fresh] mid := by
    have hagain : Ready p (ids ++ []) dom := by rwa [List.append_nil]
    refine ⟨hbuild.wellFormed, (hfirst.ready hagain).loose, ?_, ?_⟩
    · exact List.forall_mem_singleton.2 (hbuild.has hnew)
    · exact fun hin => h.fresh_ne (List.mem_singleton.1 hin).symm
  have htop : mid.parent? dom.fresh = none :=
    (hbuild.parent? _ hnew h.fresh_notMem).trans hloose.parent
  have hsame (x : NodeId) (hx : mid.Has x) (hne : x ≠ p) :
      (mid.append p dom.fresh).view? x = mid.view? x := view?_append_top hready htop hx hne
  refine ⟨?_, ?_, hsame⟩
  · exact (hfirst.trans (takes_append hready)).of_new (List.forall_mem_singleton.2 wf.not_has_fresh)
  · rw [hsame _ (hbuild.has hnew) h.fresh_ne]
    exact hbuild.view_self (wf.view?_createElement tag)

/-- What is built without taking anything. -/
theorem Builds.takes (h : Builds p [] new before after) : Takes p [] new.topIds before after where
  wellFormed := h.wellFormed
  view x hx := by
    obtain ⟨tag, children, hbefore, hafter⟩ := h.row
    by_cases hxp : x = p
    · subst hxp
      rw [view?, view?, Forest.view?, Forest.view?, ← find?, ← find?, hbefore, hafter]
      simp [Node.view, View.withKids, rowAfter]
    · have hsame := h.find? x hx hxp fun k hk => absurd hk List.not_mem_nil
      have hview : after.view? x = before.view? x := congrArg (Option.map Node.view) hsame
      rw [hview]
      refine (Forest.map_withKids_eq_self ?_).symm
      simp [rowAfter, hxp]
  parent? x hx _ := h.parent? x hx List.not_mem_nil

end PageBlocks.Dom
