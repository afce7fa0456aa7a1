import Mathlib.Data.List.Find
import PageBlocks.Proofs.Dom.Ancestor
import PageBlocks.Proofs.Dom.Path
/-!
# Groups of siblings

Elements are grouped by the text of their paths up to the number at the end.  As long as no name on the
way holds a slash these are the classes of elements that have the same parent and the same name, in the
order of their first members.

## Main results

* `Strategy.find?_groupBy` — the first group of some size is the class of the first element whose class
  has that size.
* `Dom.WellFormed.stem_eq_iff` — what has the same stem are siblings of one name.
* `Strategy.siblingGroup_eq_firstClass` — the group that is found is the first class whose size is wanted.
-/

namespace PageBlocks

namespace Strategy

/-! ## Grouping by stems -/

/-- The members of the spots that have a stem. -/
def withStem (stem : List Char) (spots : List Spot) : List NodeId :=
  (spots.filter fun spot => spot.stem = stem).map Spot.id

private theorem foldl_addToGroup_cons (group : Group) (groups : List Group) (spots : List Spot) :
    spots.foldl (fun groups spot => addToGroup groups spot.stem spot.id) (group :: groups) =
      { group with members := group.members ++ withStem group.stem spots } ::
        (spots.filter fun spot => spot.stem ≠ group.stem).foldl
          (fun groups spot => addToGroup groups spot.stem spot.id) groups := by
  induction spots generalizing group groups with
  | nil => simp [withStem]
  | cons spot spots ih =>
    rw [List.foldl_cons, addToGroup]
    by_cases h : spot.stem = group.stem
    · rw [if_pos h.symm, ih]
      simp [withStem, h]
    · rw [if_neg (Ne.symm h), ih]
      simp [withStem, h]

/-- The first spot makes a group with all that have its stem, and the others fall into groups without
them. -/
theorem groupBy_cons (spot : Spot) (spots : List Spot) :
    groupBy (spot :: spots) =
      ⟨spot.stem, withStem spot.stem (spot :: spots)⟩ ::
        groupBy (spots.filter fun other => other.stem ≠ spot.stem) := by
  rw [groupBy, List.foldl_cons, addToGroup, foldl_addToGroup_cons]
  simp [groupBy, withStem]

/-- Spots of another stem do not count. -/
private theorem withStem_filter {stem other : List Char} (h : stem ≠ other) (spots : List Spot) :
    withStem stem (spots.filter fun spot => spot.stem ≠ other) = withStem stem spots := by
  rw [withStem, withStem, List.filter_filter]
  refine congrArg _ (List.filter_congr fun spot _ => ?_)
  by_cases hstem : spot.stem = stem
  · simp [hstem, h]
  · simp [hstem]

/-- Members that are not wanted anyway may be left out of a search. -/
private theorem find?_map_filter {α β : Type} {f : α → β} {keeps : α → Bool} {wanted : β → Bool}
    {row : List α} (h : ∀ a ∈ row, keeps a = false → wanted (f a) = false) :
    ((row.filter keeps).map f).find? wanted = (row.map f).find? wanted := by
  rw [List.find?_map, List.find?_map, List.find?_filter]
  refine congrArg _ (List.find?_congr fun a ha => ?_)
  cases hkeeps : keeps a with
  | true => simp
  | false => simp [h a ha hkeeps]

/-- The first group of some size is the class of the first spot whose class has that size. -/
theorem find?_groupBy (wanted : List NodeId → Bool) (spots : List Spot) :
    ((groupBy spots).find? fun group => wanted group.members).map Group.members =
      (spots.map fun spot => withStem spot.stem spots).find? wanted := by
  induction hlength : spots.length using Nat.strong_induction_on generalizing spots with
  | _ length ih =>
    match spots with
    | [] => rfl
    | spot :: rest =>
      rw [groupBy_cons, List.find?_cons, List.map_cons, List.find?_cons]
      cases hfirst : wanted (withStem spot.stem (spot :: rest)) with
      | true => rfl
      | false =>
        have hshorter : (rest.filter fun other => other.stem ≠ spot.stem).length < length := by
          rw [← hlength]
          exact Nat.lt_succ_of_le (List.length_filter_le ..)
        have hrest := ih _ hshorter _ rfl
        -- The classes of the others are the same without the spots of the first class.
        have hclass : (rest.filter fun other => other.stem ≠ spot.stem).map
            (fun other => withStem other.stem (rest.filter fun other => other.stem ≠ spot.stem)) =
            (rest.filter fun other => other.stem ≠ spot.stem).map
              fun other => withStem other.stem (spot :: rest) := by
          refine List.map_congr_left fun other hother => ?_
          have hne : other.stem ≠ spot.stem := of_decide_eq_true (List.mem_filter.1 hother).2
          rw [withStem_filter hne, withStem, withStem,
            List.filter_cons_of_neg (by simpa using hne.symm)]
        rw [hclass, find?_map_filter] at hrest
        · exact hrest
        · intro other _ hsame
          rw [decide_eq_false_iff_not, not_not] at hsame
          rw [hsame]
          exact hfirst

end Strategy

/-! ## Siblings of one name -/

/-- The spots around those below a spot are that spot and those below it. -/
private theorem Spot.exists_parent_of_mem_within {parent spot : Spot} {before : List Node}
    {forest : Forest} (h : spot ∈ within parent before forest) :
    ∃ holder front node back, spot = inside holder front node back ∧
      (holder = parent ∨ holder ∈ within parent before forest) := by
  induction forest generalizing parent before with
  | nil => cases h
  | leaf id content next ih =>
    rcases List.mem_cons.1 h with rfl | h
    · exact ⟨_, _, _, _, rfl, .inl rfl⟩
    · obtain ⟨holder, front, node, back, heq, hholder⟩ := ih h
      exact ⟨holder, front, node, back, heq, hholder.imp_right (List.mem_cons_of_mem _)⟩
  | element id tag children next ihc ihn =>
    rcases List.mem_cons.1 h with rfl | h
    · exact ⟨_, _, _, _, rfl, .inl rfl⟩
    · rcases List.mem_append.1 h with h | h
      · obtain ⟨holder, front, node, back, heq, hholder⟩ := ihc h
        refine ⟨holder, front, node, back, heq, .inr ?_⟩
        rcases hholder with rfl | hholder
        · exact List.mem_cons_self
        · exact List.mem_cons_of_mem _ (List.mem_append_left _ hholder)
      · obtain ⟨holder, front, node, back, heq, hholder⟩ := ihn h
        exact ⟨holder, front, node, back, heq, hholder.imp_right fun hin =>
          List.mem_cons_of_mem _ (List.mem_append_right _ hin)⟩

namespace Dom

variable {dom : Dom} {element : NodeId}

theorem WellFormed.name_spot (wf : dom.WellFormed) {spot : Spot} (h : dom.Sits spot) :
    dom.name spot.id = spot.node.name := by
  rw [name, wf.find?_spot h]
  rfl

/-- Two trees of a page have no node in common. -/
theorem WellFormed.top_unique (wf : dom.WellFormed) {top other : Node}
    (htop : top ∈ dom.roots.toList) (hother : other ∈ dom.roots.toList) {x : NodeId}
    (hx : x ∈ top.ids) (hx' : x ∈ other.ids) : top = other := by
  have hapart {p : NodeId} {node : Node} (h : node ∈ dom.roots.toList) : ¬dom.IsBelow p node.id := by
    intro hbelow
    obtain ⟨q, hq, _⟩ := wf.isBelow_cases hbelow
    have hsits : dom.Sits (.top node) := h
    exact wf.not_holds_top hsits q (wf.parent?_eq_some_iff.1 hq)
  have hfind {node : Node} (h : node ∈ dom.roots.toList) : dom.find? node.id = some node :=
    Forest.find?_of_mem_nodes wf.nodup (Forest.mem_nodes_of_mem_toList h)
  have hsame : top.id = other.id := by
    rcases (mem_ids_iff_isBelow (hfind htop)).1 hx with rfl | hin
    · exact ((mem_ids_iff_isBelow (hfind hother)).1 hx').resolve_right (hapart htop)
    · rcases (mem_ids_iff_isBelow (hfind hother)).1 hx' with rfl | hin'
      · exact absurd hin (hapart hother)
      · rcases wf.isBelow_total hin hin' with heq | hlow | hlow
        · exact heq
        · exact absurd hlow (hapart hother)
        · exact absurd hlow (hapart htop)
  exact Option.some.inj ((hfind htop).symm.trans (hsame ▸ hfind hother))

/-- The node at a spot is in the tree that the spot leads up to. -/
theorem Sits.mem_nodes_root {spot : Spot} (h : dom.Sits spot) {top : Node}
    (hroot : spot.root = .top top) : spot.node ∈ top.toForest.nodes := by
  induction spot with
  | top node =>
    cases hroot
    exact Forest.mem_nodes_of_mem_toList (by simp [Node.toForest, Forest.toList, Spot.node])
  | inside parent before node after ih =>
    exact Forest.nodes_children_subset (ih h.1 hroot) (Forest.mem_nodes_of_mem_toList h.2)

theorem root_of_mem_ancestors {spot above : Spot} (h : above ∈ spot :: spot.ancestors) :
    above.root = spot.root := by
  induction spot with
  | top node => rw [List.mem_singleton.1 h]
  | inside parent before node after ih =>
    rcases List.mem_cons.1 h with rfl | h
    · rfl
    · exact ih h

/-- The spot of a node of a tree leads up to the top of that tree. -/
theorem WellFormed.root_of_spot? (wf : dom.WellFormed) {top : Node} (htop : top ∈ dom.roots.toList)
    (hin : element ∈ top.ids) {scope : Spot} (hscope : dom.spot? element = some scope) :
    scope.root = .top top := by
  obtain ⟨hmem, rfl⟩ := (spot?_eq_some_iff wf).1 hscope
  obtain ⟨node, hroot, hnode, hplace⟩ := mem_spots_iff.1 hmem
  have hids : scope.id ∈ node.ids := by
    rw [Node.ids_eq]
    rcases List.mem_cons.1 hplace with rfl | hplace
    · exact List.mem_cons_self
    · refine List.mem_cons_of_mem _ ?_
      have hlist := List.mem_map_of_mem (f := Spot.id) hplace
      rwa [map_id_descendants] at hlist
  rw [hroot, wf.top_unique htop hnode hin hids]

/-- Where no name in a tree holds a slash there is none on the way to any node of it. -/
theorem Sits.isSlashless {spot : Spot} (h : dom.Sits spot) {top : Node} (hroot : spot.root = .top top)
    (hslash : ∀ node ∈ top.toForest.nodes, '/' ∉ node.name.toList) : spot.IsSlashless :=
  fun _ habove => hslash _ ((h.of_mem_ancestors habove).mem_nodes_root
    ((root_of_mem_ancestors habove).trans hroot))

/-- What has the same stem are siblings of one name. -/
theorem WellFormed.stem_eq_iff (wf : dom.WellFormed) {scope spot other : Spot}
    (hscope : dom.spot? element = some scope) (hspot : spot ∈ scope.descendants)
    (hother : other ∈ scope.descendants) (hslash : spot.IsSlashless) (hslash' : other.IsSlashless) :
    other.stem = spot.stem ↔
      dom.parent? other.id = dom.parent? spot.id ∧ dom.name other.id = dom.name spot.id := by
  have hmem := List.mem_of_find?_eq_some hscope
  have hsits := sits_of_mem_descendants (sits_of_mem_spots hmem) hspot
  have hsits' := sits_of_mem_descendants (sits_of_mem_spots hmem) hother
  have hfits := Spot.fits_of_mem_descendants (Spot.fits_of_mem_spots hmem) hspot
  have hfits' := Spot.fits_of_mem_descendants (Spot.fits_of_mem_spots hmem) hother
  have hroot : other.root = spot.root :=
    (root_of_mem_within hother).trans (root_of_mem_within hspot).symm
  obtain ⟨parent, before, node, after, rfl, hparent⟩ := Spot.exists_parent_of_mem_within hspot
  obtain ⟨parent', before', node', after', rfl, hparent'⟩ := Spot.exists_parent_of_mem_within hother
  have hholds := wf.parent?_eq_some_iff.2 (wf.holds_spot hsits)
  have hholds' := wf.parent?_eq_some_iff.2 (wf.holds_spot hsits')
  have hunique : ((scope :: scope.descendants).map Spot.id).Nodup := by
    have hids : (scope :: scope.descendants).map Spot.id = scope.node.ids := by
      rw [List.map_cons, map_id_descendants, Node.ids_eq]
      rfl
    rw [hids]
    exact (Forest.ids_sublist (sits_of_mem_spots hmem).mem_nodes).nodup wf.nodup
  rw [Spot.stem_eq_stem_iff hslash' hslash, wf.name_spot hsits, wf.name_spot hsits']
  show _ ∧ _ ↔ dom.parent? node'.id = dom.parent? node.id ∧ _
  rw [hholds, hholds', Option.some_inj]
  refine and_congr_left' ⟨fun hsteps => ?_, fun hid => ?_⟩
  · exact congrArg Node.id (Spot.node_eq_of_steps hfits'.1 hfits.1 (Spot.isElement_parent hfits')
      (Spot.isElement_parent hfits) hroot hsteps)
  · rw [List.inj_on_of_nodup_map hunique (List.mem_cons.2 hparent') (List.mem_cons.2 hparent) hid]

end Dom

namespace Strategy

open Dom

variable {dom : Dom}

/-- The elements below a node, in the order of the page. -/
def allBelow (dom : Dom) (id : NodeId) : List NodeId :=
  (((dom.find? id).map Node.elements).getD []).map Node.id

/-- The elements among some that have the same parent and the same name as one of them. -/
def siblingClass (dom : Dom) (among : List NodeId) (id : NodeId) : List NodeId :=
  among.filter fun other => dom.parent? other = dom.parent? id ∧ dom.name other = dom.name id

/-- The first class of siblings of one name below an element whose size is wanted, or all elements
directly below it if their number is wanted. -/
def firstClass (dom : Dom) (element : NodeId) (wanted : Nat → Bool) : List NodeId :=
  let below := allBelow dom element
  match (below.map (siblingClass dom below)).find? fun members => wanted members.length with
  | some members => members
  | none =>
    let children := elementsBelow dom element
    if wanted children.length then children else []

/-- The group that is found is the first class of siblings of one name whose size is wanted. -/
theorem siblingGroup_eq_firstClass (wf : dom.WellFormed) {top : Node}
    (htop : top ∈ dom.roots.toList) (hslash : ∀ node ∈ top.toForest.nodes, '/' ∉ node.name.toList)
    {element : NodeId} (hin : element ∈ top.ids) (wanted : Nat → Bool) :
    siblingGroup dom element wanted = firstClass dom element wanted := by
  obtain ⟨scope, hscope⟩ := exists_spot?
    ((Forest.ids_sublist (Forest.mem_nodes_of_mem_toList htop)).subset hin)
  have hroot := wf.root_of_spot? htop hin hscope
  have hslashless {spot : Spot} (h : spot ∈ scope.descendants) : spot.IsSlashless :=
    (sits_of_mem_descendants (sits_of_spot? hscope).1 h).isSlashless
      ((root_of_mem_within h).trans hroot) hslash
  have hbelow : allBelow dom element = (scope.descendants.filter Spot.isElement).map Spot.id := by
    rw [allBelow, ← map_node_spot?, hscope]
    show scope.node.elements.map Node.id = _
    rw [Node.elements, Node.descendants, ← Spot.node_mem_descendants, List.filter_map, List.map_map]
    rfl
  have hclass : (allBelow dom element).map (siblingClass dom (allBelow dom element)) =
      (scope.descendants.filter Spot.isElement).map fun spot =>
        withStem spot.stem (scope.descendants.filter Spot.isElement) := by
    rw [hbelow, List.map_map]
    refine List.map_congr_left fun spot hspot => ?_
    have hin := (List.mem_filter.1 hspot).1
    rw [Function.comp_apply, siblingClass, withStem, List.filter_map]
    refine congrArg _ (List.filter_congr fun other hother => decide_eq_decide.2 ?_)
    have hin' := (List.mem_filter.1 hother).1
    exact (wf.stem_eq_iff hscope hin hin' (hslashless hin) (hslashless hin')).symm
  have hfind := find?_groupBy (fun members => wanted members.length)
    (scope.descendants.filter Spot.isElement)
  rw [siblingGroup, firstClass, hscope, hclass, ← hfind]
  simp only [Option.map_some, Option.getD_some]
  cases (groupBy (scope.descendants.filter Spot.isElement)).find?
    fun group => wanted group.members.length with
  | some group => rfl
  | none => rfl

/-- Two lists in a division: one with a single item, and one with two items around something else. -/
def listsPage : Dom :=
  ⟨.element 0 documentTag (.element 1 ⟨"div", .unspecified, []⟩
    (.element 2 ⟨"ol", .unspecified, []⟩ (.element 3 ⟨"li", .unspecified, []⟩ .nil .nil)
      (.element 4 ⟨"ul", .unspecified, []⟩
        (.element 5 ⟨"li", .unspecified, []⟩ .nil (.element 6 ⟨"li[1]", .unspecified, []⟩ .nil
          (.element 7 ⟨"li", .unspecified, []⟩ .nil .nil))) .nil)) .nil) .nil, 8, false⟩

/-- The two items of one list are found, and nothing that only looks like an item of it. -/
theorem siblingGroup_eq_firstClass_lists :
    listsPage.WellFormed ∧ listsPage.document ∈ listsPage.roots.toList ∧
      (∀ node ∈ listsPage.document.toForest.nodes, '/' ∉ node.name.toList) ∧
      1 ∈ listsPage.document.ids ∧
      siblingGroup listsPage 1 (fun size => 1 < size) = firstClass listsPage 1 fun size => 1 < size := by
  have wf : listsPage.WellFormed := by decide
  have htop : listsPage.document ∈ listsPage.roots.toList := by decide
  have hslash : ∀ node ∈ listsPage.document.toForest.nodes, '/' ∉ node.name.toList := by decide
  have hin : 1 ∈ listsPage.document.ids := by decide
  exact ⟨wf, htop, hslash, hin, siblingGroup_eq_firstClass wf htop hslash hin _⟩

example : siblingGroup listsPage 1 (fun size => 1 < size) = [5, 7] := by
  decide +kernel

end Strategy

end PageBlocks
