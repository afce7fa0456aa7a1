import PageBlocks.Proofs.Dom.Trunk
import PageBlocks.Proofs.Selector.Pruned
/-!
# Selectors that do not look at text

Many selectors look around them, at siblings and at what is below, but only for elements.  They hold
in a page where they hold in its trunk, so that nothing that is taken out of its text makes any
difference to them.

## Main results

* `Selector.holds_trunk` — selectors that do not look at text hold in the trunk where they hold in
  the page.
* `Dom.Cut.selectText_eq_of_leaves` — they find the same elements when leaves were taken out.
-/

namespace PageBlocks

/-- Does a test look at elements only? -/
def Test.ignoresText : Test → Bool
  | .name .. | .identity _ | .className _ | .attribute _ | .pageElement | .scope | .defined
  | .language _ | .inRange | .outOfRange | .firstSubmit | .undecided => true
  | .root | .empty | .text .. | .rightToLeft | .leftToRight | .blankContent => false

/-- Does a selector look at elements only? -/
def Selector.ignoresText : Selector → Bool
  | always | never => true
  | test condition => condition.ignoresText
  | both first second | either first second => first.ignoresText && second.ignoresText
  | not condition | follows _ condition | has _ condition => condition.ignoresText
  | place _ _ _ _ among => among.ignoresText

variable {query : Query} {spot : Spot}

/-! ## Combinators -/

namespace Combinator

variable {combinator : Combinator} {other : Spot}

theorem before_trunk (combinator : Combinator) (h : spot.isElement = true) :
    combinator.before spot.trunk = (combinator.before spot).map Spot.trunk := by
  cases combinator with
  | descendant => exact spot.ancestors_trunk
  | child =>
    rw [before, before, Spot.parent?_trunk]
    cases spot.parent? <;> rfl
  | laterSibling => rw [before, before, Spot.previous_trunk h, Spot.filter_trunks]
  | nextSibling =>
    rw [before, before, Spot.previous_trunk h, Spot.filter_trunks, List.map_take]

theorem after_trunk (combinator : Combinator) (h : spot.isElement = true) :
    combinator.after spot.trunk = (combinator.after spot).map Spot.trunk := by
  cases combinator with
  | descendant => rw [after, after, Spot.descendants_trunk, Spot.filter_trunks]
  | child =>
    rw [after, after, Spot.elementChildren, Spot.children_trunk, Spot.filter_trunks]; rfl
  | laterSibling => rw [after, after, Spot.following_trunk h, Spot.filter_trunks]
  | nextSibling =>
    rw [after, after, Spot.following_trunk h, Spot.filter_trunks, List.map_take]

theorem isUpright_of_mem_before (h : spot.IsUpright) (ho : other ∈ combinator.before spot) :
    other.IsUpright := by
  cases combinator with
  | descendant => exact h.of_mem_ancestors ho
  | child => exact h.of_mem_parent ho
  | laterSibling => exact h.of_mem_previous ho
  | nextSibling => exact h.of_mem_previous (List.mem_of_mem_take ho)

theorem isUpright_of_mem_after (h : spot.IsUpright) (ho : other ∈ combinator.after spot) :
    other.IsUpright := by
  cases combinator with
  | descendant => exact h.of_mem_descendants ho
  | child => exact h.of_mem_children ho
  | laterSibling => exact h.of_mem_following ho
  | nextSibling => exact h.of_mem_following (List.mem_of_mem_take ho)

end Combinator

/-! ## Tests -/

namespace Spot

theorem tagHas_trunk (spot : Spot) (condition : Tag → Bool) :
    spot.trunk.tagHas condition = spot.tagHas condition := by
  rw [tagHas, node_trunk, Node.tag?_trunk]; rfl

theorem attribute?_trunk (spot : Spot) (name : String) :
    spot.trunk.attribute? name = spot.attribute? name := by
  rw [attribute?, node_trunk, Node.tag?_trunk]; rfl

theorem loweredAttribute_trunk (spot : Spot) (name : String) :
    spot.trunk.loweredAttribute name = spot.loweredAttribute name := by
  rw [loweredAttribute, attribute?_trunk]; rfl

theorem isInside?_trunk (spot : Spot) : spot.trunk.isInside? = spot.isInside? := by
  simp only [isInside?, loweredAttribute_trunk, attribute?_trunk]

theorem ownLanguage?_trunk (query : Query) (spot : Spot) :
    spot.trunk.ownLanguage? query = spot.ownLanguage? query := by
  simp only [ownLanguage?, tagHas_trunk, attribute?_trunk]

theorem announcedLanguage?_trunk (query : Query) (spot : Spot) :
    spot.trunk.announcedLanguage? query = spot.announcedLanguage? query := by
  simp only [announcedLanguage?, root_trunk, node_trunk, Node.elementChildren_trunk, List.filter_map,
    List.head?_map, Option.bind_eq_bind, Option.bind_map, Function.comp_def, List.findSome?_map,
    Node.tag?_trunk]

theorem language?_trunk (query : Query) (spot : Spot) :
    spot.trunk.language? query = spot.language? query := by
  have hown : ownLanguage? query ∘ trunk = ownLanguage? query := funext (ownLanguage?_trunk query)
  have hmarks : (spot.trunk :: spot.trunk.ancestors).filterMap (ownLanguage? query) =
      (spot :: spot.ancestors).filterMap (ownLanguage? query) := by
    rw [ancestors_trunk, ← List.map_cons, List.filterMap_map, hown]
  rw [language?, language?, hmarks, announcedLanguage?_trunk]

theorem form?_trunk (query : Query) (spot : Spot) :
    spot.trunk.form? query = (spot.form? query).map trunk := by
  simp only [form?, ancestors_trunk, List.find?_map, Function.comp_def, tagHas_trunk]

theorem isFirstSubmit_trunk (query : Query) (spot : Spot) :
    spot.trunk.isFirstSubmit query = spot.isFirstSubmit query := by
  simp only [isFirstSubmit, form?_trunk, Option.any_map, descendants_trunk, filter_trunks,
    List.takeWhile_map, List.find?_map, Function.comp_def, tagHas_trunk, loweredAttribute_trunk,
    id_trunk]

theorem group_trunk (query : Query) (spot : Spot) :
    spot.trunk.group query = (spot.group query).trunk := by
  rw [group, form?_trunk, root_trunk, group]
  cases spot.form? query <;> rfl

theorem tagHas_of_leaf {spot : Spot} (h : spot.isElement = false) (condition : Tag → Bool) :
    spot.tagHas condition = false := by
  rw [isElement] at h
  rw [tagHas]
  cases hnode : spot.node with
  | leaf id content => rfl
  | element id tag children =>
    rw [hnode] at h
    cases h

theorem isUndecided_trunk (query : Query) (spot : Spot) :
    spot.trunk.isUndecided query = spot.isUndecided query := by
  simp only [isUndecided, group_trunk, descendants_trunk, trunks, List.any_map, List.any_filter,
    Function.comp_def, tagHas_trunk, loweredAttribute_trunk, attribute?_trunk, id_trunk]
  congr 2
  funext below
  -- Leaves are no radio buttons.
  cases helement : below.isElement with
  | true => rfl
  | false => simp [tagHas_of_leaf helement]

end Spot

theorem Test.holds_trunk {condition : Test} (hs : condition.ignoresText = true) (tag : Tag) :
    condition.holds query spot.trunk tag = condition.holds query spot tag := by
  match condition, hs with
  | .name .., _ | .identity _, _ | .className _, _ | .attribute _, _ | .pageElement, _
  | .defined, _ => rfl
  | .scope, _ => rw [holds, holds, Spot.id_trunk]
  | .language _, _ => rw [holds, holds, Spot.language?_trunk]
  | .inRange, _ | .outOfRange, _ => rw [holds, holds, Spot.isInside?_trunk]
  | .firstSubmit, _ => rw [holds, holds, Spot.isFirstSubmit_trunk]
  | .undecided, _ => rw [holds, holds, Spot.isUndecided_trunk]

/-! ## Selectors -/

namespace Selector

theorem sameKind_trunk (query : Query) (first second : Spot) :
    sameKind query first.trunk second.trunk = sameKind query first second := by
  simp only [sameKind, Spot.tagHas_trunk]

private theorem any_trunk {f : Spot → Bool} {spots : List Spot}
    (h : ∀ other ∈ spots, f other.trunk = f other) :
    (spots.map Spot.trunk).any f = spots.any f := by
  induction spots with
  | nil => rfl
  | cons spot spots ih =>
    rw [List.map_cons, List.any_cons, List.any_cons, h spot List.mem_cons_self,
      ih fun other ho => h other (List.mem_cons_of_mem _ ho)]

private theorem length_beside_trunk {sameName : Bool} {among : Selector} {spots : List Spot}
    (h : ∀ other ∈ spots.filter Spot.isElement,
      among.holds query other.trunk = among.holds query other) :
    ((Spot.trunks spots).filter fun other => other.isElement &&
        (!sameName || sameKind query spot.trunk other) && among.holds query other).length =
      (spots.filter fun other => other.isElement &&
        (!sameName || sameKind query spot other) && among.holds query other).length := by
  rw [Spot.trunks, List.filter_map, List.length_map, List.filter_filter]
  refine congrArg List.length (List.filter_congr fun other ho => ?_)
  rw [Function.comp_apply, sameKind_trunk, Spot.isElement_trunk]
  cases helement : other.isElement with
  | false => rfl
  | true => rw [h other (List.mem_filter.2 ⟨ho, helement⟩), Bool.true_and, Bool.and_true]

/-- Selectors that do not look at text hold in the trunk where they hold in the page. -/
theorem holds_trunk {selector : Selector} (hs : selector.ignoresText = true) (h : spot.IsUpright) :
    selector.holds query spot.trunk = selector.holds query spot := by
  induction selector generalizing spot with
  | always | never => rfl
  | test condition =>
    show spot.trunk.node.tag?.any _ = spot.node.tag?.any _
    rw [Spot.node_trunk, Node.tag?_trunk]
    congr 1
    funext tag
    exact Test.holds_trunk hs tag
  | both first second ihf ihs =>
    obtain ⟨hfirst, hsecond⟩ := Bool.and_eq_true_iff.1 hs
    rw [holds_both, holds_both, ihf hfirst h, ihs hsecond h]
  | either first second ihf ihs =>
    obtain ⟨hfirst, hsecond⟩ := Bool.and_eq_true_iff.1 hs
    rw [holds_either, holds_either, ihf hfirst h, ihs hsecond h]
  | not condition ih => rw [holds_not, holds_not, ih hs h]
  | follows combinator condition ih =>
    rw [holds, holds, Combinator.before_trunk combinator h.isElement]
    exact any_trunk fun other ho => ih hs (Combinator.isUpright_of_mem_before h ho)
  | has combinator condition ih =>
    rw [holds, holds, Combinator.after_trunk combinator h.isElement]
    exact any_trunk fun other ho => ih hs (Combinator.isUpright_of_mem_after h ho)
  | place step offset fromEnd sameName among ih =>
    have hbeside : (if fromEnd then spot.trunk.following else spot.trunk.previous) =
        Spot.trunks (if fromEnd then spot.following else spot.previous) := by
      rw [Spot.following_trunk h.isElement, Spot.previous_trunk h.isElement,
        apply_ite Spot.trunks]
    rw [holds, holds, ih hs h]
    dsimp only
    rw [hbeside, length_beside_trunk fun other ho => ih hs ?_]
    cases fromEnd with
    | true => exact h.of_mem_following ho
    | false => exact h.of_mem_previous ho

end Selector

/-! ## Queries -/

theorem Query.ofSpot_trunk (spot : Spot) : Query.ofSpot spot.trunk = Query.ofSpot spot := by
  have hid : Node.id ∘ Node.trunk = Node.id := funext Node.id_trunk
  rw [ofSpot, ofSpot, Spot.root_trunk, Spot.id_trunk, Spot.id_trunk, Spot.node_trunk,
    Node.tag?_trunk]
  cases spot.root.node.tag? with
  | none => rfl
  | some tag =>
    cases hdocument : tag.isDocument with
    | true =>
      simp only [hdocument, if_true, Node.elementChildren_trunk, List.head?_map, Option.map_map,
        Option.any_map, hid, Node.tag?_trunk]
    | false =>
      simp only [hdocument, Bool.false_eq_true, if_false, Option.map_some, Option.any_some,
        Node.id_trunk, Node.tag?_trunk]

/-- In the trunk of a page the same elements are found. -/
theorem Spot.map_id_select_trunk {selector : Selector} (hs : selector.ignoresText = true)
    (h : spot.IsUpright) :
    (spot.trunk.select selector).map id = (spot.select selector).map id := by
  have hid : id ∘ trunk = id := funext id_trunk
  rw [select, select, Query.ofSpot_trunk, descendants_trunk, trunks, List.filter_map, List.map_map,
    List.filter_filter, hid]
  refine congrArg (List.map id) (List.filter_congr fun below hbelow => ?_)
  rw [Function.comp_apply, isElement_trunk]
  cases helement : below.isElement with
  | false => rfl
  | true =>
    have hupright := h.of_mem_descendants (List.mem_filter.2 ⟨hbelow, helement⟩)
    rw [Selector.holds_trunk hs hupright, Bool.true_and, Bool.and_true]

namespace Dom

variable {dom page : Dom} {scope : NodeId} {gone : List NodeId} {tag : Tag}

theorem Sits.isElement {spot : Spot} (wf : dom.WellFormed) (h : dom.Sits spot)
    (htag : dom.tag? spot.id = some tag) : spot.isElement = true := by
  rw [wf.tag?_spot h] at htag
  rw [Spot.isElement]
  cases hnode : spot.node with
  | leaf id content =>
    rw [hnode] at htag
    cases htag
  | element id tag children => rfl

/-- An element of a tree is at one spot of its trunk. -/
theorem WellFormed.nodup_trunk (wf : dom.WellFormed) {x : NodeId} {node : Node}
    (hnode : dom.find? x = some node) :
    ((Spot.top node.trunk :: (Spot.top node.trunk).descendants).map Spot.id).Nodup := by
  have hids : (Spot.top node.trunk :: (Spot.top node.trunk).descendants).map Spot.id =
      node.id :: node.children.trunk.ids := by
    rw [List.map_cons, map_id_descendants, ← Node.children_trunk, ← Node.id_trunk]; rfl
  have hsub := Forest.ids_sublist (Forest.mem_nodes_of_find? hnode)
  rw [Node.ids_eq] at hsub
  rw [hids]
  exact (wf.nodup.sublist hsub).sublist ((Forest.ids_trunk_sublist _).cons_cons _)

/-- To take out leaves does not change the trunk of a tree. -/
theorem Cut.trunk_eq (h : Cut scope gone dom page) (wf : dom.WellFormed)
    (hgone : ∀ x ∈ gone, dom.tag? x = none) {x : NodeId} {node node' : Node}
    (hnode : dom.find? x = some node) (hnode' : page.find? x = some node') :
    node'.trunk = node.trunk := by
  rw [h.rearranges.find?_eq wf, hnode] at hnode'
  rw [← Option.some.inj hnode']
  refine Node.trunk_prune fun inner hinner hin => ?_
  have hinside := Forest.nodes_children_subset (Forest.mem_nodes_of_find? hnode) hinner
  have hfind : dom.find? inner.id = some inner := Forest.find?_of_mem_nodes wf.nodup hinside
  have hleaf := hgone _ hin
  rw [tag?, hfind] at hleaf
  cases inner with
  | leaf id content => rfl
  | element id tag children => cases hleaf

/-- To take out leaves does not change the trunk around a spot. -/
theorem Cut.trunk_spot_eq (h : Cut scope gone dom page) (wf : dom.WellFormed)
    (hgone : ∀ x ∈ gone, dom.tag? x = none) (htag : dom.tag? scope = some tag)
    {spot spot' : Spot} (hspot : dom.spot? scope = some spot)
    (hspot' : page.spot? scope = some spot') : spot'.trunk = spot.trunk := by
  have wf' := h.wellFormed wf
  have htag' : page.tag? scope = some tag := by rw [h.rearranges.tag?, htag]
  obtain ⟨hmem, hid⟩ := (spot?_eq_some_iff wf).1 hspot
  obtain ⟨hmem', hid'⟩ := (spot?_eq_some_iff wf').1 hspot'
  obtain ⟨top, hroot, htop, hin⟩ := mem_spots_iff.1 hmem
  obtain ⟨top', hroot', htop', hin'⟩ := mem_spots_iff.1 hmem'
  have helement := (sits_of_mem_spots hmem).isElement wf (hid.symm ▸ htag)
  have helement' := (sits_of_mem_spots hmem').isElement wf' (hid'.symm ▸ htag')
  have hsame : top'.id = top.id := by
    have hroots := (h.alike_scope wf hspot hspot').2
    rw [hroot, hroot'] at hroots
    exact hroots
  have hfind : dom.find? top.id = some top := wf.find?_spot (show dom.Sits (.top top) from htop)
  have hfind' : page.find? top.id = some top' := by
    rw [← hsame]
    exact wf'.find?_spot (show page.Sits (.top top') from htop')
  have hfirst := Spot.trunk_mem hin helement
  have hsecond := Spot.trunk_mem hin' helement'
  rw [h.trunk_eq wf hgone hfind hfind'] at hsecond
  refine List.inj_on_of_nodup_map (wf.nodup_trunk hfind) hsecond hfirst ?_
  rw [Spot.id_trunk, Spot.id_trunk, hid, hid']

/-- Selectors that do not look at text find the same elements when leaves were taken out. -/
theorem Cut.selectText_eq_of_leaves (h : Cut scope gone dom page) (wf : dom.WellFormed)
    (hgone : ∀ x ∈ gone, dom.tag? x = none) (htag : dom.tag? scope = some tag) {text : String}
    (hs : (Selector.parse? text.toList).all Selector.ignoresText = true) :
    page.selectText scope text = dom.selectText scope text := by
  have wf' := h.wellFormed wf
  have has : dom.Has scope := has_of_tag? htag
  have htag' : page.tag? scope = some tag := by rw [h.rearranges.tag?, htag]
  rw [selectText, selectText]
  cases hparse : Selector.parse? text.toList with
  | none => rfl
  | some selector =>
    rw [hparse] at hs
    obtain ⟨spot, hspot⟩ := exists_spot? has
    obtain ⟨spot', hspot'⟩ := exists_spot? ((h.rearranges.has_iff scope).2 has)
    obtain ⟨hsits, hid⟩ := sits_of_spot? hspot
    obtain ⟨hsits', hid'⟩ := sits_of_spot? hspot'
    have hupright := hsits.isUpright (hsits.isElement wf (hid.symm ▸ htag))
    have hupright' := hsits'.isUpright (hsits'.isElement wf' (hid'.symm ▸ htag'))
    show page.select scope selector = dom.select scope selector
    rw [select, select, hspot, hspot']
    dsimp only
    rw [← Spot.map_id_select_trunk hs hupright, ← Spot.map_id_select_trunk hs hupright',
      h.trunk_spot_eq wf hgone htag hspot hspot']

end Dom

end PageBlocks
