import PageBlocks.Cell.Build
import PageBlocks.Proofs.Cell.Frame
import PageBlocks.Proofs.Cell.Pieces
/-!
# What a container holds

A field moves what its cell yields into a new element, one value after another.  An element that is
named again moves on to the end, and one that is inside another one leaves it when its turn comes.
What the container holds in the end is told by the pieces that the cell yields and by the elements as
they were, each without those of them that went into the container on their own.

## Main results

* `Cell.fills_container` — what values do to the page when they are put into an element.
* `Cell.sheds_filled` — a container takes the elements that it is told, and no others.
* `Cell.innerMarkup_filled` — what the container holds in the end.
-/

namespace PageBlocks

open Dom

/-- The markup of a row of nodes is that of each node in turn. -/
theorem Forest.markup_eq_join (forest : Forest) :
    forest.markup false = String.join (forest.toList.map Node.markup) := by
  induction forest with
  | nil => rfl
  | leaf id content next ih =>
    rw [markup, toList, List.map_cons, String.join_cons, ← ih]
    rw [Node.markup, Node.toForest, Node.consTo, markup, markup, String.append_empty]
  | element id tag children next _ ih =>
    rw [markup, toList, List.map_cons, String.join_cons, ← ih]
    rw [Node.markup, Node.toForest, Node.consTo, markup, markup, String.append_empty]

/-- New identities do not show in markup. -/
theorem Forest.markup_renumber (raw : Bool) (next : NodeId) (forest : Forest) :
    (forest.renumber next).1.markup raw = forest.markup raw := by
  induction forest generalizing raw next with
  | nil => rfl
  | leaf id content rest ih => rw [renumber, markup, markup, ih]
  | element id tag children rest ihc ihr =>
    have hempty : (children.renumber (next + 1)).1.isEmpty = children.isEmpty := by
      cases children <;> rfl
    rw [renumber, markup, markup, ihc, ihr, hempty]

namespace Cell

variable {c x : NodeId} {values : List Value} {before mid after dom : Dom}

/-! ## Values in an element -/

/-- The elements that values put into a container. -/
def moved (values : List Value) : List NodeId :=
  values.filterMap fun value =>
    match value with
    | .element id => some id
    | _ => none

theorem mem_moved_iff {values : List Value} {id : NodeId} :
    id ∈ moved values ↔ .element id ∈ values := by
  rw [moved, List.mem_filterMap]
  constructor
  · rintro ⟨value, hvalue, hid⟩
    cases value with
    | element other =>
      cases hid
      exact hvalue
    | null | bool _ | integer _ | decimal _ | text _ | list _ | config _ => cases hid
  · exact fun hin => ⟨_, hin, rfl⟩

/-- The markup of a node, wherever it is. -/
def shown (dom : Dom) (id : NodeId) : String :=
  ((dom.find? id).map Node.markup).getD ""

/-- The markup of each value in a container.  An element that is named again stands there once, at its
last place. -/
def lines (look : NodeId → String) : List Value → List String
  | [] => []
  | .element id :: rest =>
    if id ∈ moved rest then lines look rest else look id :: lines look rest
  | .text content :: rest => escapeText content :: lines look rest
  | _ :: rest => lines look rest

/-- A page in which values were put into an element that nothing holds. -/
structure Fills (c : NodeId) (values : List Value) (before after : Dom) : Prop where
  wellFormed : after.WellFormed
  loose : Loose after c
  tag : after.tag? c = before.tag? c
  view : ∀ x, before.Has x → x ≠ c → after.view? x =
    (before.view? x).map (View.withKids (List.filter fun k => decide (k ∉ moved values)))
  held : ∀ p x, before.Has x → after.Holds p x → before.Holds p x ∨ x ∈ moved values
  holds : ∀ x ∈ moved values, after.Holds c x
  row : ∃ row, after.kids c = (before.kids c).filter (fun k => decide (k ∉ moved values)) ++ row ∧
    row.map (shown after) = lines (shown after) values

theorem Fills.refl (wf : before.WellFormed) (hc : Loose before c) : Fills c [] before before where
  wellFormed := wf
  loose := hc
  tag := rfl
  view x _ _ := (Forest.map_withKids_eq_self (List.filter_eq_self.2 fun k _ => by simp [moved])).symm
  held p x _ hp := .inl hp
  holds x hx := absurd hx List.not_mem_nil
  row := ⟨[], by rw [List.append_nil, List.filter_eq_self.2 fun k _ => by simp [moved]], rfl⟩

/-- What is left when an element and then others are taken out of a row. -/
theorem filter_moved_element (id : NodeId) (values : List Value) (row : List NodeId) :
    (row.filter fun k => decide (k ≠ id)).filter (fun k => decide (k ∉ moved values)) =
      row.filter fun k => decide (k ∉ moved (.element id :: values)) := by
  have hmoved : moved (.element id :: values) = id :: moved values := rfl
  rw [List.filter_filter, hmoved]
  refine List.filter_congr fun k _ => ?_
  simp only [List.mem_cons, not_or, Bool.decide_and, Bool.and_comm]

section

variable {id : NodeId} (wf : before.WellFormed) (hc : Loose before c) (has : before.Has id) (hne : c ≠ id)

include wf hc has hne

theorem kids_append_self : (before.append c id).kids c =
    (before.kids c).filter (fun k => decide (k ≠ id)) ++ [id] := by
  obtain ⟨tag, htag⟩ := hc.element
  have hrearranges := rearranges_append wf has htag hne (not_isBelow_loose wf hc)
  rw [hrearranges.kids_of_tag htag, if_pos rfl, swap_empty]

/-- An element that is put into another one is held by that one alone. -/
theorem holds_of_holds_append {p x : NodeId} (h : (before.append c id).Holds p x) :
    before.Holds p x ∨ x = id := by
  obtain ⟨tag, htag⟩ := hc.element
  have hrearranges := rearranges_append wf has htag hne (not_isBelow_loose wf hc)
  by_cases hp : p = c
  · subst hp
    rw [Holds, kids_append_self wf hc has hne, List.mem_append, List.mem_singleton] at h
    exact h.imp_left fun hx => (List.mem_filter.1 hx).1
  · rw [Holds, hrearranges.kids (by rw [if_neg hp]; rfl), if_neg hp, swap_empty] at h
    exact .inl (List.mem_filter.1 h).1

/-- An element is put in before other values. -/
theorem Fills.element (h : Fills c values (before.append c id) after) :
    Fills c (.element id :: values) before after := by
  obtain ⟨tag, htag⟩ := hc.element
  have hrearranges := rearranges_append wf has htag hne (not_isBelow_loose wf hc)
  have hhas {x : NodeId} (hx : before.Has x) : (before.append c id).Has x :=
    (hrearranges.has_iff x).2 hx
  have hkids := kids_append_self wf hc has hne
  refine ⟨h.wellFormed, h.loose, h.tag.trans (hrearranges.tag? c), ?_, ?_, ?_, ?_⟩
  · intro x hx hxc
    rw [h.view x (hhas hx) hxc, hrearranges.view, Option.map_map]
    congr 1
    funext view
    rw [Function.comp_apply, View.withKids_withKids]
    refine View.withKids_congr ?_
    rw [if_neg hxc, swap_empty, filter_moved_element]
  · intro p x hx hp
    rcases h.held p x (hhas hx) hp with hp | hx'
    · rcases holds_of_holds_append wf hc has hne hp with hp | rfl
      · exact .inl hp
      · exact .inr List.mem_cons_self
    · exact .inr (List.mem_cons_of_mem _ hx')
  · intro x hx
    obtain ⟨row, hrow, -⟩ := h.row
    rcases List.mem_cons.1 hx with rfl | hx
    · by_cases hagain : x ∈ moved values
      · exact h.holds x hagain
      · rw [Holds, hrow, hkids]
        exact List.mem_append_left _ (List.mem_filter.2 ⟨by simp, decide_eq_true hagain⟩)
    · exact h.holds x hx
  · obtain ⟨row, hrow, hlines⟩ := h.row
    rw [hkids, List.filter_append, filter_moved_element, List.append_assoc] at hrow
    refine ⟨_, hrow, ?_⟩
    rw [List.map_append, hlines, lines, List.filter_cons]
    by_cases hagain : id ∈ moved values
    · rw [if_pos hagain, if_neg (by simpa using hagain)]
      rfl
    · rw [if_neg hagain, if_pos (decide_eq_true hagain)]
      rfl

end

/-- A page in which text was put at the end of an element: there is a new leaf, and nothing else is
changed. -/
structure Texts (c : NodeId) (content : String) (before after : Dom) : Prop where
  has : ∀ x, after.Has x ↔ before.Has x ∨ x = before.fresh
  tag : after.tag? c = before.tag? c
  view : ∀ x, before.Has x → x ≠ c → after.view? x = before.view? x
  kids : after.kids c = before.kids c ++ [before.fresh]
  leaf : after.view? before.fresh = some (.leaf (.text .plain content))

theorem texts_appendText (wf : before.WellFormed) (hc : Loose before c) (content : String) :
    Texts c content before (before.appendText c content) := by
  obtain ⟨tag, htag⟩ := hc.element
  have has := has_of_tag? htag
  have hgrows := grows_createLeaf before (.text .plain content)
  have hnew : (before.createLeaf (.text .plain content)).2.Has before.fresh :=
    hgrows.has_iff.2 (.inr List.mem_cons_self)
  have htag' : (before.createLeaf (.text .plain content)).2.tag? c = some tag := by
    rw [tag?, hgrows.find? wf has]
    exact htag
  have hout : ¬(before.createLeaf (.text .plain content)).2.IsBelow before.fresh c := by
    intro hbelow
    obtain ⟨p, hp, -⟩ := (hgrows.wellFormed wf).isBelow_cases hbelow
    rw [(hgrows.wellFormed wf).parent?_eq_some_iff, hgrows.holds_iff wf has,
      ← wf.parent?_eq_some_iff, hc.parent] at hp
    cases hp
  have hrearranges := rearranges_append (hgrows.wellFormed wf) hnew htag'
    (fun heq => wf.not_has_fresh (heq ▸ has)) hout
  have hrow (p : NodeId) : swap before.fresh [] (before.kids p) = before.kids p :=
    swap_of_notMem fun hin => wf.not_has_fresh (Holds.has_right hin)
  refine ⟨fun x => ?_, ?_, fun x hx hxc => ?_, ?_, ?_⟩
  · refine (hrearranges.has_iff x).trans (hgrows.has_iff.trans (or_congr_right ?_))
    exact List.mem_singleton
  · refine (hrearranges.tag? c).trans ?_
    rw [htag', htag]
  · refine (hrearranges.view x).trans ?_
    rw [hgrows.view? wf hx]
    refine Forest.map_withKids_eq_self ?_
    rw [if_neg hxc]
    exact hrow x
  · refine (hrearranges.kids_of_tag htag').trans ?_
    rw [if_pos rfl, kids_eq_view, hgrows.view? wf has, ← kids_eq_view, hrow]
  · refine (hrearranges.view before.fresh).trans ?_
    rw [hgrows.view?_new wf List.mem_cons_self, Forest.view?_leaf, if_pos rfl]
    rfl

theorem Texts.holds {content : String} (h : Texts c content before after) (wf : before.WellFormed)
    {p : NodeId} (hx : before.Has x) (hp : after.Holds p x) : before.Holds p x := by
  by_cases hpc : p = c
  · subst hpc
    rw [Holds, h.kids, List.mem_append, List.mem_singleton] at hp
    rcases hp with hp | rfl
    · exact hp
    · exact absurd hx wf.not_has_fresh
  · rcases (h.has p).1 hp.has_left with hthere | rfl
    · rwa [Holds, kids_eq_view, h.view p hthere hpc, ← kids_eq_view] at hp
    · rw [Holds, kids_of_view h.leaf] at hp
      cases hp

/-- The leaf shows the text wherever the leaf is. -/
theorem shown_of_view?_text {content : String}
    (h : dom.view? x = some (.leaf (.text .plain content))) : shown dom x = escapeText content := by
  obtain ⟨node, hnode, hview⟩ := Option.map_eq_some_iff.1 h
  cases node with
  | leaf id content =>
    cases hview
    rw [shown, Dom.find?, hnode]
    exact String.append_empty
  | element id tag children => cases hview

/-- Text is put in before other values. -/
theorem Fills.text {content : String} (wf : before.WellFormed) (hc : Loose before c)
    (hvalues : ∀ id ∈ moved values, before.Has id)
    (h : Fills c values (before.appendText c content) after) :
    Fills c (.text content :: values) before after := by
  have htexts := texts_appendText wf hc content
  have hhas {x : NodeId} (hx : before.Has x) : (before.appendText c content).Has x :=
    (htexts.has x).2 (.inl hx)
  have hmoved : moved (.text content :: values) = moved values := rfl
  refine ⟨h.wellFormed, h.loose, h.tag.trans htexts.tag, ?_, ?_, h.holds, ?_⟩
  · intro x hx hxc
    rw [h.view x (hhas hx) hxc, htexts.view x hx hxc, hmoved]
  · intro p x hx hp
    exact (h.held p x (hhas hx) hp).imp_left (htexts.holds wf hx)
  · obtain ⟨row, hrow, hlines⟩ := h.row
    have hstays : before.fresh ∉ moved values := fun hin => wf.not_has_fresh (hvalues _ hin)
    have hne : before.fresh ≠ c := by
      rintro rfl
      obtain ⟨tag, htag⟩ := hc.element
      exact wf.not_has_fresh (has_of_tag? htag)
    have hleaf : after.view? before.fresh = some (.leaf (.text .plain content)) := by
      rw [h.view before.fresh ((htexts.has _).2 (.inr rfl)) hne, htexts.leaf]
      rfl
    rw [htexts.kids, List.filter_append, List.append_assoc, List.filter_cons,
      if_pos (decide_eq_true hstays)] at hrow
    refine ⟨_, hrow, ?_⟩
    rw [List.map_append, hlines, lines, List.filter_nil, List.map_singleton,
      shown_of_view?_text hleaf]
    rfl

/-- What values do to the page when they are put into an element that nothing holds. -/
theorem fills_container (wf : before.WellFormed) (hc : Loose before c)
    (hvalues : ∀ id ∈ moved values, before.Has id ∧ c ≠ id) :
    Fills c values before (fillContainer before c values) := by
  induction values generalizing before with
  | nil => exact .refl wf hc
  | cons value values ih =>
    have hrest : ∀ id ∈ moved values, before.Has id ∧ c ≠ id := by
      intro id hid
      refine hvalues id ?_
      cases value with
      | element other => exact List.mem_cons_of_mem _ hid
      | null | bool _ | integer _ | decimal _ | text _ | list _ | config _ => exact hid
    have hguarded : ∀ k ∈ ({c} : Set NodeId), before.Has k := by
      rintro k rfl
      obtain ⟨tag, htag⟩ := hc.element
      exact has_of_tag? htag
    cases value with
    | element id =>
      obtain ⟨has, hne⟩ := hvalues id List.mem_cons_self
      have hstep : Change {c} ∅ before (before.append c id) :=
        append_loose wf hc (Set.notMem_empty _) ⟨hne.symm, has⟩ hne
      have hext := hstep.extends wf
      exact .element wf hc has hne (ih hext.wellFormed
        (hc.of_changes wf (.single hstep) rfl) fun k hk => ⟨hext.has k (hrest k hk).1, (hrest k hk).2⟩)
    | text content =>
      have hstep : Changes {c} ∅ before (before.appendText c content) :=
        appendText_loose wf hc (Set.notMem_empty _) hguarded content
      have hext := hstep.extends wf
      exact .text wf hc (fun k hk => (hrest k hk).1) (ih hext.wellFormed
        (hc.of_changes wf hstep rfl) fun k hk => ⟨hext.has k (hrest k hk).1, (hrest k hk).2⟩)
    | null | bool _ | integer _ | decimal _ | list _ | config _ =>
      have h := ih wf hc hrest
      exact ⟨h.wellFormed, h.loose, h.tag, h.view, h.held, h.holds, h.row⟩

/-- A new element takes the nodes of a page that its values put into it, and no others. -/
theorem Fills.sheds {scope : NodeId} {gone : List NodeId} (h : Fills c values mid after)
    (hs : Sheds scope [] before mid) (hc : ¬before.Has c)
    (hgone : ∀ x, before.Has x → (x ∈ moved values ↔ x ∈ gone))
    (hbelow : ∀ x ∈ gone, before.IsBelow scope x) : Sheds scope gone before after := by
  refine ⟨h.wellFormed, hs.there, fun x hx => ?_, hbelow, fun p x hx hp => ?_⟩
  · have hne : x ≠ c := fun heq => hc (heq ▸ hx)
    rw [h.view x (hs.has hx) hne, hs.view x hx, Option.map_map]
    cases hview : before.view? x with
    | none => rfl
    | some view =>
      refine congrArg some ?_
      rw [Function.comp_apply, View.withKids_withKids]
      refine View.withKids_congr ?_
      rw [List.filter_filter]
      refine List.filter_congr fun k hk => ?_
      have hholds : before.Holds x k := by
        rw [Holds, kids_of_view hview]
        exact hk
      simp [hgone k hholds.has_right]
  · rcases h.held p x (hs.has hx) hp with hp | hin
    · exact (hs.held p x hx hp).imp_right fun hnil => absurd hnil List.not_mem_nil
    · exact .inr ((hgone x hx).1 hin)

/-! ## Pieces in an element -/

/-- The elements of the page that pieces name. -/
def kept (all : List Piece) : List NodeId :=
  all.filterMap fun piece =>
    match piece with
    | .found (.element id) => some id
    | _ => none

/-- The markup of each piece in a container. -/
def contents (look : NodeId → String) : List Piece → List String
  | [] => []
  | .found (.element id) :: rest =>
    if id ∈ kept rest then contents look rest else look id :: contents look rest
  | .found (.text content) :: rest => escapeText content :: contents look rest
  | .found _ :: rest => contents look rest
  | .made node :: rest => node.markup :: contents look rest

theorem contents_congr {look other : NodeId → String} {all : List Piece}
    (h : ∀ id ∈ kept all, look id = other id) : contents look all = contents other all := by
  induction all with
  | nil => rfl
  | cons piece all ih =>
    have hrest : ∀ id ∈ kept all, look id = other id := by
      intro id hid
      refine h id ?_
      cases piece with
      | made node => exact hid
      | found value =>
        cases value with
        | element first => exact List.mem_cons_of_mem _ hid
        | null | bool _ | integer _ | decimal _ | text _ | list _ | config _ => exact hid
    cases piece with
    | made node => rw [contents, contents, ih hrest]
    | found value =>
      cases value with
      | element id => rw [contents, contents, ih hrest, h id List.mem_cons_self]
      | null | bool _ | integer _ | decimal _ | text _ | list _ | config _ =>
        simp only [contents, ih hrest]

/-- The elements that placed pieces put into a container are those of the page that they name, and new
ones at the top. -/
structure Placed (dom : Dom) (all : List Piece) : Prop where
  named : ∀ id ∈ kept all, id ∈ moved (place dom all).1
  cases : ∀ id ∈ moved (place dom all).1, id ∈ kept all ∨
    ¬dom.Has id ∧ (place dom all).2.Has id ∧ (place dom all).2.parent? id = none

theorem exists_adopted (wf : dom.WellFormed) (node : Node) :
    ∃ copy, (dom.adopt node).2.find? dom.fresh = some copy ∧ copy.markup = node.markup := by
  rw [wf.find?_adopt]
  cases node with
  | leaf id content => exact ⟨.leaf dom.fresh content, if_pos rfl, rfl⟩
  | element id tag children =>
    refine ⟨.element dom.fresh tag (children.renumber (dom.fresh + 1)).1, if_pos rfl, ?_⟩
    exact Forest.markup_renumber false dom.fresh (.element id tag children .nil)

theorem fresh_mem_adopted (dom : Dom) (node : Node) :
    dom.fresh ∈ (node.toForest.renumber dom.fresh).1.topIds := by
  cases node <;> exact List.mem_cons_self

section

variable {scope : NodeId} {all : List Piece} (wf : dom.WellFormed) (hscope : dom.Has scope)

include wf hscope

theorem placed (all : List Piece) : Placed dom all := by
  induction all generalizing dom with
  | nil => exact ⟨fun id hid => absurd hid List.not_mem_nil, fun id hid => absurd hid List.not_mem_nil⟩
  | cons piece all ih =>
    cases piece with
    | found value =>
      obtain ⟨hnamed, hcases⟩ := ih wf hscope
      cases value with
      | element first =>
        refine ⟨fun id hid => ?_, fun id hid => ?_⟩
        · rcases List.mem_cons.1 hid with rfl | hid
          · exact List.mem_cons_self
          · exact List.mem_cons_of_mem _ (hnamed id hid)
        · rcases List.mem_cons.1 hid with rfl | hid
          · exact .inl List.mem_cons_self
          · exact (hcases id hid).imp_left (List.mem_cons_of_mem _)
      | null | bool _ | integer _ | decimal _ | text _ | list _ | config _ => exact ⟨hnamed, hcases⟩
    | made node =>
      have hgrows := grows_adopt dom node
      have hfirst := hgrows.sheds wf hscope
      have hrest := sheds_place hfirst.wellFormed (hfirst.has hscope) all
      obtain ⟨hnamed, hcases⟩ := ih hfirst.wellFormed (hfirst.has hscope)
      refine ⟨fun id hid => List.mem_cons_of_mem _ (hnamed id hid), fun id hid => ?_⟩
      rcases List.mem_cons.1 hid with rfl | hid
      · have htop := fresh_mem_adopted dom node
        have has : (dom.adopt node).2.Has dom.fresh :=
          hgrows.has_iff.2 (.inr (Forest.topIds_subset_ids htop))
        refine .inr ⟨wf.not_has_fresh, hrest.has has, ?_⟩
        exact (hrest.parent?_eq hfirst.wellFormed has List.not_mem_nil).trans
          (hgrows.parent?_top wf htop)
      · rcases hcases id hid with hid | ⟨hnot, hin⟩
        · exact .inl hid
        · exact .inr ⟨fun has => hnot (hfirst.has has), hin⟩

/-- The markup of placed pieces is that of the pieces, if it is that of the markup's nodes for all that
are new. -/
theorem lines_place (hkept : ∀ id ∈ kept all, dom.Has id) {look : NodeId → String}
    (hlook : ∀ id ∈ moved (place dom all).1, ¬dom.Has id → look id = shown (place dom all).2 id) :
    lines look (place dom all).1 = contents look all := by
  induction all generalizing dom with
  | nil => rfl
  | cons piece all ih =>
    cases piece with
    | found value =>
      cases value with
      | element id =>
        obtain ⟨hnamed, hcases⟩ := placed wf hscope all
        have hrest := ih wf hscope (fun k hk => hkept k (List.mem_cons_of_mem _ hk))
          fun k hk => hlook k (List.mem_cons_of_mem _ hk)
        have hagain : id ∈ moved (place dom all).1 ↔ id ∈ kept all := by
          refine ⟨fun hin => ?_, hnamed id⟩
          exact (hcases id hin).resolve_right fun hnew => hnew.1 (hkept id List.mem_cons_self)
        rw [place, lines, contents, hrest]
        simp only [hagain]
      | null | bool _ | integer _ | decimal _ | text _ | list _ | config _ =>
        have hrest := ih wf hscope hkept hlook
        simp only [place, lines, contents, hrest]
    | made node =>
      have hgrows := grows_adopt dom node
      have hfirst := hgrows.sheds wf hscope
      have hplace := sheds_place hfirst.wellFormed (hfirst.has hscope) all
      obtain ⟨-, hcases⟩ := placed hfirst.wellFormed (hfirst.has hscope) all
      have has : (dom.adopt node).2.Has dom.fresh :=
        hgrows.has_iff.2 (.inr (Forest.topIds_subset_ids (fresh_mem_adopted dom node)))
      have honce : dom.fresh ∉ moved (place (dom.adopt node).2 all).1 := by
        intro hin
        rcases hcases _ hin with hin | hnew
        · exact wf.not_has_fresh (hkept _ hin)
        · exact hnew.1 has
      obtain ⟨copy, hcopy, hmarkup⟩ := exists_adopted wf node
      have hself : look dom.fresh = node.markup := by
        rw [hlook _ List.mem_cons_self wf.not_has_fresh, shown]
        have hfind := hplace.find?_eq_self hfirst.wellFormed has fun k hk => absurd hk List.not_mem_nil
        rw [place, hfind, hcopy]
        exact hmarkup
      have hrest := ih hfirst.wellFormed (hfirst.has hscope) (fun k hk => hfirst.has (hkept k hk))
        fun k hk hnot => hlook k (List.mem_cons_of_mem _ hk) fun hin => hnot (hfirst.has hin)
      rw [place, lines, contents, if_neg honce, hself, hrest]

end

/-- The page in which pieces were put into a new container. -/
def filled (dom : Dom) (all : List Piece) : Dom :=
  fillContainer (place (dom.createElement containerTag).2 all).2 dom.fresh
    (place (dom.createElement containerTag).2 all).1

section

variable {scope : NodeId} {all : List Piece} (wf : dom.WellFormed) (hscope : dom.Has scope)

include wf hscope

/-- Up to the moves into the container nothing is given away. -/
theorem sheds_placed (all : List Piece) :
    Sheds scope [] dom (place (dom.createElement containerTag).2 all).2 := by
  have hfirst := (grows_createElement dom containerTag).sheds wf hscope
  exact hfirst.trans wf (sheds_place hfirst.wellFormed (hfirst.has hscope) all)

theorem loose_placed (all : List Piece) :
    Loose (place (dom.createElement containerTag).2 all).2 dom.fresh := by
  have hgrows := grows_createElement dom containerTag
  have hfirst := hgrows.sheds wf hscope
  have hplace := sheds_place hfirst.wellFormed (hfirst.has hscope) all
  obtain ⟨⟨tag, htag⟩, hparent⟩ := loose_createElement wf containerTag
  have has := has_of_tag? htag
  refine ⟨⟨tag, ?_⟩, ?_⟩
  · rw [hplace.tag?_eq has, htag]
  · rw [hplace.parent?_eq hfirst.wellFormed has List.not_mem_nil, hparent]

/-- What the values do that pieces come to. -/
theorem fills_filled (hkept : ∀ id ∈ kept all, dom.Has id) :
    Fills dom.fresh (place (dom.createElement containerTag).2 all).1
      (place (dom.createElement containerTag).2 all).2 (filled dom all) := by
  have hgrows := grows_createElement dom containerTag
  have hfirst := hgrows.sheds wf hscope
  have hplace := sheds_place hfirst.wellFormed (hfirst.has hscope) all
  refine fills_container hplace.wellFormed (loose_placed wf hscope all) fun id hid => ?_
  rcases (placed hfirst.wellFormed (hfirst.has hscope) all).cases id hid with hid | ⟨hnot, has, -⟩
  · exact ⟨hplace.has (hfirst.has (hkept id hid)),
      fun heq => wf.not_has_fresh (heq ▸ hkept id hid)⟩
  · refine ⟨has, fun heq => hnot (heq ▸ ?_)⟩
    exact hgrows.has_iff.2 (.inr List.mem_cons_self)

/-- Of the nodes that were there, just the named elements go into the container. -/
theorem mem_moved_placed_iff (hx : dom.Has x) :
    x ∈ moved (place (dom.createElement containerTag).2 all).1 ↔ x ∈ kept all := by
  have hfirst := (grows_createElement dom containerTag).sheds wf hscope
  obtain ⟨hnamed, hcases⟩ := placed hfirst.wellFormed (hfirst.has hscope) all
  exact ⟨fun hin => (hcases x hin).resolve_right fun hnew => hnew.1 (hfirst.has hx), hnamed x⟩

/-- A container takes the elements that it is told, and no others. -/
theorem sheds_filled (hkept : ∀ id ∈ kept all, dom.IsBelow scope id) :
    Sheds scope (kept all) dom (filled dom all) :=
  (fills_filled wf hscope fun id hid => (hkept id hid).has_right).sheds (sheds_placed wf hscope all)
    wf.not_has_fresh (fun _ hx => mem_moved_placed_iff wf hscope hx) hkept

/-- The nodes of markup are what they are, wherever they are put. -/
theorem shown_of_new (hkept : ∀ id ∈ kept all, dom.Has id)
    (hx : x ∈ moved (place (dom.createElement containerTag).2 all).1)
    (hnew : ¬(dom.createElement containerTag).2.Has x) :
    shown (filled dom all) x = shown (place (dom.createElement containerTag).2 all).2 x := by
  have hgrows := grows_createElement dom containerTag
  have hfirst := hgrows.sheds wf hscope
  have hplace := sheds_place hfirst.wellFormed (hfirst.has hscope) all
  have hfills := fills_filled wf hscope hkept
  obtain ⟨-, hcases⟩ := placed hfirst.wellFormed (hfirst.has hscope) all
  obtain ⟨-, has, -⟩ := (hcases x hx).resolve_left fun hin => hnew (hfirst.has (hkept x hin))
  have hcontainer : (dom.createElement containerTag).2.Has dom.fresh :=
    hgrows.has_iff.2 (.inr List.mem_cons_self)
  have hfind := find?_eq_prune hplace.wellFormed hfills.wellFormed has fun y hy => by
    refine hfills.view y ?_ ?_
    · rcases hy with rfl | hy
      · exact has
      · exact hy.has_right
    · rintro rfl
      rcases hy with rfl | hy
      · exact hnew hcontainer
      · exact not_isBelow_loose hplace.wellFormed (loose_placed wf hscope all) hy
  obtain ⟨node, hnode⟩ := has_iff_find?.1 has
  rw [shown, shown, hfind, hnode, Option.map_some, Node.prune_eq_self]
  intro k hk hin
  have hbelow : (place (dom.createElement containerTag).2 all).2.IsBelow x k :=
    isBelow_iff.2 ⟨node, hnode, hk⟩
  rcases hcases k hin with hin | ⟨-, -, hparent⟩
  · exact hnew (hplace.has_of_isBelow rfl (hfirst.has (hkept k hin)) hbelow)
  · obtain ⟨p, hp, -⟩ := hplace.wellFormed.isBelow_cases hbelow
    rw [hparent] at hp
    cases hp

/-- What a container holds in the end. -/
theorem innerMarkup_filled (hkept : ∀ id ∈ kept all, dom.Has id) :
    ((filled dom all).find? dom.fresh).map Node.innerMarkup =
      some (String.join (contents (shown (filled dom all)) all)) := by
  have hgrows := grows_createElement dom containerTag
  have hfirst := hgrows.sheds wf hscope
  have hplace := sheds_place hfirst.wellFormed (hfirst.has hscope) all
  have hfills := fills_filled wf hscope hkept
  have hcontainer : (dom.createElement containerTag).2.Has dom.fresh :=
    hgrows.has_iff.2 (.inr List.mem_cons_self)
  have hview : (place (dom.createElement containerTag).2 all).2.view? dom.fresh =
      some (.element containerTag []) := by
    rw [hplace.view _ hcontainer, hgrows.view?_new wf List.mem_cons_self, Forest.view?_element,
      if_pos rfl]
    rfl
  have htag : (filled dom all).tag? dom.fresh = some containerTag :=
    hfills.tag.trans (tag?_eq_some_iff.2 ⟨[], hview⟩)
  obtain ⟨row, hrow, hlines⟩ := hfills.row
  rw [kids_of_view hview] at hrow
  obtain ⟨node, hnode⟩ := has_iff_find?.1 (has_of_tag? htag)
  have hname : node.tag? = some containerTag := by
    rw [tag?, hnode] at htag
    exact htag
  have hchildren : node.children.toList.map Node.markup =
      ((filled dom all).kids dom.fresh).map (shown (filled dom all)) := by
    rw [kids, Forest.kids_of_find? hnode, ← Forest.map_id_toList, List.map_map]
    refine List.map_congr_left fun child hchild => ?_
    have hmem := Forest.nodes_children_subset (Forest.mem_nodes_of_find? hnode)
      (Forest.mem_nodes_of_mem_toList hchild)
    have hfind : (filled dom all).find? child.id = some child :=
      Forest.find?_of_mem_nodes hfills.wellFormed.nodup hmem
    rw [Function.comp_apply, shown, hfind]
    rfl
  have hraw : node.innerMarkup = node.children.markup false := by
    cases node with
    | leaf id content => cases hname
    | element id tag children =>
      obtain rfl : tag = containerTag := Option.some.inj hname
      rfl
  rw [hnode, Option.map_some, hraw, Forest.markup_eq_join, hchildren, hrow]
  refine congrArg (fun all => some (String.join all)) (hlines.trans ?_)
  exact lines_place hfirst.wellFormed (hfirst.has hscope) (fun id hid => hfirst.has (hkept id hid))
    fun id hid hnot => shown_of_new wf hscope hkept hid hnot

end

/-! ## Cells in an element -/

/-- The pieces that a cell yields. -/
def cellPieces (dom : Dom) (scope : NodeId) (cell params : Value) (sanitize : Sanitize.Sanitizer) :
    Except CellFault (List Piece) :=
  if cell.isPresent then
    match readParams params with
    | .error fault => .error fault
    | .ok params => pieces dom scope params sanitize cell.itemsOrSelf
  else .ok []

variable {scope : NodeId} {tag : Tag} {sanitize : Sanitize.Sanitizer} {cell params : Value}
  {all : List Piece}

/-- The elements that specs name are found by their selectors, unless they are specs themselves. -/
theorem exists_select_of_kept {specs : List Value} {changes : CellParams}
    (hspecs : ∀ spec ∈ specs, spec.elements = [])
    (h : pieces dom scope changes sanitize specs = .ok all) {id : NodeId} (hid : id ∈ kept all) :
    ∃ text marked selector, .text text ∈ specs ∧
      CellSpec.parse text.toList = .selector marked selector ∧ id ∈ dom.select scope selector := by
  induction specs generalizing all with
  | nil =>
    cases h
    exact absurd hid List.not_mem_nil
  | cons spec specs ih =>
    rw [pieces] at h
    split at h
    · cases h
    next found hfound =>
    obtain ⟨rest, hrest, rfl⟩ := exists_of_map_eq_ok h
    rw [kept, List.filterMap_append, List.mem_append] at hid
    rcases hid with hid | hid
    · obtain ⟨piece, hpiece, hid⟩ := List.mem_filterMap.1 hid
      cases spec with
      | element other => cases hspecs _ List.mem_cons_self
      | text content =>
        rw [specPieces] at hfound
        split at hfound
        · next marked selector hparse =>
          obtain ⟨value, hvalue, rfl⟩ := exists_of_map_eq_ok hfound
          obtain ⟨item, hitem, rfl⟩ := List.mem_map.1 hpiece
          cases item with
          | element other =>
            obtain rfl : other = id := Option.some.inj hid
            exact ⟨content, marked, selector, List.mem_cons_self, hparse,
              mem_select_of_element hvalue hitem⟩
          | null | bool _ | integer _ | decimal _ | text _ | list _ | config _ => cases hid
        · obtain ⟨node, -, rfl⟩ := exists_of_map_eq_ok hfound
          obtain ⟨made, -, rfl⟩ := List.mem_map.1 hpiece
          cases hid
      | null | bool _ | integer _ | decimal _ | list _ | config _ => cases hfound
    · obtain ⟨text, marked, selector, hmem, hin⟩ :=
        ih (fun other hother => hspecs other (List.mem_cons_of_mem _ hother)) hrest hid
      exact ⟨text, marked, selector, List.mem_cons_of_mem _ hmem, hin⟩

section

variable (wf : dom.WellFormed) (htag : dom.tag? scope = some tag) (hdocument : tag.isDocument = false)

include wf htag hdocument

/-- Evaluating a cell is finding its pieces and making room for the new ones. -/
theorem evaluate_eq_pieces (sanitize : Sanitize.Sanitizer) (cell params : Value) :
    (evaluate dom scope cell params sanitize).map (fun built =>
        (Value.flatten built.1, built.2)) =
      (cellPieces dom scope cell params sanitize).map (place dom) := by
  rw [evaluate, cellPieces]
  split
  · cases readParams params with
    | error fault => rfl
    | ok changes => exact evaluateSpecs_eq_pieces wf htag hdocument cell.itemsOrSelf
  · rfl

/-- A container is told by the pieces that its cell yields. -/
theorem buildContainer_eq (sanitize : Sanitize.Sanitizer) (cell params : Value) :
    buildContainer dom scope cell params sanitize =
      (cellPieces dom scope cell params sanitize).map fun all => (dom.fresh, filled dom all) := by
  have hfirst := (grows_createElement dom containerTag).sheds wf (has_of_tag? htag)
  have htag' : (dom.createElement containerTag).2.tag? scope = some tag := by
    rw [hfirst.tag?_eq (has_of_tag? htag), htag]
  have hsame : cellPieces (dom.createElement containerTag).2 scope cell params sanitize =
      cellPieces dom scope cell params sanitize := by
    rw [cellPieces, cellPieces]
    split
    · cases readParams params with
      | error fault => rfl
      | ok changes => exact pieces_eq hfirst wf htag hdocument (.inl rfl)
    · rfl
  have hevaluate := evaluate_eq_pieces hfirst.wellFormed htag' hdocument sanitize cell params
  rw [hsame] at hevaluate
  obtain ⟨fault, hleft, hright⟩ | ⟨⟨values, last⟩, all, hleft, hright, hplace⟩ :=
    cases_of_map_eq hevaluate
  · rw [hright]
    exact congrArg (Except.map _) hleft
  · rw [hright]
    refine (congrArg (Except.map _) hleft).trans (congrArg Except.ok ?_)
    show _ = (dom.fresh, filled dom all)
    rw [filled, ← hplace]

end

end Cell

end PageBlocks
