import PageBlocks.Proofs.Cell.Frame
import PageBlocks.Proofs.Dom.Ancestor
import PageBlocks.Proofs.Json.Content
import PageBlocks.Strategy.Finder
/-!
# What strategies do to the page

Each strategy looks for cells below an element.  It may take out what shows nothing, make
containers and images, and rewrite an image's sources, but all it touches is below that element or
new.  The cells that it finds are free in turn.

## Main results

* `Strategy.findCells_careful`, `Strategy.findCarousel_careful`, `Strategy.findColumns_careful`,
  `Strategy.findMetadata_careful` — strategies touch nothing that is guarded.
* `Strategy.finder_careful` — so does every finder, as long as the host's metadata do not.
-/

namespace PageBlocks

open Dom

/-- All elements that settings mention are free. -/
def Params.IsFree (kept : Set NodeId) (dom : Dom) (params : Params) : Prop :=
  ∀ entry ∈ params, entry.2.IsFree kept dom

/-- An operation that touches nothing that is guarded, and yields values that are free. -/
structure Outcome.Careful {fault α : Type} (kept : Set NodeId) (before : Dom)
    (isFree : Dom → α → Prop) (outcome : Outcome fault α) : Prop where
  changes : Changes kept kept before outcome.2
  free : ∀ value, outcome.1 = .ok value → isFree outcome.2 value

/-- A finder that touches nothing that is guarded. -/
def CellFinder.Careful (kept : Set NodeId) (finder : CellFinder) : Prop :=
  ∀ dom scope params, Guarded kept scope dom → Params.IsFree kept dom params →
    Outcome.Careful kept dom (Value.IsFree kept) (finder dom scope params)

variable {kept : Set NodeId} {scope : NodeId} {dom after : Dom}

/-! ## Settings -/

theorem Params.IsFree.override {params more : Params} (h : Params.IsFree kept dom params)
    (hm : Params.IsFree kept dom more) : Params.IsFree kept dom (Params.override params more) := by
  rw [Params.override]
  induction more generalizing params with
  | nil => exact h
  | cons entry more ih =>
    refine ih (fun e he => ?_) fun e he => hm e (List.mem_cons_of_mem _ he)
    rcases Json.mem_put he with he | he
    · exact h e he
    · rw [he]
      exact hm entry List.mem_cons_self

theorem Params.IsFree.cells {params : Params} (h : Params.IsFree kept dom params) :
    (Params.cells params).IsFree kept dom := by
  rw [Params.cells, Json.get?]
  cases hf : params.find? (·.1 = "cells") with
  | none => exact Value.isFree_of_elements_nil rfl
  | some entry => exact h entry (List.mem_of_find?_eq_some hf)

theorem Params.IsFree.of_has {params : Params} {before : Dom}
    (h : Params.IsFree kept before params) (hm : ∀ y, before.Has y → after.Has y) :
    Params.IsFree kept after params :=
  fun entry he => (h entry he).of_has hm

/-! ## Plain blocks -/

theorem rowSource_free {guard : NodeId} {params : Params} (hg : Guarded kept guard dom)
    (hscope : guard = scope ∨ Cell.cellsCopy params.cells = true)
    (hcells : params.cells.IsFree kept dom) : (rowSource dom scope params).IsFree kept dom := by
  rw [rowSource]
  split
  · next selector hselector =>
    rw [hselector] at hscope
    obtain rfl : guard = scope := hscope.resolve_right (by simp [Cell.cellsCopy])
    refine Value.isFree_list.2 (Value.isFree_map_element fun id hid => ?_)
    exact hg.free_of_isBelow_scope (isBelow_of_mem_selectText hg.wellFormed hid).1
  · split
    · exact hcells
    · exact Value.isFree_of_elements_nil rfl

theorem cellsCopy_rowSource (dom : Dom) (scope : NodeId) {params : Params}
    (h : Cell.cellsCopy params.cells = true) :
    Cell.cellsCopy (rowSource dom scope params) = true := by
  rw [rowSource]
  split
  · next selector hselector =>
    rw [hselector] at h
    cases h
  · split
    · exact h
    · rfl

/-- To find the cells of a plain block touches nothing that is guarded; if they copy what they find,
that may be guarded as well. -/
theorem findCells_frame {guard : NodeId} (sanitize : Sanitize.Sanitizer) {params : Params}
    (hg : Guarded kept guard dom) (hscope : guard = scope ∨ Cell.cellsCopy params.cells = true)
    (hcells : params.cells.IsFree kept dom) :
    Outcome.Careful kept dom (Value.IsFree kept) (findCells sanitize dom scope params) := by
  have hsource := rowSource_free hg hscope hcells
  have hcopies := hscope.imp_right (cellsCopy_rowSource dom scope)
  rw [findCells]
  split
  · next fields hfields =>
    rw [hfields] at hsource hcopies
    obtain ⟨hchanges, hfree⟩ :=
      Cell.buildFields_frame sanitize hg hcopies (Value.isFree_config.1 hsource)
    refine ⟨hchanges, fun value hvalue => ?_⟩
    dsimp only at hvalue ⊢
    cases hb : (Cell.buildFields dom scope sanitize fields).1 with
    | error fault => rw [hb] at hvalue; cases hvalue
    | ok built =>
      rw [hb] at hvalue
      cases hvalue
      refine Value.isFree_config.2 fun field hfield => ?_
      obtain ⟨entry, hentry, rfl⟩ := List.mem_map.1 hfield
      exact Value.isFree_element.2 (hfree built hb entry hentry)
  · next rows hrows =>
    rw [hrows] at hsource hcopies
    cases hb : Cell.buildRows dom scope sanitize rows with
    | error fault => exact ⟨.refl, fun value hvalue => by cases hvalue⟩
    | ok result =>
      have hyields := Cell.buildRows_frame hg hcopies (Value.isFree_list.1 hsource) hb
      refine ⟨hyields.makes.changes, fun value hvalue => ?_⟩
      cases hvalue
      exact Value.isFree_list.2 hyields.free
  · exact ⟨.refl, fun value hvalue => by cases hvalue; exact Value.isFree_of_elements_nil rfl⟩

theorem findCells_careful (sanitize : Sanitize.Sanitizer) :
    CellFinder.Careful kept (findCells sanitize) := fun _ _ _ hg hp =>
  findCells_frame sanitize hg (.inl rfl) hp.cells

namespace Strategy

/-! ## Carousels -/

theorem isBelow_of_mem_elementsBelow {x : NodeId} (h : x ∈ elementsBelow dom scope) :
    dom.Holds scope x := by
  obtain ⟨node, hnode, rfl⟩ := List.mem_map.1 h
  rw [Holds, kids_eq_topIds]
  exact Forest.id_mem_topIds (List.mem_filter.1 hnode).1

theorem isBelow_of_mem_namedBelow {name : String} {x : NodeId}
    (h : x ∈ namedBelow dom scope name) : dom.IsBelow scope x := by
  obtain ⟨node, hnode, hid⟩ := List.mem_filterMap.1 h
  have hx : node.id = x := by
    split at hid
    · exact Option.some.inj hid
    · cases hid
  cases hfind : dom.find? scope with
  | none => rw [hfind] at hnode; cases hnode
  | some outer =>
    rw [hfind] at hnode
    exact hx ▸ isBelow_of_mem_nodes hfind (List.mem_filter.1 hnode).1

theorem commonAncestor?_isBelow (wf : dom.WellFormed) {nodes : List NodeId} {around : NodeId}
    (hnodes : ∀ node ∈ nodes, dom.IsBelow scope node)
    (h : dom.commonAncestor? nodes = some around) :
    around = scope ∨ dom.IsBelow scope around := by
  have hscope : ∀ node ∈ nodes, dom.contains scope node = true := fun node hnode =>
    (wf.contains_iff (hnodes node hnode).has_right).2 (.inr (hnodes node hnode))
  match nodes, h with
  | [single], h =>
    cases h
    exact .inr (hnodes _ List.mem_cons_self)
  | first :: second :: rest, h =>
    have hne := List.cons_ne_nil first (second :: rest)
    obtain ⟨spot, hspot⟩ := exists_spot? (hnodes first List.mem_cons_self).has_right
    obtain ⟨hsits, rfl⟩ := sits_of_spot? hspot
    obtain ⟨found, hfound, hcontains⟩ := wf.exists_find?_around hsits
      (hscope _ List.mem_cons_self) (hscope _ (List.getLast_mem hne))
    rw [commonAncestor?_of_spot hspot hne, hfound] at h
    cases h
    have hfits := hsits.of_mem_ancestors (List.mem_of_find?_eq_some hfound)
    exact ((wf.contains_iff hfits.has).1 hcontains).imp_left Eq.symm

theorem slideRow_free {slides : List NodeId} {image : NodeId} (hg : Guarded kept scope dom)
    (hslides : ∀ slide ∈ slides, dom.IsBelow scope slide) (himage : dom.IsBelow scope image) :
    (slideRow dom slides image).IsFree kept dom := by
  rw [slideRow]
  refine Value.isFree_list.2 fun item hitem => ?_
  rcases List.mem_cons.1 hitem with rfl | hitem
  · exact Value.isFree_element.2 (hg.free_of_isBelow_scope himage)
  · rw [List.mem_singleton.1 hitem]
    refine Value.isFree_list.2 (Value.isFree_map_element fun id hid => ?_)
    split at hid
    · next slide hslide =>
      have hbelow := hslides slide (List.mem_of_find?_eq_some hslide)
      have hholds := isBelow_of_mem_elementsBelow (List.mem_filter.1 hid).1
      exact hg.free_of_isBelow_scope (hg.wellFormed.isBelow_of_holds hbelow hholds)
    · exact absurd hid List.not_mem_nil

theorem imageRows_free {images : List NodeId} (hg : Guarded kept scope dom)
    (himages : ∀ image ∈ images, dom.IsBelow scope image) :
    ∀ row ∈ imageRows dom images, row.IsFree kept dom := by
  intro row hrow
  obtain ⟨image, himage, rfl⟩ := List.mem_map.1 hrow
  refine slideRow_free hg (fun slide hslide => ?_) (himages image himage)
  cases ha : dom.commonAncestor? images with
  | none =>
    rw [ha] at hslide
    exact absurd hslide List.not_mem_nil
  | some around =>
    rw [ha] at hslide
    have hholds := isBelow_of_mem_elementsBelow hslide
    rcases commonAncestor?_isBelow hg.wellFormed himages ha with rfl | hbelow
    · exact hholds.isBelow
    · exact hg.wellFormed.isBelow_of_holds hbelow hholds

/-- The rows of a carousel are free where those that are told are, a single image in a row of its own as
well. -/
theorem carouselRows_free (hg : Guarded kept scope dom) (images : List NodeId) (told : List Value) :
    (∀ image ∈ images, dom.IsBelow scope image) → (∀ row ∈ told, row.IsFree kept dom) →
      Value.IsFree kept dom (match images with
        | [image] =>
          if (elementsBelow dom image).isEmpty then .list [.list [.element image]]
          else .list (told ++ imageRows dom images)
        | _ => .list (told ++ imageRows dom images)) := by
  intro himages htold
  have hall : (Value.list (told ++ imageRows dom images)).IsFree kept dom := by
    refine Value.isFree_list.2 fun row hrow => ?_
    rcases List.mem_append.1 hrow with hrow | hrow
    · exact htold row hrow
    · exact imageRows_free hg himages row hrow
  split
  · next _ image =>
    split
    · have hbelow := himages image List.mem_cons_self
      refine Value.isFree_list.2 fun row hrow => ?_
      rw [List.mem_singleton.1 hrow]
      refine Value.isFree_list.2 fun item hitem => ?_
      rw [List.mem_singleton.1 hitem]
      exact Value.isFree_element.2 (hg.free_of_isBelow_scope hbelow)
    · exact hall
  · exact hall

theorem findCarousel_careful (sanitize : Sanitize.Sanitizer) :
    CellFinder.Careful kept (findCarousel sanitize) := by
  intro dom scope params hg hp
  obtain ⟨hchanges, hfree⟩ := findCells_careful sanitize dom scope params hg hp
  have hg' := hg.of_changes hchanges subset_rfl
  rw [findCarousel]
  split
  · next fault mid hf =>
    rw [hf] at hchanges
    exact ⟨hchanges, fun value h => by cases h⟩
  · next found mid hf =>
    rw [hf] at hchanges hfree hg'
    have himages : ∀ image ∈ namedBelow mid scope "img", mid.IsBelow scope image :=
      fun image h => isBelow_of_mem_namedBelow h
    dsimp only
    split
    · next told =>
      refine ⟨hchanges, fun value h => ?_⟩
      cases h
      exact carouselRows_free hg' _ told himages (Value.isFree_list.1 (hfree _ rfl))
    · refine ⟨hchanges, fun value h => ?_⟩
      cases h
      exact carouselRows_free hg' _ [] himages fun row hrow => absurd hrow List.not_mem_nil
    · refine ⟨hchanges, fun value h => ?_⟩
      cases h
      exact Value.isFree_of_elements_nil rfl

/-! ## Columns -/

theorem dropEmpty_changes (hg : Guarded kept scope dom) :
    Changes kept kept dom (dropEmpty dom scope) := by
  have hfound : ∀ id ∈ dom.selectText scope "script, style", id ∉ kept := fun id hid =>
    hg.notMem_of_isBelow_scope (isBelow_of_mem_selectText hg.wellFormed hid).1
  have hout := detachAll_changes kept dom hfound
  have hg' := hg.of_changes hout subset_rfl
  rw [dropEmpty]
  refine hout.trans ?_
  generalize (dom.selectText scope "script, style").foldl Dom.detach dom = mid at hg' ⊢
  have hdivisions : ∀ id ∈ namedBelow mid scope "div", id ∉ kept := fun id hid =>
    hg'.notMem_of_isBelow_scope (isBelow_of_mem_namedBelow hid)
  generalize namedBelow mid scope "div" = divisions at hdivisions
  clear hg'
  induction divisions generalizing mid with
  | nil => exact .refl
  | cons division divisions ih =>
    have hfirst : Changes kept kept mid (dropIfEmpty mid division) := by
      rw [dropIfEmpty]
      split
      · exact .single (.detach (hdivisions division List.mem_cons_self))
      · exact .refl
    exact hfirst.trans (ih _ fun other h => hdivisions other (List.mem_cons_of_mem _ h))

private theorem mem_addToGroup {groups : List Group} {stem : List Char} {id x : NodeId}
    {group : Group} (h : group ∈ addToGroup groups stem id)
    (hx : x ∈ group.members) : x = id ∨ ∃ old ∈ groups, x ∈ old.members := by
  induction groups with
  | nil =>
    rw [List.mem_singleton.1 h] at hx
    exact .inl (List.mem_singleton.1 hx)
  | cons first groups ih =>
    rw [addToGroup] at h
    split at h
    · rcases List.mem_cons.1 h with rfl | h
      · rcases List.mem_append.1 hx with hx | hx
        · exact .inr ⟨first, List.mem_cons_self, hx⟩
        · exact .inl (List.mem_singleton.1 hx)
      · exact .inr ⟨group, List.mem_cons_of_mem _ h, hx⟩
    · rcases List.mem_cons.1 h with rfl | h
      · exact .inr ⟨_, List.mem_cons_self, hx⟩
      · rcases ih h with rfl | ⟨old, hold, hin⟩
        · exact .inl rfl
        · exact .inr ⟨old, List.mem_cons_of_mem _ hold, hin⟩

private theorem mem_foldl_addToGroup {spots : List Spot} {groups : List Group} {group : Group}
    {x : NodeId}
    (h : group ∈ spots.foldl (fun groups spot => addToGroup groups spot.stem spot.id) groups)
    (hx : x ∈ group.members) :
    (∃ old ∈ groups, x ∈ old.members) ∨ ∃ spot ∈ spots, spot.id = x := by
  induction spots generalizing groups with
  | nil => exact .inl ⟨group, h, hx⟩
  | cons spot spots ih =>
    rcases ih h with ⟨old, hold, hin⟩ | ⟨other, hother, hid⟩
    · rcases mem_addToGroup hold hin with rfl | hin
      · exact .inr ⟨spot, List.mem_cons_self, rfl⟩
      · exact .inl hin
    · exact .inr ⟨other, List.mem_cons_of_mem _ hother, hid⟩

theorem isBelow_of_mem_siblingGroup {wanted : Nat → Bool} {x : NodeId}
    (h : x ∈ siblingGroup dom scope wanted) : dom.IsBelow scope x := by
  rw [siblingGroup] at h
  split at h
  · next group hgroup =>
    rcases mem_foldl_addToGroup (List.mem_of_find?_eq_some hgroup) h with ⟨_, hold, _⟩ | hspot
    · exact absurd hold List.not_mem_nil
    · obtain ⟨below, hbelow, rfl⟩ := hspot
      have hmem := (List.mem_filter.1 hbelow).1
      cases hs : dom.spot? scope with
      | none => rw [hs] at hmem; exact absurd hmem List.not_mem_nil
      | some spot =>
        rw [hs] at hmem
        exact isBelow_of_mem_descendants hs hmem
  · dsimp only at h
    split at h
    · exact (isBelow_of_mem_elementsBelow h).isBelow
    · exact absurd h List.not_mem_nil

theorem findColumns_careful (sanitize : Sanitize.Sanitizer) :
    CellFinder.Careful kept (findColumns sanitize) := by
  intro dom scope params hg hp
  have hdrop := dropEmpty_changes hg
  have hg' := hg.of_changes hdrop subset_rfl
  have hext := hdrop.extends hg.wellFormed
  rw [findColumns]
  dsimp only
  split
  · have hcells := findCells_careful sanitize _ scope params hg' (hp.of_has hext.has)
    exact ⟨hdrop.trans hcells.changes, hcells.free⟩
  · refine ⟨hdrop, fun value hvalue => ?_⟩
    cases hvalue
    split
    · exact Value.isFree_of_elements_nil rfl
    · refine Value.isFree_list.2 fun row hrow => ?_
      rw [List.mem_singleton.1 hrow]
      refine Value.isFree_list.2 (Value.isFree_map_element fun id hid => ?_)
      exact hg'.free_of_isBelow_scope (isBelow_of_mem_siblingGroup hid)

/-! ## Metadata -/

theorem imageOf?_free {id image : NodeId} (hg : Guarded kept scope dom) (hid : dom.Free kept id)
    (h : imageOf? dom id = some image) : dom.Free kept image := by
  rw [imageOf?] at h
  split at h
  · cases h
    exact hid
  · obtain ⟨inner, hinner, rfl⟩ := Option.map_eq_some_iff.1 h
    obtain ⟨node, hnode, hfind⟩ := Option.bind_eq_some_iff.1 hinner
    have hmem := (List.mem_filter.1 (List.mem_of_find?_eq_some hfind)).1
    exact hg.free_of_isBelow hid (isBelow_of_mem_nodes hnode hmem)

theorem keepFirstSource_changes {id : NodeId} (hg : Guarded kept scope dom)
    (hid : dom.Free kept id) : Changes kept kept dom (keepFirstSource dom id) := by
  rw [keepFirstSource]
  split
  · exact .refl
  · next image himage =>
    have hfree := imageOf?_free hg hid himage
    split
    · exact .refl
    · exact .refl
    · next sources _ hsources =>
      obtain ⟨tag, htag, _⟩ := Option.bind_eq_some_iff.1 hsources
      exact .single (.setAttribute hfree.1 htag _ _)

theorem finishField_careful (name : String) {value : Value} (hg : Guarded kept scope dom)
    (hvalue : value.IsFree kept dom) :
    Outcome.Careful kept dom (Value.IsFree kept) (finishField dom name value) := by
  have hchanges : Changes kept kept dom (finishField dom name value).2 := by
    cases value with
    | element id =>
      rw [finishField]
      dsimp only
      split
      · exact keepFirstSource_changes hg (Value.isFree_element.1 hvalue)
      · exact .refl
    | null | bool _ | integer _ | decimal _ | text _ | list _ | config _ => exact .refl
  refine ⟨hchanges, fun result hresult => ?_⟩
  obtain ⟨date, _, rfl⟩ := Cell.exists_of_map_eq_ok hresult
  cases date with
  | none => exact hvalue.of_has (hchanges.extends hg.wellFormed).has
  | some text => exact Value.isFree_text text

theorem finishFields_careful {fields : List (String × Value)} (hg : Guarded kept scope dom)
    (hfields : Params.IsFree kept dom fields) :
    Outcome.Careful kept dom (Params.IsFree kept) (finishFields dom fields) := by
  induction fields generalizing dom with
  | nil => exact ⟨.refl, fun value h => by cases h; exact fun _ he => absurd he List.not_mem_nil⟩
  | cons field fields ih =>
    obtain ⟨name, value⟩ := field
    have hfirst := finishField_careful name hg (hfields _ List.mem_cons_self)
    rw [finishFields]
    cases hf : finishField dom name value with
    | mk result mid =>
      rw [hf] at hfirst
      cases result with
      | error fault => exact ⟨hfirst.changes, fun value h => by cases h⟩
      | ok done =>
        have hg' := hg.of_changes hfirst.changes subset_rfl
        have hext := hfirst.changes.extends hg.wellFormed
        have hrest := ih hg' fun entry he =>
          (hfields entry (List.mem_cons_of_mem _ he)).of_has hext.has
        refine ⟨hfirst.changes.trans hrest.changes, fun all hall => ?_⟩
        obtain ⟨rest, hok, rfl⟩ := Cell.exists_of_map_eq_ok hall
        intro entry he
        rcases List.mem_cons.1 he with rfl | he
        · exact (hfirst.free done rfl).of_has (hrest.changes.extends hg'.wellFormed).has
        · exact hrest.free rest hok entry he

end Strategy

/-- A host whose metadata touch nothing that is guarded. -/
def Host.KnowsCarefully (kept : Set NodeId) (host : Host) : Prop :=
  ∀ dom scope, Guarded kept scope dom →
    Changes kept kept dom (host.metadata dom).2 ∧
      Params.IsFree kept (host.metadata dom).2 (host.metadata dom).1

theorem standardHost_knowsCarefully (sanitize : Sanitize.Sanitizer) :
    (standardHost sanitize).KnowsCarefully kept := by
  intro dom scope hg
  have htold {name : String} {text : Option String} {entry : String × Value} {page : Dom}
      (h : entry ∈ (text.map fun text => (name, Value.text text)).toList) :
      entry.2.IsFree kept page := by
    obtain ⟨content, _, rfl⟩ := Option.map_eq_some_iff.1 (Option.mem_toList.1 h)
    exact Value.isFree_text content
  show Changes kept kept dom (Page.metadata dom).2 ∧
    Params.IsFree kept (Page.metadata dom).2 (Page.metadata dom).1
  rw [Page.metadata]
  dsimp only
  split
  · refine ⟨.refl, fun entry he => ?_⟩
    rcases List.mem_append.1 he with he | he
    · exact htold he
    · exact htold he
  · next source _ =>
    refine ⟨.single (.createElement dom _), fun entry he => ?_⟩
    rcases List.mem_append.1 he with he | he
    · rcases List.mem_append.1 he with he | he
      · exact htold he
      · exact htold he
    · rw [List.mem_singleton.1 he]
      exact Value.isFree_element.2
        ⟨hg.fresh_notMem, (grows_createElement dom _).has_iff.2 (.inr List.mem_cons_self)⟩

namespace Strategy

theorem findMetadata_careful {host : Host} (hhost : host.KnowsCarefully kept) :
    CellFinder.Careful kept (findMetadata host) := by
  intro dom scope params hg hp
  obtain ⟨hchanges, hknown⟩ := hhost dom scope hg
  have hext := hchanges.extends hg.wellFormed
  have hg1 := hg.of_changes hchanges subset_rfl
  have hcells := findCells_careful host.sanitize _ scope params hg1 (hp.of_has hext.has)
  rw [findMetadata]
  dsimp only
  cases hf : findCells host.sanitize (host.metadata dom).2 scope params with
  | mk found mid =>
    rw [hf] at hcells
    cases found with
    | error fault => exact ⟨hchanges.trans hcells.changes, fun value h => by cases h⟩
    | ok told =>
      have hg2 := hg1.of_changes hcells.changes subset_rfl
      have hknown2 := hknown.of_has (hcells.changes.extends hg1.wellFormed).has
      have hfinish {fields : List (String × Value)} (hfree : Params.IsFree kept mid fields) :
          Outcome.Careful kept dom (Value.IsFree kept)
            ((finishFields mid fields).1.map Value.config, (finishFields mid fields).2) := by
        have hdone := finishFields_careful hg2 hfree
        refine ⟨(hchanges.trans hcells.changes).trans hdone.changes, fun value h => ?_⟩
        obtain ⟨fields, hok, rfl⟩ := Cell.exists_of_map_eq_ok h
        exact Value.isFree_config.2 (hdone.free fields hok)
      have htold := hcells.free told rfl
      cases told with
      | config fields => exact hfinish (hknown2.override (Value.isFree_config.1 htold))
      | null | bool _ | integer _ | decimal _ | text _ | element _ | list _ =>
        exact hfinish hknown2

/-- Every strategy touches nothing that is guarded. -/
theorem finder_careful {host : Host} (hhost : host.KnowsCarefully kept) (strategy : Strategy) :
    CellFinder.Careful kept (finder host strategy) := by
  cases strategy with
  | block => exact findCells_careful host.sanitize
  | carousel => exact findCarousel_careful host.sanitize
  | columns => exact findColumns_careful host.sanitize
  | metadata => exact findMetadata_careful hhost

end Strategy

end PageBlocks
