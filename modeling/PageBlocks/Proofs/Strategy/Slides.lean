import PageBlocks.Proofs.Block.Table
import PageBlocks.Proofs.Dom.Ancestor
import PageBlocks.Proofs.Dom.Shed
/-!
# Carousels as tables

The row of an image tells the image and what else is directly below its slide.  If a slide holds several
images, one that is directly below it is told by the rows of the others as well.  As the rows of the
table are filled one after another, such an image ends up in the last row that tells it, which may be
that of a later image; then nothing is left in the first cell of its own row.

## Main results

* `Strategy.mem_beside_iff` — what the row of an image tells beside it.
* `Strategy.keepCells_imageCells` — what is left in the row of an image.
* `Strategy.findCarousel_keeps` — the table has one row for each image, which holds the image unless the
  row of a later one tells it.
-/

namespace PageBlocks

open Dom

namespace Strategy

variable {dom : Dom} {around element image x : NodeId} {images : List NodeId}

/-! ## Images in order -/

theorem sublist_namedBelow (dom : Dom) (scope : NodeId) (name : String) :
    (namedBelow dom scope name).Sublist (dom.children scope).ids := by
  have hids (nodes : List Node) : (nodes.filterMap fun node =>
      if node.name = name then some node.id else none).Sublist (nodes.map Node.id) := by
    induction nodes with
    | nil => exact .slnil
    | cons node nodes ih =>
      rw [List.filterMap_cons, List.map_cons]
      split
      · next hnone => exact ih.cons _
      · next id hsome =>
        have hid : node.id = id := by
          split at hsome
          · exact Option.some.inj hsome
          · cases hsome
        exact hid ▸ ih.cons_cons _
  rw [namedBelow, children]
  cases dom.find? scope with
  | none => exact List.nil_sublist _
  | some node =>
    refine (hids node.elements).trans ?_
    show (node.elements.map Node.id).Sublist node.children.ids
    rw [← Forest.map_id_nodes]
    exact List.filter_sublist.map _

/-- The innermost node around several nodes of a name below an element. -/
theorem exists_innermost_namedBelow (wf : dom.WellFormed) {name : String}
    (hne : namedBelow dom element name ≠ []) :
    ∃ around, dom.commonAncestor? (namedBelow dom element name) = some around ∧
      dom.Innermost (namedBelow dom element name) around := by
  obtain ⟨first, hfirst⟩ := List.exists_mem_of_ne_nil _ hne
  obtain ⟨node, hnode⟩ := has_iff_find?.1 (wf.mem_namedBelow_iff.1 hfirst).1.has_left
  have hmem := Forest.mem_nodes_of_find? hnode
  rw [Forest.nodes_eq_flatMap] at hmem
  obtain ⟨top, htop, hin⟩ := List.mem_flatMap.1 hmem
  have hids : node.ids.Sublist top.ids := by
    rcases List.mem_cons.1 hin with rfl | hin
    · exact List.Sublist.refl _
    · rw [Node.ids_eq top]
      exact (Forest.ids_sublist hin).cons _
  refine wf.exists_innermost htop hne ((sublist_namedBelow dom element name).trans ?_)
  rw [children, hnode]
  rw [Node.ids_eq] at hids
  exact (List.sublist_cons_self ..).trans hids

/-! ## The rows of images -/

/-- What the row of an image tells beside the image. -/
def beside (dom : Dom) (slides : List NodeId) (image : NodeId) : List NodeId :=
  ((slides.find? fun slide => dom.contains slide image).map fun slide =>
    (elementsBelow dom slide).filter fun child => !dom.contains child image).getD []

theorem slideRow_eq (dom : Dom) (slides : List NodeId) (image : NodeId) :
    slideRow dom slides image =
      .list [.element image, .list ((beside dom slides image).map Value.element)] := by
  rw [slideRow, beside]
  cases slides.find? fun slide => dom.contains slide image <;> rfl

/-- The row of an image tells another node beside it, which is directly below the slide of the image and
does not hold the image. -/
def TellsBeside (dom : Dom) (around image other : NodeId) : Prop :=
  ∃ slide, dom.Holds around slide ∧ dom.contains slide image = true ∧ dom.Holds slide other ∧
    dom.contains other image = false

theorem mem_beside_iff (wf : dom.WellFormed) (himage : ∃ tag, dom.tag? image = some tag) :
    x ∈ beside dom (elementsBelow dom around) image ↔
      TellsBeside dom around image x ∧ ∃ tag, dom.tag? x = some tag := by
  obtain ⟨tag, htag⟩ := himage
  rw [beside]
  constructor
  · intro hx
    cases hfind : (elementsBelow dom around).find? fun slide => dom.contains slide image with
    | none =>
      rw [hfind] at hx
      cases hx
    | some slide =>
      rw [hfind] at hx
      obtain ⟨hbelow, hnot⟩ := List.mem_filter.1 hx
      obtain ⟨hother, helement⟩ := (mem_elementsBelow_iff wf).1 hbelow
      have hslide := ((mem_elementsBelow_iff wf).1 (List.mem_of_find?_eq_some hfind)).1
      have hcontains := List.find?_some hfind
      exact ⟨⟨slide, hslide, hcontains, hother, by simpa using hnot⟩, helement⟩
  · rintro ⟨⟨slide, hslide, hcontains, hother, hnot⟩, helement⟩
    have hbelow : dom.IsBelow around image := by
      rcases (wf.contains_iff (has_of_tag? htag)).1 hcontains with rfl | hin
      · exact hslide.isBelow
      · exact wf.isBelow_trans hslide.isBelow hin
    obtain ⟨single, hsingle, hunique⟩ := wf.exists_slide hbelow ⟨tag, htag⟩
    have hslides : slide ∈ elementsBelow dom around :=
      (mem_elementsBelow_iff wf).2 ⟨hslide, hother.isBelow.exists_tag?⟩
    have hsome : ((elementsBelow dom around).find? fun slide => dom.contains slide image).isSome :=
      List.find?_isSome.2 ⟨slide, hslides, hcontains⟩
    obtain ⟨found, hfound⟩ := Option.isSome_iff_exists.1 hsome
    -- The slide that is found is the only one that holds the image.
    have hfits := List.find?_some hfound
    have heq : found = slide :=
      (hunique found ⟨List.mem_of_find?_eq_some hfound, hfits⟩).trans
        (hunique slide ⟨hslides, hcontains⟩).symm
    rw [hfound, heq]
    refine List.mem_filter.2 ⟨(mem_elementsBelow_iff wf).2 ⟨hother, helement⟩, ?_⟩
    rw [hnot]
    rfl

/-- The cells in the row of an image. -/
def imageCells (dom : Dom) (around image : NodeId) : List Value :=
  [.element image, .list ((beside dom (elementsBelow dom around) image).map Value.element)]

theorem imageRows_eq (h : dom.commonAncestor? images = some around) :
    imageRows dom images = images.map fun image => .list (imageCells dom around image) := by
  rw [imageRows, h]
  exact List.map_congr_left fun image _ => slideRow_eq ..

theorem mentions_imageCells (dom : Dom) (around image : NodeId) :
    Block.mentions (imageCells dom around image) =
      image :: beside dom (elementsBelow dom around) image := by
  rw [Block.mentions, imageCells, List.flatMap_cons, List.flatMap_singleton, Value.elements_list_map]
  rfl

theorem isElements_imageCells :
    ∀ value ∈ imageCells dom around image, value.IsElements := by
  intro value hvalue
  rcases List.mem_cons.1 hvalue with rfl | hvalue
  · exact Value.isElements_element image
  · rw [List.mem_singleton.1 hvalue]
    exact Value.isElements_list_map _

/-- A row holds the cells of an image: the image is in the first one, unless a later image tells it beside
itself, and nothing else is in there. -/
def IsImageRow (dom after : Dom) (around image : NodeId) (later : List NodeId) (row : NodeId) : Prop :=
  ∃ held others, Block.KeepsRow after row [held, others] ∧ (held = [image] ∨ held = []) ∧
    (held = [image] ↔ ∀ other ∈ later, ¬TellsBeside dom around other image)

/-- The row of an image does not tell the image beside itself. -/
theorem exists_keepCells_imageCells (wf : dom.WellFormed) (himage : ∃ tag, dom.tag? image = some tag) :
    ∃ others, Block.keepCells (imageCells dom around image) = [[image], others] := by
  have hself : image ∉ beside dom (elementsBelow dom around) image := by
    rw [mem_beside_iff wf himage]
    rintro ⟨⟨slide, -, -, -, hcontains⟩, -⟩
    rw [contains, decide_eq_true rfl, Bool.true_or] at hcontains
    cases hcontains
  have hfirst : [image].dedup.filter (fun k => decide (k ∉ Block.mentions
      [.list ((beside dom (elementsBelow dom around) image).map Value.element)])) = [image] := by
    rw [List.dedup_eq_self.2 (List.nodup_singleton image)]
    refine filter_notMem_eq_self (List.forall_mem_singleton.2 ?_)
    rwa [Block.mentions, List.flatMap_singleton, Value.elements_list_map]
  exact ⟨_, congrArg (List.cons · _) hfirst⟩

/-- What is left in the row of an image when later rows have taken what they tell. -/
theorem keepCells_imageCells (wf : dom.WellFormed) {later : List NodeId}
    (himages : ∀ other ∈ image :: later, ∃ tag, dom.tag? other = some tag) (hnot : image ∉ later) :
    ∃ held others, (Block.keepCells (imageCells dom around image)).map (List.filter fun k =>
        decide (k ∉ (later.map (imageCells dom around)).flatMap Block.mentions)) = [held, others] ∧
      (held = [image] ∨ held = []) ∧
      (held = [image] ↔ ∀ other ∈ later, ¬TellsBeside dom around other image) := by
  have himage := himages image List.mem_cons_self
  have htaken : image ∈ (later.map (imageCells dom around)).flatMap Block.mentions ↔
      ∃ other ∈ later, TellsBeside dom around other image := by
    rw [List.flatMap_map, List.mem_flatMap]
    refine exists_congr fun other => and_congr_right fun hother => ?_
    have hne : image ≠ other := fun heq => hnot (heq ▸ hother)
    rw [mentions_imageCells, List.mem_cons, or_iff_right hne,
      mem_beside_iff wf (himages other (List.mem_cons_of_mem _ hother))]
    exact and_iff_left himage
  obtain ⟨others, hkept⟩ := exists_keepCells_imageCells wf himage
  rw [hkept]
  generalize (later.map (imageCells dom around)).flatMap Block.mentions = taken at htaken
  refine ⟨[image].filter fun k => decide (k ∉ taken), _, rfl, ?_⟩
  by_cases hin : image ∈ taken
  · obtain ⟨other, hother, htells⟩ := htaken.1 hin
    have hnone : ([image].filter fun k => decide (k ∉ taken)) = [] := by simp [hin]
    rw [hnone]
    refine ⟨.inr rfl, fun heq => absurd heq.symm (List.cons_ne_nil image []), fun hall => ?_⟩
    exact absurd htells (hall other hother)
  · rw [filter_notMem_eq_self (List.forall_mem_singleton.2 hin)]
    exact ⟨.inl rfl, fun _ other hother htells => hin (htaken.2 ⟨other, hother, htells⟩), fun _ => rfl⟩

/-! ## The table -/

/-- Without cells that are told there are none. -/
theorem findCells_of_missing (sanitize : Sanitize.Sanitizer) {params : Params}
    (h : params.cells.isPresent = false) :
    findCells sanitize dom element params = (.ok (.list []), dom) := by
  have hsource : rowSource dom element params = .list [] := by
    rw [rowSource]
    split
    · next content hcells =>
      rw [hcells] at h
      have hempty : content = "" := by simpa [Value.isPresent] using h
      rw [hempty]
      rfl
    · rw [h]
      rfl
  rw [findCells, hsource]
  rfl

/-- Without cells that are told the rows of a carousel are those of its images. -/
theorem findCarousel_of_missing (sanitize : Sanitize.Sanitizer) {params : Params}
    (h : params.cells.isPresent = false) (htwo : 2 ≤ (namedBelow dom element "img").length) :
    findCarousel sanitize dom element params =
      (.ok (.list (imageRows dom (namedBelow dom element "img"))), dom) := by
  rw [findCarousel, findCells_of_missing sanitize h]
  dsimp only
  split
  · next image himages =>
    rw [himages] at htwo
    exact absurd htwo (Nat.not_succ_le_self 1)
  · rfl

/-- The table of the rows of images. -/
theorem createTable_imageRows (wf : dom.WellFormed) (hne : images ≠ []) (hnodup : images.Nodup)
    (himages : ∀ image ∈ images, ∃ tag, dom.tag? image = some tag)
    (haround : dom.commonAncestor? images = some around) (name : String) (variants : List String) :
    ∃ table head body after,
      Block.createTable dom name variants (.list (imageRows dom images)) = (.ok (some table), after) ∧
      after.WellFormed ∧ Block.IsPlain after "table" table (head :: body) ∧
      body.length = images.length ∧ ∀ k image, images[k]? = some image →
        ∃ row, body[k]? = some row ∧ IsImageRow dom after around image (images.drop (k + 1)) row := by
  have hgrid : Block.grid (.list (imageRows dom images)) = images.map (imageCells dom around) := by
    rw [imageRows_eq haround, Block.grid, List.map_map]
    rfl
  have helements : ∀ row ∈ images.map (imageCells dom around), ∀ value ∈ row, value.IsElements := by
    intro row hrow
    obtain ⟨image, -, rfl⟩ := List.mem_map.1 hrow
    exact isElements_imageCells
  have hhas : ∀ k ∈ (images.map (imageCells dom around)).flatMap Block.mentions, dom.Has k := by
    intro k hk
    rw [List.flatMap_map] at hk
    obtain ⟨image, himage, hk⟩ := List.mem_flatMap.1 hk
    obtain ⟨tag, htag⟩ := himages image himage
    rw [mentions_imageCells] at hk
    rcases List.mem_cons.1 hk with rfl | hk
    · exact has_of_tag? htag
    · obtain ⟨-, other, hother⟩ := (mem_beside_iff wf ⟨tag, htag⟩).1 hk
      exact has_of_tag? hother
  rw [← hgrid] at helements hhas
  obtain ⟨table, head, body, after, htable, wf', -, hrow, hkeeps⟩ := Block.createTable_keeps wf name
    variants (hgrid ▸ mt List.map_eq_nil_iff.1 hne) helements hhas
  rw [hgrid] at hkeeps
  obtain ⟨hlength, hrows⟩ := Block.forall₂_keepRows hkeeps
  rw [List.length_map] at hlength
  refine ⟨table, head, body, after, htable, wf', hrow, hlength, fun k image hk => ?_⟩
  obtain ⟨hlt, rfl⟩ := List.getElem?_eq_some_iff.1 hk
  obtain ⟨row, hin, hkept⟩ := hrows k (imageCells dom around images[k]) (by rw [List.getElem?_map, hk]; rfl)
  -- The image and the later ones are the rest of the images.
  have hrest : (images[k] :: images.drop (k + 1)).Sublist images := by
    rw [← List.drop_eq_getElem_cons hlt]
    exact List.drop_sublist k images
  obtain ⟨held, others, heq, hheld⟩ := keepCells_imageCells wf
    (fun other hother => himages other (hrest.subset hother))
    (List.nodup_cons.1 (hnodup.sublist hrest)).1
  rw [← List.map_drop, heq] at hkept
  exact ⟨row, hin, held, others, hkept, hheld⟩

/-- The images below an element are in the rows of the carousel that is made from it, one row for each
and in the order of the page.  The first cell of a row holds the image, unless the row of a later image
tells it as well. -/
theorem findCarousel_keeps (wf : dom.WellFormed) (sanitize : Sanitize.Sanitizer) {params : Params}
    (hparams : params.cells.isPresent = false)
    (htwo : 2 ≤ (namedBelow dom element "img").length) (name : String) (variants : List String) :
    ∃ around rows table head body after,
      dom.commonAncestor? (namedBelow dom element "img") = some around ∧
      dom.Innermost (namedBelow dom element "img") around ∧
      findCarousel sanitize dom element params = (.ok rows, dom) ∧
      Block.createTable dom name variants rows = (.ok (some table), after) ∧
      after.WellFormed ∧ Block.IsPlain after "table" table (head :: body) ∧
      body.length = (namedBelow dom element "img").length ∧
      ∀ k image, (namedBelow dom element "img")[k]? = some image → ∃ row, body[k]? = some row ∧
        IsImageRow dom after around image ((namedBelow dom element "img").drop (k + 1)) row := by
  have hne : namedBelow dom element "img" ≠ [] :=
    List.ne_nil_of_length_pos (Nat.lt_of_succ_lt htwo)
  have hnodup : (namedBelow dom element "img").Nodup :=
    (wf.nodup_children element).sublist (sublist_namedBelow dom element "img")
  have himages : ∀ image ∈ namedBelow dom element "img", ∃ tag, dom.tag? image = some tag := by
    intro image himage
    obtain ⟨-, tag, htag, -⟩ := wf.mem_namedBelow_iff.1 himage
    exact ⟨tag, htag⟩
  obtain ⟨around, haround, hinnermost⟩ := exists_innermost_namedBelow wf hne
  obtain ⟨table, head, body, after, htable⟩ :=
    createTable_imageRows wf hne hnodup himages haround name variants
  exact ⟨around, _, table, head, body, after, haround, hinnermost,
    findCarousel_of_missing sanitize hparams htwo, htable⟩

/-- A division with two images in a paragraph, and an image in another one. -/
def crowdedPage : Dom :=
  ⟨.element 0 documentTag (.element 1 ⟨"div", .unspecified, []⟩
    (.element 2 ⟨"p", .unspecified, []⟩
      (.element 3 ⟨"img", .unspecified, []⟩ .nil (.element 4 ⟨"img", .unspecified, []⟩ .nil .nil))
      (.element 5 ⟨"p", .unspecified, []⟩ (.element 6 ⟨"img", .unspecified, []⟩ .nil .nil) .nil))
    .nil) .nil, 7, false⟩

theorem wellFormed_crowdedPage : crowdedPage.WellFormed := by decide

/-- There is one row for each of the three images. -/
theorem findCarousel_keeps_crowded :
    crowdedPage.WellFormed ∧ (Params.cells []).isPresent = false ∧
      2 ≤ (namedBelow crowdedPage 1 "img").length ∧
      ∃ around rows table head body after,
        crowdedPage.commonAncestor? (namedBelow crowdedPage 1 "img") = some around ∧
        crowdedPage.Innermost (namedBelow crowdedPage 1 "img") around ∧
        findCarousel .ok crowdedPage 1 [] = (.ok rows, crowdedPage) ∧
        Block.createTable crowdedPage "Carousel" [] rows = (.ok (some table), after) ∧
        after.WellFormed ∧ Block.IsPlain after "table" table (head :: body) ∧
        body.length = (namedBelow crowdedPage 1 "img").length ∧
        ∀ k image, (namedBelow crowdedPage 1 "img")[k]? = some image → ∃ row, body[k]? = some row ∧
          IsImageRow crowdedPage after around image
            ((namedBelow crowdedPage 1 "img").drop (k + 1)) row := by
  have htwo : 2 ≤ (namedBelow crowdedPage 1 "img").length := by decide
  exact ⟨wellFormed_crowdedPage, rfl, htwo,
    findCarousel_keeps wellFormed_crowdedPage .ok rfl htwo "Carousel" []⟩

/-- The carousel of that page. -/
def crowdedTable : Outcome BlockFault (Option NodeId) :=
  Block.createTable crowdedPage "Carousel" [] (.list (imageRows crowdedPage [3, 4, 6]))

/-- The row of the second image takes the first image out of its own. -/
theorem findCarousel_loses_image :
    ¬∀ (dom : Dom) (element : NodeId) (params : Params), dom.WellFormed →
      params.cells.isPresent = false → 2 ≤ (namedBelow dom element "img").length →
      ∃ rows table head body after, findCarousel .ok dom element params = (.ok rows, dom) ∧
        Block.createTable dom "Carousel" [] rows = (.ok (some table), after) ∧
        after.kids table = head :: body ∧ body.length = (namedBelow dom element "img").length ∧
        ∀ (k : Nat) (image : NodeId), (namedBelow dom element "img")[k]? = some image →
          ∃ row first cells, body[k]? = some row ∧ after.kids row = first :: cells ∧
            after.IsBelow first image := by
  intro h
  obtain ⟨rows, table, head, body, after, hfound, htable, hbody, -, hheld⟩ :=
    h crowdedPage 1 [] wellFormed_crowdedPage rfl (by decide)
  obtain ⟨row, first, cells, hrow, hcells, hbelow⟩ := hheld 0 3 rfl
  have hrows : (findCarousel .ok crowdedPage 1 []).1 =
      .ok (.list (imageRows crowdedPage [3, 4, 6])) := rfl
  rw [hfound] at hrows
  cases hrows
  have htop : crowdedTable.1 = .ok (some 7) := rfl
  have hkids : crowdedTable.2.kids 7 = [8, 11, 14, 17] := by decide +kernel
  have hfirst : crowdedTable.2.kids 11 = [12, 13] := by decide +kernel
  have hempty : ¬crowdedTable.2.IsBelow 12 3 := by decide +kernel
  rw [crowdedTable, htable] at htop hkids hfirst hempty
  cases htop
  cases hbody.symm.trans hkids
  cases hrow
  cases hcells.symm.trans hfirst
  exact hempty hbelow

end Strategy

end PageBlocks
