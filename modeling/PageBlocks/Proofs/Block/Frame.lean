import PageBlocks.Block.Host
import PageBlocks.Proofs.Strategy.Frame
/-!
# What the making of tables does to the page

A table is built from the outside in: each new element is filled before it is put into the one
around it, and what it is filled with is new or free.  So nothing guarded moves, and nothing is ever
put into itself.

## Main results

* `Block.fill_frame` — values may be put into an element that nothing holds.
* `Block.createTable_careful` — making a table touches nothing that is guarded.
-/

namespace PageBlocks

open Dom

namespace Block

variable {kept : Set NodeId} {scope p : NodeId} {dom : Dom}

/-! ## Cells -/

mutual

/-- Values may be put into an element that nothing holds. -/
theorem fill_frame : ∀ {dom : Dom} (value : Value), Guarded (insert p kept) scope dom →
    Loose dom p → p ∉ kept → value.IsFree (insert p kept) dom →
    Changes (insert p kept) kept dom (fill p value dom)
  | _, .null, _, _, _, _ => .refl
  | _, .list items, hg, hp, hnot, hfree =>
    fillItems_frame items hg hp hnot (Value.isFree_list.1 hfree)
  | _, .element id, hg, hp, hnot, hfree => by
    have hid := Value.isFree_element.1 hfree
    have hne : p ≠ id := fun h => hid.1 (h ▸ Set.mem_insert _ _)
    exact .single (append_loose hg.wellFormed hp hnot hid hne)
  | _, .bool _, hg, hp, hnot, _ => appendText_loose hg.wellFormed hp hnot hg.has _
  | _, .integer _, hg, hp, hnot, _ => appendText_loose hg.wellFormed hp hnot hg.has _
  | _, .decimal _, hg, hp, hnot, _ => appendText_loose hg.wellFormed hp hnot hg.has _
  | _, .text _, hg, hp, hnot, _ => appendText_loose hg.wellFormed hp hnot hg.has _
  | _, .config _, hg, hp, hnot, _ => appendText_loose hg.wellFormed hp hnot hg.has _

theorem fillItems_frame : ∀ {dom : Dom} (items : List Value), Guarded (insert p kept) scope dom →
    Loose dom p → p ∉ kept → (∀ item ∈ items, item.IsFree (insert p kept) dom) →
    Changes (insert p kept) kept dom (fillItems p items dom)
  | _, [], _, _, _, _ => .refl
  | _, item :: items, hg, hp, hnot, hfree => by
    have hfirst := fill_frame item hg hp hnot (hfree item List.mem_cons_self)
    have hext := hfirst.extends hg.wellFormed
    exact hfirst.trans (fillItems_frame items (hg.of_changes hfirst subset_rfl)
      (hp.of_changes hg.wellFormed hfirst (Set.mem_insert _ _)) hnot
      fun other h => (hfree other (List.mem_cons_of_mem _ h)).of_has hext.has)

end

/-! ## Elements inside elements -/

/-- A new element may be filled, and then be put into one that nothing holds: `build` is what is
done to the page between the two. -/
theorem nested_frame (build : Dom → Dom) {tag : Tag} (hg : Guarded (insert p kept) scope dom)
    (hp : Loose dom p) (hnot : p ∉ kept)
    (hbuild : Changes (insert dom.fresh (insert p kept)) (insert p kept)
      (dom.createElement tag).2 (build (dom.createElement tag).2)) :
    Changes (insert p kept) kept dom ((build (dom.createElement tag).2).append p dom.fresh) := by
  have wf := hg.wellFormed
  have hgrows := grows_createElement dom tag
  have hcreate : dom.Makes (dom.createElement tag).2 := .single (.createElement dom tag)
  have wf1 := hcreate.wellFormed wf
  have hp1 := hp.of_changes wf hcreate (Set.mem_univ p)
  have hp2 := hp1.of_changes wf1 hbuild (.inr (Set.mem_insert _ _))
  have hnew : dom.Has p := has_of_tag? hp.element.choose_spec
  have hne : p ≠ dom.fresh := fun h => wf.not_has_fresh (h ▸ hnew)
  have hfree : Free (insert p kept) (build (dom.createElement tag).2) dom.fresh :=
    ⟨hg.fresh_notMem,
      (hbuild.extends wf1).has _ (hgrows.has_iff.2 (.inr List.mem_cons_self))⟩
  have hinner : Changes (insert p kept) kept (dom.createElement tag).2
      (build (dom.createElement tag).2) :=
    hbuild.mono (Set.subset_insert _ _) (Set.subset_insert _ _)
  exact (hcreate.changes.trans hinner).tail
    (append_loose (hbuild.wellFormed wf1) hp2 hnot hfree hne)

/-- What holds of a page when a new element is guarded beside all that is guarded already. -/
theorem guarded_createElement {guarded : Set NodeId} (tag : Tag)
    (hg : Guarded guarded scope dom) :
    Guarded (insert dom.fresh guarded) scope (dom.createElement tag).2 ∧
      Loose (dom.createElement tag).2 dom.fresh := by
  have hcreate : dom.Makes (dom.createElement tag).2 := .single (.createElement dom tag)
  have hloose := loose_createElement hg.wellFormed tag
  exact ⟨(hg.of_makes hcreate).insert_loose hloose, hloose⟩

theorem isFree_createElement {value : Value} (tag : Tag) (wf : dom.WellFormed)
    (h : value.IsFree kept dom) :
    value.IsFree (insert dom.fresh kept) (dom.createElement tag).2 :=
  (h.insert_fresh wf).of_has fun _ hy => (grows_createElement dom tag).has_iff.2 (.inl hy)

theorem addCell_frame {value : Value} (hg : Guarded (insert p kept) scope dom) (hp : Loose dom p)
    (hnot : p ∉ kept) (hfree : value.IsFree (insert p kept) dom) :
    Changes (insert p kept) kept dom (addCell p dom value) := by
  obtain ⟨hg1, hloose⟩ := guarded_createElement (plainTag "td") hg
  have hfill := fill_frame value hg1 hloose hg.fresh_notMem
    (isFree_createElement (plainTag "td") hg.wellFormed hfree)
  exact nested_frame (fill dom.fresh value) hg hp hnot hfill

theorem addCells_frame {values : List Value} (hg : Guarded (insert p kept) scope dom)
    (hp : Loose dom p) (hnot : p ∉ kept)
    (hfree : ∀ value ∈ values, value.IsFree (insert p kept) dom) :
    Changes (insert p kept) kept dom (values.foldl (addCell p) dom) := by
  induction values generalizing dom with
  | nil => exact .refl
  | cons value values ih =>
    have hfirst := addCell_frame hg hp hnot (hfree value List.mem_cons_self)
    have hext := hfirst.extends hg.wellFormed
    exact hfirst.trans (ih (hg.of_changes hfirst subset_rfl)
      (hp.of_changes hg.wellFormed hfirst (Set.mem_insert _ _))
      fun other h => (hfree other (List.mem_cons_of_mem _ h)).of_has hext.has)

/-! ## Rows -/

theorem addRow_frame {values : List Value} (hg : Guarded (insert p kept) scope dom)
    (hp : Loose dom p) (hnot : p ∉ kept)
    (hfree : ∀ value ∈ values, value.IsFree (insert p kept) dom) :
    Changes (insert p kept) kept dom (addRow p dom values) := by
  obtain ⟨hg1, hloose⟩ := guarded_createElement (plainTag "tr") hg
  have hcells := addCells_frame hg1 hloose hg.fresh_notMem fun value h =>
    isFree_createElement (plainTag "tr") hg.wellFormed (hfree value h)
  exact nested_frame (fun dom' => values.foldl (addCell dom.fresh) dom') hg hp hnot hcells

theorem addRows_frame {rows : List (List Value)} (hg : Guarded (insert p kept) scope dom)
    (hp : Loose dom p) (hnot : p ∉ kept)
    (hfree : ∀ row ∈ rows, ∀ value ∈ row, value.IsFree (insert p kept) dom) :
    Changes (insert p kept) kept dom (rows.foldl (addRow p) dom) := by
  induction rows generalizing dom with
  | nil => exact .refl
  | cons row rows ih =>
    have hfirst := addRow_frame hg hp hnot (hfree row List.mem_cons_self)
    have hext := hfirst.extends hg.wellFormed
    exact hfirst.trans (ih (hg.of_changes hfirst subset_rfl)
      (hp.of_changes hg.wellFormed hfirst (Set.mem_insert _ _))
      fun other h value hv => (hfree other (List.mem_cons_of_mem _ h) value hv).of_has hext.has)

theorem addHeader_frame (hg : Guarded (insert p kept) scope dom) (hp : Loose dom p)
    (hnot : p ∉ kept) (text : String) (width : Nat) :
    Changes (insert p kept) kept dom (addHeader p dom text width) := by
  obtain ⟨hg1, hloose1⟩ := guarded_createElement (plainTag "tr") hg
  obtain ⟨hg2, hloose2⟩ := guarded_createElement (plainTag "th") hg1
  have htext := appendText_loose hg2.wellFormed hloose2 hg1.fresh_notMem hg2.has text
  have hloose3 := hloose2.of_changes hg2.wellFormed htext (Set.mem_insert _ _)
  obtain ⟨tag, htag⟩ := hloose3.element
  refine nested_frame (fun dom1 => ((fun dom2 : Dom =>
    let dom3 := dom2.appendText dom1.fresh text
    if 1 < width then dom3.setAttribute dom1.fresh "colspan" (toString width) else dom3)
      (dom1.createElement (plainTag "th")).2).append dom.fresh dom1.fresh) hg hp hnot ?_
  refine nested_frame (fun dom2 : Dom =>
    let dom3 := dom2.appendText (dom.createElement (plainTag "tr")).2.fresh text
    if 1 < width then
      dom3.setAttribute (dom.createElement (plainTag "tr")).2.fresh "colspan" (toString width)
    else dom3) hg1 hloose1 hg.fresh_notMem ?_
  dsimp only
  split
  · exact htext.tail (.setAttribute hg1.fresh_notMem htag _ _)
  · exact htext

/-! ## Tables -/

theorem rowsOf?_free {cells : Value} {rows : List (List Value)} (hg : Guarded kept scope dom)
    (hcells : cells.IsFree kept dom) (h : rowsOf? dom cells = some rows) :
    ∀ row ∈ rows, ∀ value ∈ row, value.IsFree kept dom := by
  intro row hrow value hvalue
  cases cells with
  | config fields =>
    cases h
    obtain ⟨field, hfield, rfl⟩ := List.mem_map.1 hrow
    rcases List.mem_cons.1 hvalue with rfl | hvalue
    · exact Value.isFree_text _
    · rw [List.mem_singleton.1 hvalue]
      exact Value.isFree_config.1 hcells field hfield
  | list items =>
    cases h
    obtain ⟨item, hitem, rfl⟩ := List.mem_map.1 hrow
    exact (Value.isFree_list.1 hcells item hitem).itemsOrSelf value hvalue
  | text content =>
    cases h
    obtain ⟨c, _, rfl⟩ := List.mem_map.1 hrow
    rw [List.mem_singleton.1 hvalue]
    exact Value.isFree_text _
  | element id =>
    cases h
    obtain ⟨node, hnode, rfl⟩ := List.mem_map.1 hrow
    rw [List.mem_singleton.1 hvalue]
    cases node with
    | leaf inner content => exact Value.isFree_text _
    | element inner tag children =>
      have hholds : dom.Holds id inner := by
        rw [Holds, kids_eq_topIds]
        exact Forest.id_mem_topIds hnode
      exact Value.isFree_element.2
        (hg.free_of_isBelow (Value.isFree_element.1 hcells) hholds.isBelow)
  | null | bool _ | integer _ | decimal _ => cases h

/-- The block of an operation that may make one is free. -/
def MayBeFree (kept : Set NodeId) (dom : Dom) (block : Option NodeId) : Prop :=
  ∀ id ∈ block, dom.Free kept id

/-- The table of rows that hold what is free is filled without touching anything that is guarded, and
it stays at the top. -/
theorem tableRows_frame (text : String) (columns : Nat) {rows : List (List Value)}
    (hg : Guarded kept scope dom) (hrows : ∀ row ∈ rows, ∀ value ∈ row, value.IsFree kept dom) :
    Changes (insert dom.fresh kept) kept (dom.createElement (plainTag "table")).2
      (rows.foldl (addRow dom.fresh)
        (addHeader dom.fresh (dom.createElement (plainTag "table")).2 text columns)) := by
  obtain ⟨hg1, hloose1⟩ := guarded_createElement (plainTag "table") hg
  have hheader := addHeader_frame hg1 hloose1 hg.fresh_notMem text columns
  have hext := hheader.extends hg1.wellFormed
  refine hheader.trans (addRows_frame (hg1.of_changes hheader subset_rfl)
    (hloose1.of_changes hg1.wellFormed hheader (Set.mem_insert _ _)) hg.fresh_notMem
    fun row hrow value hvalue => ?_)
  exact (isFree_createElement (plainTag "table") hg.wellFormed (hrows row hrow value hvalue)).of_has
    hext.has

/-- Making a table touches nothing that is guarded. -/
theorem createTable_careful (name : String) (variants : List String) {cells : Value}
    (hg : Guarded kept scope dom) (hcells : cells.IsFree kept dom) :
    Outcome.Careful kept dom (MayBeFree kept) (createTable dom name variants cells) := by
  have hnothing : Outcome.Careful kept dom (MayBeFree kept)
      ((.ok none, dom) : Outcome BlockFault (Option NodeId)) :=
    ⟨.refl, fun block h id hid => by cases h; cases hid⟩
  rw [createTable.eq_def]
  split
  · exact hnothing
  · split
    · exact hnothing
    · split
      · exact ⟨.refl, fun block h => by cases h⟩
      · next rows hrows =>
        have wf := hg.wellFormed
        have hcreate : dom.Makes (dom.createElement (plainTag "table")).2 :=
          .single (.createElement dom _)
        have hall := tableRows_frame (headerText name variants) (width rows) hg
          (rowsOf?_free hg hcells hrows)
        refine ⟨hcreate.changes.trans (hall.mono (Set.subset_insert _ _) subset_rfl), ?_⟩
        intro block hblock id hid
        cases hblock
        cases hid
        exact ⟨hg.fresh_notMem, (hall.extends (hcreate.wellFormed wf)).has _
          ((grows_createElement dom _).has_iff.2 (.inr List.mem_cons_self))⟩

/-- A table is a new element, at the top of the page. -/
theorem createTable_top {name : String} {variants : List String} {cells : Value} {table : NodeId}
    {after : Dom} (hg : Guarded kept scope dom) (hcells : cells.IsFree kept dom)
    (h : createTable dom name variants cells = (.ok (some table), after)) :
    ¬dom.Has table ∧ after.Has table ∧ after.parent? table = none := by
  have wf := hg.wellFormed
  rw [createTable.eq_def] at h
  split at h
  · cases h
  · split at h
    · cases h
    · split at h
      · cases h
      · next rows hrows =>
        cases h
        have hall := tableRows_frame (headerText name variants) (width rows) hg
          (rowsOf?_free hg hcells hrows)
        have wf1 := (guarded_createElement (plainTag "table") hg).1.wellFormed
        obtain ⟨⟨tag, htag⟩, hparent⟩ := loose_createElement wf (plainTag "table")
        have has := has_of_tag? htag
        exact ⟨wf.not_has_fresh, (hall.extends wf1).has _ has,
          (hall.parent?_eq wf1 (Set.mem_insert _ _) has).trans hparent⟩

end Block

end PageBlocks
