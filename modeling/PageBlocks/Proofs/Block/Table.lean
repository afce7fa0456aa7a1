import PageBlocks.Block.Table
import PageBlocks.Proofs.Cell.Elements
import PageBlocks.Proofs.Dom.Build
import PageBlocks.Proofs.Dom.Take
/-!
# What the table of a block shows

A block is made from a grid of cells: from rows of values, or from fields with their names.  Its table
has one row for the header and then one for each row of the grid, and each of these has one cell for
each value.  A value may hold others in lists, at any depth.  Text in it is put into its cell character by
character, not as markup, and elements of the page are put there themselves, with all that they hold.

The elements that a cell mentions are moved into it one after another.  One that is mentioned again, in
the same cell or in a later one, moves on, and one that was inside another one is taken out of it.
So every element stands in the cell that mentions it last, and each cell keeps what no later one
mentions.

## Main results

* `Block.builds_fill` — a value is put into a cell leaf by leaf.
* `Block.builds_addRow` — a row of the table shows a row of the grid.
* `Block.createTable_shows` — the table shows the header and the grid.
* `Block.takes_fill` — a cell gets the elements that its value mentions, each once.
* `Block.takes_addCells`, `Block.takes_addRows` — what the cells of a row and of all rows keep.
* `Block.createTable_keeps` — what the cells of a table keep.
-/

namespace PageBlocks

open Dom

namespace Value

mutual

/-- What a value holds at any depth, in order, but for lists and what is absent. -/
def leaves : Value → List Value
  | null => []
  | list items => leavesOfItems items
  | value => [value]

/-- What the items of a list hold. -/
def leavesOfItems : List Value → List Value
  | [] => []
  | item :: items => item.leaves ++ leavesOfItems items

end

mutual

/-- Elements are mentioned by the leaves of a value. -/
theorem elements_eq_flatMap_leaves : ∀ value : Value, value.elements = value.leaves.flatMap elements
  | null => rfl
  | list items => elementsOfItems_eq_flatMap_leaves items
  | bool _ | integer _ | decimal _ | text _ | element _ | config _ => by
    rw [leaves, List.flatMap_singleton]
    all_goals simp

theorem elementsOfItems_eq_flatMap_leaves :
    ∀ items : List Value, elementsOfItems items = (leavesOfItems items).flatMap elements
  | [] => rfl
  | item :: items => by
    rw [elementsOfItems, leavesOfItems, List.flatMap_append, elements_eq_flatMap_leaves item,
      elementsOfItems_eq_flatMap_leaves items]

end

theorem elementsOfItems_eq_flatMap (items : List Value) :
    elementsOfItems items = items.flatMap elements := by
  induction items with
  | nil => rfl
  | cons item items ih => rw [elementsOfItems, List.flatMap_cons, ih]

theorem flatMap_itemsOrSelf (value : Value) : value.itemsOrSelf.flatMap elements = value.elements := by
  cases value with
  | list items => exact (elementsOfItems_eq_flatMap items).symm
  | null | bool _ | integer _ | decimal _ | text _ | element _ | config _ =>
    exact List.flatMap_singleton ..

/-- Is the value text, or an element of the page? -/
def isShown : Value → Bool
  | text _ | element _ => true
  | _ => false

end Value

namespace Block

/-! ## Tables and grids -/

/-- The rows of a list, in which a single value is a row of its own, or the fields of a mapping, in which
each has its name in front of its value. -/
def grid : Value → List (List Value)
  | .list rows => rows.map Value.itemsOrSelf
  | .config fields => fields.map fun (name, value) => [.text name, value]
  | _ => []

/-- A node shows a leaf of a value: text as a text node of its own, and an element as the node that it
was on the page. -/
def Shows (look : NodeId → Option Node) : Value → Node → Prop
  | .text content, node => ∃ id, node = .leaf id (.text .plain content)
  | .element id, node => look id = some node
  | _, _ => False

/-- A node is an element, and its children are as they should be. -/
def IsElement (tag : Tag) (holds : List Node → Prop) (node : Node) : Prop :=
  ∃ id children, node = .element id tag children ∧ holds children.toList

/-- A node is a cell with the leaves of a value. -/
def IsCell (look : NodeId → Option Node) (value : Value) : Node → Prop :=
  IsElement (plainTag "td") (List.Forall₂ (Shows look) value.leaves)

/-- A node is a row with a cell for each value. -/
def IsRow (look : NodeId → Option Node) (values : List Value) : Node → Prop :=
  IsElement (plainTag "tr") (List.Forall₂ (IsCell look) values)

/-- The cell of a header that spans some columns. -/
def headerTag (columns : Nat) : Tag :=
  ⟨"th", .unspecified, if 1 < columns then [("colspan", toString columns)] else []⟩

/-- A node is a row whose only cell is a header with a text. -/
def IsHeader (text : String) (columns : Nat) : Node → Prop :=
  IsElement (plainTag "tr") fun cells => ∃ cell, cells = [cell] ∧
    IsElement (headerTag columns) (fun texts => ∃ id, texts = [.leaf id (.text .plain text)]) cell

/-- A number is that of the columns of the widest row. -/
def IsWidth (columns : Nat) (rows : List (List Value)) : Prop :=
  (∀ row ∈ rows, row.length ≤ columns) ∧ ∃ row ∈ rows, row.length = columns

/-- A node is a table with a header and then the rows of a grid. -/
def IsTable (look : NodeId → Option Node) (text : String) (rows : List (List Value)) : Node → Prop :=
  IsElement (plainTag "table") fun nodes => ∃ columns head body, nodes = head :: body ∧
    IsWidth columns rows ∧ IsHeader text columns head ∧ List.Forall₂ (IsRow look) rows body

variable {p : NodeId} {look look' : NodeId → Option Node} {value : Value} {values : List Value}
  {dom : Dom} {node : Node}

/-- The grid mentions the elements that the cells mention. -/
theorem elements_grid {cells : Value} (h : grid cells ≠ []) :
    (grid cells).flatMap (fun row => row.flatMap Value.elements) = cells.elements := by
  cases cells with
  | list rows =>
    rw [grid, List.flatMap_map, Value.elements, Value.elementsOfItems_eq_flatMap]
    simp only [Value.flatMap_itemsOrSelf]
  | config fields =>
    rw [grid, List.flatMap_map, Value.elements]
    clear h
    induction fields with
    | nil => rfl
    | cons field fields ih => simp [Value.elementsOfFields, Value.elements, ← ih]
  | null | bool _ | integer _ | decimal _ | text _ | element _ => exact absurd rfl h

/-! ## Cells -/

theorem Shows.congr (hlook : ∀ k ∈ value.elements, look k = look' k) (h : Shows look value node) :
    Shows look' value node := by
  cases value with
  | element id => exact (hlook id List.mem_cons_self).symm.trans h
  | text content => exact h
  | null | bool _ | integer _ | decimal _ | list _ | config _ => exact h

theorem IsElement.imp {tag : Tag} {holds holds' : List Node → Prop} (h : IsElement tag holds node)
    (himp : ∀ nodes, holds nodes → holds' nodes) : IsElement tag holds' node := by
  obtain ⟨id, children, heq, hholds⟩ := h
  exact ⟨id, children, heq, himp _ hholds⟩

theorem IsCell.congr (hlook : ∀ k ∈ value.elements, look k = look' k) (h : IsCell look value node) :
    IsCell look' value node := by
  rw [Value.elements_eq_flatMap_leaves] at hlook
  refine h.imp fun nodes hnodes => forall₂_of_mem hnodes fun leaf hleaf child hchild => ?_
  exact hchild.congr fun k hk => hlook k (List.mem_flatMap.2 ⟨leaf, hleaf, hk⟩)

theorem IsRow.congr (hlook : ∀ k ∈ values.flatMap Value.elements, look k = look' k)
    (h : IsRow look values node) : IsRow look' values node := by
  refine h.imp fun nodes hnodes => forall₂_of_mem hnodes fun value hvalue child hchild => ?_
  exact hchild.congr fun k hk => hlook k (List.mem_flatMap.2 ⟨value, hvalue, hk⟩)

mutual

/-- A value is put into an element leaf by leaf. -/
theorem fill_eq_foldl (p : NodeId) : ∀ (value : Value) (dom : Dom),
    fill p value dom = value.leaves.foldl (fun dom leaf => fill p leaf dom) dom
  | .null, _ => rfl
  | .list items, dom => fillItems_eq_foldl p items dom
  | .bool _, _ | .integer _, _ | .decimal _, _ | .text _, _ | .element _, _ | .config _, _ => rfl

theorem fillItems_eq_foldl (p : NodeId) : ∀ (items : List Value) (dom : Dom),
    fillItems p items dom = (Value.leavesOfItems items).foldl (fun dom leaf => fill p leaf dom) dom
  | [], _ => rfl
  | item :: items, dom => by
    rw [fillItems, Value.leavesOfItems, List.foldl_append, fillItems_eq_foldl p items,
      fill_eq_foldl p item]

end

/-- A single leaf is put into an element. -/
theorem builds_leaf {leaf : Value} (hleaf : leaf.isShown = true) (h : Movable p leaf.elements dom) :
    ∃ node, Builds p leaf.elements node.toForest dom (fill p leaf dom) ∧ Shows dom.find? leaf node := by
  cases leaf with
  | text content => exact ⟨.leaf dom.fresh (.text .plain content), builds_appendText h content, _, rfl⟩
  | element id =>
    obtain ⟨node, hnode⟩ := has_iff_find?.1 (h.has id List.mem_cons_self)
    exact ⟨node, builds_append h hnode, hnode⟩
  | null | bool _ | integer _ | decimal _ | list _ | config _ => cases hleaf

theorem builds_fill (hvalue : ∀ leaf ∈ value.leaves, leaf.isShown = true)
    (h : Movable p value.elements dom) :
    ∃ new, Builds p value.elements new dom (fill p value dom) ∧
      List.Forall₂ (Shows dom.find?) value.leaves new.toList := by
  rw [Value.elements_eq_flatMap_leaves] at h ⊢
  rw [fill_eq_foldl]
  exact builds_foldl (R := Shows) (fun _ _ _ _ hlook => Shows.congr hlook)
    (fun leaf hleaf _ hm => builds_leaf (hvalue leaf hleaf) hm) h

/-- A new element is built and put into another one. -/
theorem builds_element {ids : List NodeId} {name : String} {holds : List Node → Prop} {mid : Dom}
    (h : Movable p ids dom)
    (hbuild : ∃ new, Builds dom.fresh ids new (dom.createElement (plainTag name)).2 mid ∧
      holds new.toList) :
    ∃ node, Builds p ids node.toForest dom (mid.append p dom.fresh) ∧
      IsElement (plainTag name) holds node := by
  obtain ⟨new, hbuilds, hholds⟩ := hbuild
  obtain ⟨tag, children, hfirst, hmid⟩ := hbuilds.row
  cases (h.wellFormed.find?_createElement _).symm.trans hfirst
  exact ⟨_, builds_nested h (grows_createElement dom _) List.mem_cons_self hbuilds.toSpares hmid, _, new, rfl, hholds⟩

theorem builds_addCell (hvalue : ∀ leaf ∈ value.leaves, leaf.isShown = true)
    (h : Movable p value.elements dom) :
    ∃ node, Builds p value.elements node.toForest dom (addCell p dom value) ∧
      IsCell dom.find? value node := by
  obtain ⟨node, hbuilds, hcell⟩ :=
    builds_element h (builds_fill hvalue (h.createElement (plainTag "td")))
  refine ⟨node, hbuilds, IsCell.congr (fun k hk => ?_) hcell⟩
  exact (grows_createElement dom _).find? h.wellFormed (h.has k hk)

/-! ## Rows -/

/-- A row of the table shows a row of the grid. -/
theorem builds_addRow (hvalues : ∀ value ∈ values, ∀ leaf ∈ value.leaves, leaf.isShown = true)
    (h : Movable p (values.flatMap Value.elements) dom) :
    ∃ node, Builds p (values.flatMap Value.elements) node.toForest dom (addRow p dom values) ∧
      IsRow dom.find? values node := by
  obtain ⟨node, hbuilds, hrow⟩ := builds_element h <|
    builds_foldl (R := IsCell) (fun _ _ _ _ hlook => IsCell.congr hlook)
      (fun value hvalue _ hm => builds_addCell (hvalues value hvalue) hm)
      (h.createElement (plainTag "tr"))
  refine ⟨node, hbuilds, IsRow.congr (fun k hk => ?_) hrow⟩
  exact (grows_createElement dom _).find? h.wellFormed (h.has k hk)

/-- The page with the cell of the header, before it is put into a row. -/
def headerCell (dom : Dom) (text : String) (columns : Nat) : Dom :=
  let filled := (dom.createElement (plainTag "th")).2.appendText dom.fresh text
  if 1 < columns then filled.setAttribute dom.fresh "colspan" (toString columns) else filled

theorem spares_headerCell (h : Movable p [] dom) (text : String) (columns : Nat) :
    Spares dom.fresh [] (dom.createElement (plainTag "th")).2 (headerCell dom text columns) ∧
      ∃ id, (headerCell dom text columns).find? dom.fresh =
        some (.element dom.fresh (headerTag columns) (.leaf id (.text .plain text) .nil)) := by
  have hm := h.createElement (plainTag "th")
  have htext := builds_appendText hm text
  obtain ⟨tag, children, hbefore, hafter⟩ := htext.row
  cases (h.wellFormed.find?_createElement _).symm.trans hbefore
  rw [headerCell, headerTag]
  split
  · obtain ⟨hspares, hset⟩ := spares_setAttribute htext.wellFormed hafter (htext.movable hm).loose
      "colspan" (toString columns)
    exact ⟨htext.toSpares.trans hspares, _, hset⟩
  · exact ⟨htext.toSpares, _, hafter⟩

/-- The first row of the table is the header. -/
theorem builds_addHeader (h : Movable p [] dom) (text : String) (columns : Nat) :
    ∃ node, Builds p [] node.toForest dom (addHeader p dom text columns) ∧
      IsHeader text columns node := by
  have hrow := h.createElement (plainTag "tr")
  obtain ⟨hspares, id, hcell⟩ := spares_headerCell hrow text columns
  have hbuilds := builds_nested hrow (grows_createElement _ _) List.mem_cons_self hspares hcell
  exact builds_element h ⟨_, hbuilds, _, rfl, _, _, rfl, id, rfl⟩

/-! ## Tables -/

theorem isWidth_width {rows : List (List Value)} (h : rows ≠ []) : IsWidth (width rows) rows := by
  have hmax (first : Nat) (lengths : List Nat) : first ≤ lengths.foldl max first ∧
      (∀ n ∈ lengths, n ≤ lengths.foldl max first) ∧
      (lengths.foldl max first = first ∨ lengths.foldl max first ∈ lengths) := by
    induction lengths generalizing first with
    | nil => simp
    | cons length lengths ih =>
      obtain ⟨hfirst, hrest, hcase⟩ := ih (max first length)
      rw [List.foldl_cons]
      refine ⟨by omega, ?_, ?_⟩
      · intro n hn
        rcases List.mem_cons.1 hn with rfl | hn
        · omega
        · exact hrest n hn
      · rcases hcase with hcase | hcase
        · rw [hcase, List.mem_cons]
          omega
        · exact .inr (List.mem_cons_of_mem _ hcase)
  obtain ⟨-, hle, hcase⟩ := hmax 0 (rows.map List.length)
  have hle' : ∀ row ∈ rows, row.length ≤ width rows := fun row hrow =>
    hle _ (List.mem_map_of_mem hrow)
  refine ⟨hle', ?_⟩
  rcases hcase with hzero | hin
  · obtain ⟨row, hrow⟩ := List.exists_mem_of_ne_nil rows h
    refine ⟨row, hrow, Nat.le_antisymm (hle' row hrow) ?_⟩
    show width rows ≤ _
    rw [width, hzero]
    exact Nat.zero_le _
  · obtain ⟨row, hrow, hlength⟩ := List.mem_map.1 hin
    exact ⟨row, hrow, hlength⟩

/-- A table is made of each grid that has rows. -/
theorem createTable_eq (dom : Dom) (name : String) (variants : List String) {cells : Value}
    (h : grid cells ≠ []) :
    createTable dom name variants cells = (.ok (some dom.fresh),
      (grid cells).foldl (addRow dom.fresh) (addHeader dom.fresh
        (dom.createElement (plainTag "table")).2 (headerText name variants) (width (grid cells)))) := by
  cases cells with
  | list rows =>
    cases rows with
    | nil => exact absurd rfl h
    | cons row rows => rfl
  | config fields =>
    cases fields with
    | nil => exact absurd rfl h
    | cons field fields => rfl
  | null | bool _ | integer _ | decimal _ | text _ | element _ => exact absurd rfl h

/-- The table of a block is a new element.  It shows the header, as wide as the widest row of the grid,
and then the rows of the grid, each with all of its cells; what stands in a cell is what its value holds,
in order. -/
theorem createTable_shows (wf : dom.WellFormed) (name : String) (variants : List String)
    {cells : Value} (hrows : grid cells ≠ [])
    (hshown : ∀ row ∈ grid cells, ∀ value ∈ row, ∀ leaf ∈ value.leaves, leaf.isShown = true)
    (helements : Separate cells.elements dom) :
    ∃ table node after, createTable dom name variants cells = (.ok (some table), after) ∧
      after.WellFormed ∧ ¬dom.Has table ∧ after.find? table = some node ∧
      IsTable dom.find? (headerText name variants) (grid cells) node := by
  have hgrows := grows_createElement dom (plainTag "table")
  have hempty := hgrows.find?_new wf List.mem_cons_self
  rw [Forest.find?, if_pos rfl] at hempty
  have hm := helements.createElement wf (plainTag "table")
  rw [← elements_grid hrows] at hm
  obtain ⟨head, hhead, hheader⟩ := builds_addHeader (show Movable dom.fresh [] _ from hm.left)
    (headerText name variants) (width (grid cells))
  have hrest : Movable dom.fresh ((grid cells).flatMap fun row => row.flatMap Value.elements)
      (addHeader dom.fresh (dom.createElement (plainTag "table")).2 (headerText name variants)
        (width (grid cells))) := hhead.movable hm
  obtain ⟨body, hbody, hshows⟩ := builds_foldl (R := IsRow) (fun _ _ _ _ hlook => IsRow.congr hlook)
    (fun values hvalues _ hm => builds_addRow (hshown values hvalues) hm) hrest
  obtain ⟨tag, children, hfirst, hlast⟩ := (hhead.trans hbody).row
  cases hempty.symm.trans hfirst
  refine ⟨dom.fresh, _, _, createTable_eq dom name variants hrows, hbody.wellFormed, wf.not_has_fresh,
    hlast, _, _, rfl, width (grid cells), head, body.toList, ?_, isWidth_width hrows, hheader, ?_⟩
  · rw [Forest.nil_append, Forest.toList_append]
    cases head <;> rfl
  · refine forall₂_of_mem hshows fun values hvalues row hrow => IsRow.congr (fun k hk => ?_) hrow
    have hin : k ∈ (grid cells).flatMap fun row => row.flatMap Value.elements :=
      List.mem_flatMap.2 ⟨values, hvalues, hk⟩
    have hthere : dom.Has k := helements.has k (elements_grid hrows ▸ hin)
    exact (hm.find?_eq hhead.toSpares hin).trans (hgrows.find? wf hthere)

/-- A page with a paragraph and a picture. -/
def picturePage : Dom :=
  ⟨.element 0 documentTag (.element 1 (plainTag "main")
    (.element 2 (plainTag "p") (.leaf 3 (.text .plain "x") .nil)
      (.element 4 (plainTag "img") .nil .nil)) .nil) .nil, 5, false⟩

/-- Two cells in the first row, and one cell that holds a list in the second one. -/
def pictureCells : Value :=
  .list [.list [.element 4, .text "<b>y</b>"],
    .list [.list [.null, .list [.text "a", .element 2]]]]

/-- The table of a page shows the picture and the paragraph themselves, and text as text. -/
theorem createTable_shows_picture :
    picturePage.WellFormed ∧ grid pictureCells ≠ [] ∧
      (∀ row ∈ grid pictureCells, ∀ value ∈ row, ∀ leaf ∈ value.leaves, leaf.isShown = true) ∧
      Separate pictureCells.elements picturePage ∧
      ∃ table node after,
        createTable picturePage "Cards" ["dark"] pictureCells = (.ok (some table), after) ∧
        after.WellFormed ∧ ¬picturePage.Has table ∧ after.find? table = some node ∧
        IsTable picturePage.find? "Cards (dark)" (grid pictureCells) node := by
  have wf : picturePage.WellFormed := by decide
  have hrows : grid pictureCells ≠ [] := List.cons_ne_nil _ _
  have hshown : ∀ row ∈ grid pictureCells, ∀ value ∈ row, ∀ leaf ∈ value.leaves,
      leaf.isShown = true := by decide
  have helements : Separate pictureCells.elements picturePage :=
    ⟨by decide, by decide, by decide⟩
  exact ⟨wf, hrows, hshown, helements,
    createTable_shows wf "Cards" ["dark"] hrows hshown helements⟩

example : ((createTable picturePage "Cards" ["dark"] pictureCells).2.find? 5).map Node.markup =
    some ("<table><tr><th colspan=\"2\">Cards (dark)</th></tr>" ++
      "<tr><td><img/></td><td>&lt;b&gt;y&lt;/b&gt;</td></tr><tr><td>a<p>x</p></td></tr></table>") := by
  decide +kernel

end Block

/-! ## Elements that several cells mention -/

namespace Value

/-- All that a value holds are elements. -/
def IsElements (value : Value) : Prop :=
  value.leaves = value.elements.map element

theorem isElements_element (id : NodeId) : (element id).IsElements := rfl

theorem elements_list_map (ids : List NodeId) : (list (ids.map element)).elements = ids := by
  rw [elements, elementsOfItems_eq_flatMap, List.flatMap_map]
  exact List.flatMap_singleton' ids

theorem isElements_list_map (ids : List NodeId) : (list (ids.map element)).IsElements := by
  rw [IsElements, elements_list_map, leaves]
  induction ids with
  | nil => rfl
  | cons id ids ih =>
    rw [List.map_cons, leavesOfItems, ih]
    rfl

end Value

namespace Block

variable {p : NodeId} {value : Value} {values : List Value} {rows : List (List Value)} {dom : Dom}

/-! ## What cells keep -/

/-- The elements that some values mention. -/
def mentions (values : List Value) : List NodeId :=
  values.flatMap Value.elements

/-- The elements that are in the cells of a row: each in the last cell that mentions it. -/
def keepCells : List Value → List (List NodeId)
  | [] => []
  | value :: values =>
    (value.elements.dedup.filter fun k => decide (k ∉ mentions values)) :: keepCells values

/-- The elements that are in the cells of several rows: each in the last row that mentions it. -/
def keepRows : List (List Value) → List (List (List NodeId))
  | [] => []
  | row :: rows =>
    (keepCells row).map (List.filter fun k => decide (k ∉ rows.flatMap mentions)) :: keepRows rows

/-- What stands in one of several rows is what no later one mentions. -/
theorem forall₂_keepRows {R : NodeId → List (List NodeId) → Prop} {body : List NodeId}
    (h : List.Forall₂ R body (keepRows rows)) :
    body.length = rows.length ∧ ∀ (k : Nat) (row : List Value), rows[k]? = some row →
      ∃ node, body[k]? = some node ∧ R node ((keepCells row).map
        (List.filter fun x => decide (x ∉ (rows.drop (k + 1)).flatMap mentions))) := by
  induction rows generalizing body with
  | nil =>
    cases h
    exact ⟨rfl, fun k row hrow => by cases hrow⟩
  | cons first rows ih =>
    cases h with
    | cons hfirst hrest =>
      obtain ⟨hlength, hrows⟩ := ih hrest
      refine ⟨congrArg Nat.succ hlength, fun k row hrow => ?_⟩
      cases k with
      | zero =>
        cases hrow
        exact ⟨_, rfl, hfirst⟩
      | succ k => exact hrows k row hrow

/-- A node is an element without attributes, and its row of children is as told. -/
def IsPlain (dom : Dom) (name : String) (id : NodeId) (row : List NodeId) : Prop :=
  dom.view? id = some (.element (plainTag name) row)

/-- A node is a row whose cells have the children that are told. -/
def KeepsRow (dom : Dom) (row : NodeId) (kept : List (List NodeId)) : Prop :=
  ∃ cells, IsPlain dom "tr" row cells ∧ List.Forall₂ (IsPlain dom "td") cells kept

/-- A cell gets the elements that its value mentions, each once. -/
theorem takes_fill (hvalue : value.IsElements) (h : Ready p value.elements dom) :
    Takes p value.elements value.elements.dedup dom (fill p value dom) := by
  have hfill : fill p value dom = value.elements.foldl (fun dom id => dom.append p id) dom := by
    rw [fill_eq_foldl, hvalue, List.foldl_map]
    rfl
  rw [hfill]
  exact takes_appendAll h

theorem takes_addCell (hvalue : value.IsElements) (h : Ready p value.elements dom) :
    Takes p value.elements [dom.fresh] dom (addCell p dom value) ∧
      IsPlain (addCell p dom value) "td" dom.fresh value.elements.dedup := by
  have hready := ready_createElement h.wellFormed h.has (plainTag "td")
  obtain ⟨htakes, hcell, -⟩ := takes_nested h (takes_fill hvalue hready)
  exact ⟨htakes, hcell⟩

/-- Each cell of a row keeps what no later cell mentions. -/
theorem takes_addCells (hvalues : ∀ value ∈ values, value.IsElements)
    (h : Ready p (mentions values) dom) :
    ∃ cells, (∀ cell ∈ cells, ¬dom.Has cell) ∧
      Takes p (mentions values) cells dom (values.foldl (addCell p) dom) ∧
      List.Forall₂ (IsPlain (values.foldl (addCell p) dom) "td") cells (keepCells values) := by
  induction values generalizing dom with
  | nil => exact ⟨[], fun _ hcell => absurd hcell List.not_mem_nil, .refl h.wellFormed, .nil⟩
  | cons value values ih =>
    have hready : Ready p (value.elements ++ mentions values) dom := h
    obtain ⟨hfirst, hcell⟩ := takes_addCell (hvalues value List.mem_cons_self) hready.left
    obtain ⟨cells, hnew, hrest, hcells⟩ :=
      ih (fun other hother => hvalues other (List.mem_cons_of_mem _ hother)) (hfirst.ready hready)
    refine ⟨dom.fresh :: cells, ?_, ?_, .cons (hrest.view_of_ne h.fresh_ne hcell) hcells⟩
    · rintro other hother hhas
      rcases List.mem_cons.1 hother with rfl | hother
      · exact h.wellFormed.not_has_fresh hhas
      · exact hnew other hother (hfirst.has hhas)
    · exact hfirst.trans_single hrest fun hin => h.fresh_notMem (List.mem_append_right _ hin)

theorem takes_addRow (hvalues : ∀ value ∈ values, value.IsElements)
    (h : Ready p (mentions values) dom) :
    Takes p (mentions values) [dom.fresh] dom (addRow p dom values) ∧
      ∃ cells, (∀ cell ∈ cells, ¬dom.Has cell) ∧
        IsPlain (addRow p dom values) "tr" dom.fresh cells ∧
        List.Forall₂ (IsPlain (addRow p dom values) "td") cells (keepCells values) := by
  have hready := ready_createElement h.wellFormed h.has (plainTag "tr")
  have hgrows := grows_createElement dom (plainTag "tr")
  obtain ⟨cells, hnew, hbuild, hcells⟩ := takes_addCells hvalues hready
  obtain ⟨htakes, hrow, hsame⟩ := takes_nested h hbuild
  have hout : ∀ cell ∈ cells, ¬dom.Has cell := fun cell hcell hhas =>
    hnew cell hcell (hgrows.has_iff.2 (.inl hhas))
  refine ⟨htakes, cells, hout, hrow, forall₂_of_mem hcells fun cell hcell kept hkept => ?_⟩
  refine (hsame cell (has_iff_view.2 ⟨_, hkept⟩) fun heq => ?_).trans hkept
  exact hout cell hcell (heq ▸ h.has_self)

/-- Each row of a table keeps what no later row mentions. -/
theorem takes_addRows (hrows : ∀ row ∈ rows, ∀ value ∈ row, value.IsElements)
    (h : Ready p (rows.flatMap mentions) dom) :
    ∃ body, Takes p (rows.flatMap mentions) body dom (rows.foldl (addRow p) dom) ∧
      List.Forall₂ (KeepsRow (rows.foldl (addRow p) dom)) body (keepRows rows) := by
  induction rows generalizing dom with
  | nil => exact ⟨[], .refl h.wellFormed, .nil⟩
  | cons values rows ih =>
    have hready : Ready p (mentions values ++ rows.flatMap mentions) dom := h
    obtain ⟨hfirst, cells, hnew, hrow, hcells⟩ :=
      takes_addRow (hrows values List.mem_cons_self) hready.left
    obtain ⟨body, hrest, hbody⟩ :=
      ih (fun other hother => hrows other (List.mem_cons_of_mem _ hother)) (hfirst.ready hready)
    have hmentioned : ∀ k ∈ rows.flatMap mentions, dom.Has k := fun k hk =>
      hready.has k (List.mem_append_right _ hk)
    refine ⟨dom.fresh :: body, ?_, .cons ⟨cells, ?_, ?_⟩ hbody⟩
    · exact hfirst.trans_single hrest fun hin => h.fresh_notMem (List.mem_append_right _ hin)
    · have hview := hrest.view_of_ne h.fresh_ne hrow
      rwa [filter_notMem_eq_self fun cell hcell hin => hnew cell hcell (hmentioned cell hin)] at hview
    · rw [List.forall₂_map_right_iff]
      exact forall₂_of_mem hcells fun cell hcell kept hkept =>
        hrest.view_of_ne (fun heq => hnew cell hcell (heq ▸ h.has_self)) hkept

/-- The table of rows of elements, which may be mentioned several times and be inside each other, is a
new element with a header and these rows.  Each element is in the cell that mentions it last. -/
theorem createTable_keeps (wf : dom.WellFormed) (name : String) (variants : List String)
    {cells : Value} (hrows : grid cells ≠ [])
    (helements : ∀ row ∈ grid cells, ∀ value ∈ row, value.IsElements)
    (hhas : ∀ k ∈ (grid cells).flatMap mentions, dom.Has k) :
    ∃ table head body after, createTable dom name variants cells = (.ok (some table), after) ∧
      after.WellFormed ∧ ¬dom.Has table ∧ IsPlain after "table" table (head :: body) ∧
      List.Forall₂ (KeepsRow after) body (keepRows (grid cells)) := by
  have hready := ready_createElement wf hhas (plainTag "table")
  have hempty := wf.view?_createElement (plainTag "table")
  have hmovable : Movable dom.fresh [] (dom.createElement (plainTag "table")).2 :=
    Separate.createElement ⟨List.forall_mem_nil _, List.nodup_nil, List.forall_mem_nil _⟩ wf _
  obtain ⟨head, hbuilds, -⟩ :=
    builds_addHeader hmovable (headerText name variants) (width (grid cells))
  have hheader := hbuilds.takes
  rw [Node.topIds_toForest] at hheader
  obtain ⟨body, hbody, hkeeps⟩ := takes_addRows helements (hheader.ready hready)
  have hhead : head.id ∉ (grid cells).flatMap mentions := fun hin => by
    have hparent := hheader.wellFormed.parent?_eq_some_iff.2 (show Dom.Holds _ dom.fresh head.id by
      rw [Holds, kids_of_view (hheader.view_self hempty)]
      exact List.mem_cons_self)
    rw [hheader.parent? _ (hready.has _ hin) List.not_mem_nil,
      hready.wellFormed.parent?_eq_some_iff, Holds, kids_of_view hempty] at hparent
    exact absurd hparent List.not_mem_nil
  exact ⟨dom.fresh, head.id, body, _, createTable_eq dom name variants hrows, hbody.wellFormed,
    wf.not_has_fresh, (hheader.trans_single hbody hhead).view_self hempty, hkeeps⟩

end Block

end PageBlocks
