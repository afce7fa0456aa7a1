import PageBlocks.Proofs.Cell.Elements
import PageBlocks.Proofs.Dom.Spots
/-!
# What cells do to the page

Evaluating cells moves nothing: at most there are new elements beside the document.  What cells
yield is found below the scope or is new, so that it is free as long as what they are told by is.
Fields go further and take what they hold into containers, which moves free nodes only.

Selectors with a marker yield text, and templates yield new elements.  Cells that are told by these
alone copy what they find, so that what is below the scope may be guarded as well.

## Main results

* `Cell.evaluate_frame` — evaluating a cell makes new nodes only, and yields what is free.
* `Cell.buildRows_frame` — so do rows.
* `Cell.buildFields_frame` — fields move nothing that is guarded.
-/

namespace PageBlocks

open Dom

/-- Changes that only make new nodes. -/
abbrev Dom.Makes (before after : Dom) : Prop :=
  Changes Set.univ Set.univ before after

theorem Dom.Makes.changes {fixed closed : Set NodeId} {before after : Dom}
    (h : before.Makes after) : Changes fixed closed before after :=
  Changes.mono (Set.subset_univ _) (Set.subset_univ _) h

theorem Dom.Guarded.of_makes {kept : Set NodeId} {scope : NodeId} {before after : Dom}
    (h : Guarded kept scope before) (hm : before.Makes after) : Guarded kept scope after :=
  h.of_changes hm (Set.subset_univ _)

/-- What cells come to: new nodes only, and values that are free. -/
structure Yields (kept : Set NodeId) (before after : Dom) (values : List Value) : Prop where
  makes : before.Makes after
  free : ∀ value ∈ values, value.IsFree kept after

namespace Yields

variable {kept : Set NodeId} {before mid after : Dom} {values more : List Value}

theorem nothing (kept : Set NodeId) (dom : Dom) : Yields kept dom dom [] :=
  ⟨.refl, fun _ hv => absurd hv List.not_mem_nil⟩

theorem append (wf : before.WellFormed) (h : Yields kept before mid values)
    (h' : Yields kept mid after more) : Yields kept before after (values ++ more) := by
  have hext := h'.makes.extends (h.makes.wellFormed wf)
  refine ⟨h.makes.trans h'.makes, fun value hvalue => ?_⟩
  rcases List.mem_append.1 hvalue with hvalue | hvalue
  · exact (h.free value hvalue).of_has hext.has
  · exact h'.free value hvalue

theorem list (h : Yields kept before after values) : Yields kept before after [.list values] := by
  refine ⟨h.makes, fun value hvalue => ?_⟩
  rw [List.mem_singleton.1 hvalue]
  exact Value.isFree_list.2 h.free

end Yields

namespace Cell

variable {kept : Set NodeId} {guard scope : NodeId} {dom after : Dom} {sanitize : Sanitize.Sanitizer}

/-! ## Cells that copy -/

/-- Does a selector yield text, whatever it finds? -/
def markedCopies (marked : MarkedSelector) : Bool :=
  marked.usesText || MarkedSelector.endsWithAttribute marked.selector

/-- Does what tells a cell yield text or new elements only?  What is neither text nor an element
yields nothing. -/
def specCopies : Value → Bool
  | .text spec =>
    match CellSpec.parse spec.toList with
    | .selector marked _ => markedCopies marked
    | .template _ => true
  | .element _ => false
  | _ => true

/-- Does a cell yield text or new elements only? -/
def cellCopies (cell : Value) : Bool :=
  cell.itemsOrSelf.all specCopies

/-- Do all columns of a row? -/
def rowCopies : Value → Bool
  | .list columns => columns.all cellCopies
  | cell => cellCopies cell

/-- Does the cell of a conditional field, if its entry can be taken apart? -/
def entryCopies (entry : Value) : Bool :=
  match entryParts entry with
  | .ok parts => cellCopies (parts[1]?.getD .null)
  | .error _ => true

/-- Does a field, whichever of its entries counts? -/
def fieldCopies : Value → Bool
  | .list entries => entries.all entryCopies
  | cell => cellCopies cell

/-- Are these rows or fields all of which yield text or new elements only? -/
def cellsCopy : Value → Bool
  | .list rows => rows.all rowCopies
  | .config fields => fields.all fun field => fieldCopies field.2
  | _ => false

/-! ## Cells -/

/-- A result that is changed afterwards was there before. -/
theorem exists_of_map_eq_ok {ε α β : Type} {f : α → β} {result : Except ε α} {b : β}
    (h : result.map f = .ok b) : ∃ a, result = .ok a ∧ f a = b := by
  cases result with
  | error fault => cases h
  | ok a =>
    cases h
    exact ⟨a, rfl, rfl⟩

/-- Each value of a row that could be evaluated comes from a member of it. -/
theorem exists_of_mem_mapM {α β ε : Type} {f : α → Except ε β} {xs : List α}
    {ys : List β} (h : xs.mapM f = .ok ys) {y : β} (hy : y ∈ ys) : ∃ x ∈ xs, f x = .ok y := by
  induction xs generalizing ys with
  | nil =>
    cases h
    cases hy
  | cons x xs ih =>
    rw [List.mapM_cons] at h
    cases hx : f x with
    | error fault => rw [hx] at h; cases h
    | ok first =>
      cases hxs : xs.mapM f with
      | error fault => rw [hx, hxs] at h; cases h
      | ok rest =>
        rw [hx, hxs] at h
        cases h
        rcases List.mem_cons.1 hy with rfl | hy
        · exact ⟨x, List.mem_cons_self, hx⟩
        · obtain ⟨z, hz, hfz⟩ := ih hxs hy
          exact ⟨z, List.mem_cons_of_mem _ hz, hfz⟩

theorem matchValue_cases {marked : MarkedSelector} {params : CellParams} {id : NodeId}
    {value : Value} (h : matchValue dom marked params id = .ok value) :
    value = .element id ∨ ∃ content, value = .text content := by
  rw [matchValue] at h
  split at h
  · obtain ⟨content, _, rfl⟩ := exists_of_map_eq_ok h
    exact .inr ⟨content, rfl⟩
  · cases h
    exact .inl rfl

/-- A selector that copies yields text. -/
theorem matchValue_text {marked : MarkedSelector} {params : CellParams} {id : NodeId} {value : Value}
    (hcopies : markedCopies marked = true) (h : matchValue dom marked params id = .ok value) :
    ∃ content, value = .text content := by
  have hcopies' : (marked.usesText || MarkedSelector.endsWithAttribute marked.selector) = true :=
    hcopies
  rw [matchValue, hcopies', Bool.true_or, Bool.true_or, if_pos rfl] at h
  obtain ⟨content, _, rfl⟩ := exists_of_map_eq_ok h
  exact ⟨content, rfl⟩

theorem evaluateSelector_free {marked : MarkedSelector} {selector : Selector}
    {params : CellParams} {value : Value} (hg : Guarded kept guard dom)
    (hscope : guard = scope ∨ markedCopies marked = true)
    (h : evaluateSelector dom scope marked selector params = .ok value) :
    value.IsFree kept dom := by
  obtain ⟨values, hm, rfl⟩ := exists_of_map_eq_ok h
  have hvalues : ∀ value ∈ values, value.IsFree kept dom := by
    intro value hvalue
    obtain ⟨id, hid, hmatch⟩ := exists_of_mem_mapM hm hvalue
    rcases hscope with rfl | hcopies
    · rcases matchValue_cases hmatch with rfl | ⟨content, rfl⟩
      · exact Value.isFree_element.2
          (hg.free_of_isBelow_scope (isBelow_of_mem_select hg.wellFormed hid).1)
      · exact Value.isFree_text content
    · obtain ⟨content, rfl⟩ := matchValue_text hcopies hmatch
      exact Value.isFree_text content
  rw [gather.eq_def]
  split
  · exact Value.isFree_text _
  · exact hvalues _ List.mem_cons_self
  · exact Value.isFree_list.2 hvalues

/-- The elements among what a selector yields are elements that it finds. -/
theorem mem_select_of_element {marked : MarkedSelector} {selector : Selector}
    {params : CellParams} {value : Value} {id : NodeId}
    (h : evaluateSelector dom scope marked selector params = .ok value)
    (hid : .element id ∈ value.itemsOrSelf) : id ∈ dom.select scope selector := by
  obtain ⟨values, hm, rfl⟩ := exists_of_map_eq_ok h
  have hvalues : ∀ value ∈ values, value.itemsOrSelf = [value] ∧
      (value = .element id → id ∈ dom.select scope selector) := by
    intro value hvalue
    obtain ⟨found, hfound, hmatch⟩ := exists_of_mem_mapM hm hvalue
    rcases matchValue_cases hmatch with rfl | ⟨content, rfl⟩
    · exact ⟨rfl, fun heq => by cases heq; exact hfound⟩
    · exact ⟨rfl, fun heq => by cases heq⟩
  rw [gather.eq_def] at hid
  split at hid
  · cases List.mem_singleton.1 hid
  · next value =>
    obtain ⟨hself, hin⟩ := hvalues value List.mem_cons_self
    rw [hself, List.mem_singleton] at hid
    exact hin hid.symm
  · exact (hvalues _ hid).2 rfl

theorem evaluateTemplate_frame {segments : List Segment} {id : Option NodeId}
    (hg : Guarded kept guard dom)
    (h : evaluateTemplate dom scope segments sanitize = .ok (id, after)) :
    Yields kept dom after (id.map Value.element).toList := by
  rw [evaluateTemplate] at h
  split at h
  · cases h
  · cases h
    exact .nothing kept _
  · split at h
    · cases h
      exact .nothing kept _
    · next node _ =>
      cases h
      have hgrows := grows_adopt dom node
      have hnew : dom.fresh ∈ (node.toForest.renumber dom.fresh).1.ids := by
        rw [Forest.ids_renumber, List.mem_range'_1]
        refine ⟨Nat.le_refl _, ?_⟩
        show dom.fresh < dom.fresh + node.ids.length
        rw [Node.ids_eq, List.length_cons]
        exact Nat.lt_add_of_pos_right (Nat.succ_pos _)
      refine ⟨.single (.adopt dom node), fun value hvalue => ?_⟩
      rw [List.mem_singleton.1 hvalue]
      exact Value.isFree_element.2 ⟨hg.fresh_notMem, hgrows.has_iff.2 (.inr hnew)⟩

theorem evaluateSpec_frame {params : CellParams} {spec : Value} {value : Option Value}
    (hg : Guarded kept guard dom) (hscope : guard = scope ∨ specCopies spec = true)
    (hspec : spec.IsFree kept dom)
    (h : evaluateSpec dom scope params sanitize spec = .ok (value, after)) :
    Yields kept dom after value.toList := by
  cases spec with
  | element id =>
    cases h
    refine ⟨.refl, fun v hv => ?_⟩
    rw [List.mem_singleton.1 hv]
    exact hspec
  | text content =>
    rw [evaluateSpec] at h
    split at h
    · next marked selector hparse =>
      obtain ⟨found, hs, heq⟩ := exists_of_map_eq_ok h
      cases heq
      refine ⟨.refl, fun v hv => ?_⟩
      rw [List.mem_singleton.1 hv]
      rw [specCopies, hparse] at hscope
      exact evaluateSelector_free hg hscope hs
    · next segments _ =>
      obtain ⟨result, ht, heq⟩ := exists_of_map_eq_ok h
      cases heq
      exact evaluateTemplate_frame hg ht
  | null | bool _ | integer _ | decimal _ | list _ | config _ => cases h

theorem evaluateSpecs_frame {params : CellParams} {specs values : List Value}
    (hg : Guarded kept guard dom) (hscope : guard = scope ∨ specs.all specCopies = true)
    (hspecs : ∀ spec ∈ specs, spec.IsFree kept dom)
    (h : evaluateSpecs dom scope params sanitize specs = .ok (values, after)) :
    Yields kept dom after values := by
  induction specs generalizing dom values with
  | nil =>
    cases h
    exact .nothing kept _
  | cons spec specs ih =>
    rw [List.all_cons, Bool.and_eq_true] at hscope
    rw [evaluateSpecs] at h
    split at h
    · cases h
    · next value mid hspec =>
      have hfirst := evaluateSpec_frame hg (hscope.imp_right And.left)
        (hspecs _ List.mem_cons_self) hspec
      have hext := hfirst.makes.extends hg.wellFormed
      obtain ⟨result, hrest, heq⟩ := exists_of_map_eq_ok h
      cases heq
      exact hfirst.append hg.wellFormed (ih (hg.of_makes hfirst.makes) (hscope.imp_right And.right)
        (fun s hs => (hspecs s (List.mem_cons_of_mem _ hs)).of_has hext.has) hrest)

/-- Evaluating a cell makes new nodes only, and yields what is free. -/
theorem evaluate_frame {cell params : Value} {values : List Value} (hg : Guarded kept guard dom)
    (hscope : guard = scope ∨ cellCopies cell = true) (hcell : cell.IsFree kept dom)
    (h : evaluate dom scope cell params sanitize = .ok (values, after)) :
    Yields kept dom after values := by
  rw [evaluate] at h
  split at h
  · split at h
    · cases h
    · exact evaluateSpecs_frame hg hscope hcell.itemsOrSelf h
  · cases h
    exact .nothing kept _

/-! ## Rows -/

theorem buildColumns_frame {columns values : List Value} (hg : Guarded kept guard dom)
    (hscope : guard = scope ∨ columns.all cellCopies = true)
    (hcolumns : ∀ column ∈ columns, column.IsFree kept dom)
    (h : buildColumns dom scope sanitize columns = .ok (values, after)) :
    Yields kept dom after values := by
  induction columns generalizing dom values with
  | nil =>
    cases h
    exact .nothing kept _
  | cons column columns ih =>
    rw [List.all_cons, Bool.and_eq_true] at hscope
    rw [buildColumns] at h
    split at h
    · cases h
    · next found mid hcolumn =>
      have hfirst := evaluate_frame hg (hscope.imp_right And.left)
        (hcolumns _ List.mem_cons_self) hcolumn
      have hext := hfirst.makes.extends hg.wellFormed
      obtain ⟨result, hrest, heq⟩ := exists_of_map_eq_ok h
      cases heq
      exact hfirst.list.append hg.wellFormed (ih (hg.of_makes hfirst.makes)
        (hscope.imp_right And.right) (fun c hc => (hcolumns c (List.mem_cons_of_mem _ hc)).of_has hext.has) hrest)

/-- A row, or nothing in its place. -/
private theorem kept_frame {values : List Value} (h : Yields kept dom after values) :
    Yields kept dom after
      (if values.any hasContent then some (Value.list values) else none).toList := by
  split
  · exact h.list
  · exact ⟨h.makes, fun _ hv => absurd hv List.not_mem_nil⟩

theorem buildRow_frame {row : Value} {value : Option Value} (hg : Guarded kept guard dom)
    (hscope : guard = scope ∨ rowCopies row = true) (hrow : row.IsFree kept dom)
    (h : buildRow dom scope sanitize row = .ok (value, after)) :
    Yields kept dom after value.toList := by
  have hcell {cell : Value} (hscope : guard = scope ∨ cellCopies cell = true)
      (hfree : cell.IsFree kept dom)
      (he : (evaluate dom scope cell .null sanitize).map (fun built =>
        (if built.1.any hasContent then some (Value.list built.1) else none, built.2)) =
        .ok (value, after)) : Yields kept dom after value.toList := by
    obtain ⟨result, hc, heq⟩ := exists_of_map_eq_ok he
    cases heq
    exact kept_frame (evaluate_frame hg hscope hfree hc)
  cases row with
  | element id =>
    cases h
    refine Yields.list ⟨.refl, fun v hv => ?_⟩
    rw [List.mem_singleton.1 hv]
    exact hrow
  | list columns =>
    rw [buildRow] at h
    obtain ⟨result, hc, heq⟩ := exists_of_map_eq_ok h
    cases heq
    exact kept_frame (buildColumns_frame hg hscope (Value.isFree_list.1 hrow) hc)
  | null | bool _ | integer _ | decimal _ | text _ | config _ => exact hcell hscope hrow h

/-- Rows make new nodes only, and hold what is free. -/
theorem buildRows_frame {rows values : List Value} (hg : Guarded kept guard dom)
    (hscope : guard = scope ∨ rows.all rowCopies = true)
    (hrows : ∀ row ∈ rows, row.IsFree kept dom)
    (h : buildRows dom scope sanitize rows = .ok (values, after)) :
    Yields kept dom after values := by
  induction rows generalizing dom values with
  | nil =>
    cases h
    exact .nothing kept _
  | cons row rows ih =>
    rw [List.all_cons, Bool.and_eq_true] at hscope
    rw [buildRows] at h
    split at h
    · cases h
    · next built mid hrow =>
      have hfirst := buildRow_frame hg (hscope.imp_right And.left) (hrows _ List.mem_cons_self) hrow
      have hext := hfirst.makes.extends hg.wellFormed
      obtain ⟨result, hrest, heq⟩ := exists_of_map_eq_ok h
      cases heq
      exact hfirst.append hg.wellFormed (ih (hg.of_makes hfirst.makes) (hscope.imp_right And.right)
        (fun r hr => (hrows r (List.mem_cons_of_mem _ hr)).of_has hext.has) hrest)

/-! ## Fields -/

/-- Values may be put into an element that nothing holds. -/
theorem fillContainer_frame {p : NodeId} {values : List Value}
    (hg : Guarded (insert p kept) guard dom) (hp : Loose dom p) (hnot : p ∉ kept)
    (hvalues : ∀ value ∈ values, value.IsFree (insert p kept) dom) :
    Changes (insert p kept) kept dom (fillContainer dom p values) := by
  induction values generalizing dom with
  | nil => exact .refl
  | cons value values ih =>
    have hvalue := hvalues value List.mem_cons_self
    have hone : Changes (insert p kept) kept dom (fillContainer dom p [value]) := by
      cases value with
      | element id =>
        have hfree := Value.isFree_element.1 hvalue
        have hne : p ≠ id := fun h => hfree.1 (h ▸ Set.mem_insert _ _)
        exact .single (append_loose hg.wellFormed hp hnot hfree hne)
      | text content => exact appendText_loose hg.wellFormed hp hnot hg.has content
      | null | bool _ | integer _ | decimal _ | list _ | config _ => exact .refl
    have hext := hone.extends hg.wellFormed
    exact hone.trans (ih (hg.of_changes hone subset_rfl)
      (hp.of_changes hg.wellFormed hone (Set.mem_insert _ _))
      (fun v hv => (hvalues v (List.mem_cons_of_mem _ hv)).of_has hext.has))

/-- A container takes up free nodes only, and is free itself. -/
theorem buildContainer_frame {cell params : Value} {id : NodeId} (hg : Guarded kept guard dom)
    (hscope : guard = scope ∨ cellCopies cell = true) (hcell : cell.IsFree kept dom)
    (h : buildContainer dom scope cell params sanitize = .ok (id, after)) :
    Changes kept kept dom after ∧ after.Free kept id := by
  have wf := hg.wellFormed
  have hgrows := grows_createElement dom containerTag
  have hloose := loose_createElement wf containerTag
  have hcreate : dom.Makes (dom.createElement containerTag).2 :=
    .single (.createElement dom containerTag)
  have hnot := hg.fresh_notMem
  have hg1 := (hg.of_makes hcreate).insert_loose hloose
  have hcell1 : cell.IsFree (insert dom.fresh kept) (dom.createElement containerTag).2 :=
    (hcell.insert_fresh wf).of_has fun y hy => hgrows.has_iff.2 (.inl hy)
  rw [buildContainer] at h
  cases he : evaluate (dom.createElement containerTag).2 scope cell params sanitize with
  | error fault =>
    simp only [createElement] at he h
    rw [he] at h
    cases h
  | ok result =>
    obtain ⟨values, mid⟩ := result
    have hyields := evaluate_frame hg1 hscope hcell1 he
    simp only [createElement] at he h
    rw [he] at h
    cases h
    have hloose2 := hloose.of_changes hg1.wellFormed hyields.makes (Set.mem_univ _)
    have hfill := fillContainer_frame (hg1.of_makes hyields.makes) hloose2 hnot
      (Value.isFree_flatten hyields.free)
    have hall : Changes (insert dom.fresh kept) kept (dom.createElement containerTag).2 _ :=
      hyields.makes.changes.trans hfill
    have hext := hall.extends hg1.wellFormed
    refine ⟨hcreate.changes.trans (hall.mono (Set.subset_insert _ _) subset_rfl), hnot, ?_⟩
    exact hext.has _ (hgrows.has_iff.2 (.inr List.mem_cons_self))

theorem entryParts_free {entry : Value} {parts : List Value} (hentry : entry.IsFree kept dom)
    (h : entryParts entry = .ok parts) : ∀ part ∈ parts, part.IsFree kept dom := by
  cases entry with
  | list items =>
    cases h
    exact Value.isFree_list.1 hentry
  | text content =>
    cases h
    intro part hpart
    obtain ⟨c, _, rfl⟩ := List.mem_map.1 hpart
    exact Value.isFree_text _
  | null | bool _ | integer _ | decimal _ | element _ | config _ => cases h

/-- What is chosen are parts of an entry. -/
theorem exists_of_chooseEntry {entries : List Value} {cell params : Value}
    (h : chooseEntry dom scope entries = .ok (some (cell, params))) :
    ∃ entry ∈ entries, ∃ parts, entryParts entry = .ok parts ∧ cell = parts[1]?.getD .null := by
  induction entries with
  | nil => cases h
  | cons entry entries ih =>
    have hrest (h : chooseEntry dom scope entries = .ok (some (cell, params))) :
        ∃ other ∈ entry :: entries, ∃ parts, entryParts other = .ok parts ∧
          cell = parts[1]?.getD .null := by
      obtain ⟨other, hother, hparts⟩ := ih h
      exact ⟨other, List.mem_cons_of_mem _ hother, hparts⟩
    rw [chooseEntry] at h
    split at h
    · split at h
      · cases h
      · next parts hparts =>
        split at h
        · cases h
          exact ⟨entry, List.mem_cons_self, parts, hparts, rfl⟩
        · exact hrest h
    · exact hrest h

theorem chooseEntry_free {entries : List Value} {cell params : Value}
    (hentries : ∀ entry ∈ entries, entry.IsFree kept dom)
    (h : chooseEntry dom scope entries = .ok (some (cell, params))) : cell.IsFree kept dom := by
  obtain ⟨entry, hentry, parts, hparts, rfl⟩ := exists_of_chooseEntry h
  exact Value.isFree_getD (entryParts_free (hentries entry hentry) hparts) 1

theorem chooseEntry_copies {entries : List Value} {cell params : Value}
    (hentries : entries.all entryCopies = true)
    (h : chooseEntry dom scope entries = .ok (some (cell, params))) : cellCopies cell = true := by
  obtain ⟨entry, hentry, parts, hparts, rfl⟩ := exists_of_chooseEntry h
  have hcopies := List.all_eq_true.1 hentries entry hentry
  rw [entryCopies, hparts] at hcopies
  exact hcopies

theorem buildField_frame {cell : Value} {id : Option NodeId} (hg : Guarded kept guard dom)
    (hscope : guard = scope ∨ fieldCopies cell = true) (hcell : cell.IsFree kept dom)
    (h : buildField dom scope sanitize cell = .ok (id, after)) :
    Changes kept kept dom after ∧ ∀ new ∈ id, after.Free kept new := by
  have hbuilt {cell : Value} (params : Value) (hscope : guard = scope ∨ cellCopies cell = true)
      (hfree : cell.IsFree kept dom)
      (he : (buildContainer dom scope cell params sanitize).map
        (fun built => (some built.1, built.2)) = .ok (id, after)) :
      Changes kept kept dom after ∧ ∀ new ∈ id, after.Free kept new := by
    obtain ⟨result, hc, heq⟩ := exists_of_map_eq_ok he
    cases heq
    obtain ⟨hchanges, hnew⟩ := buildContainer_frame hg hscope hfree hc
    refine ⟨hchanges, fun new h => ?_⟩
    cases h
    exact hnew
  cases cell with
  | list entries =>
    rw [buildField] at h
    split at h
    · cases h
    · cases h
      exact ⟨.refl, fun _ hnew => by cases hnew⟩
    · next chosen params hchoose =>
      exact hbuilt params (hscope.imp_right fun hcopies => chooseEntry_copies hcopies hchoose)
        (chooseEntry_free (Value.isFree_list.1 hcell) hchoose) h
  | null | bool _ | integer _ | decimal _ | text _ | element _ | config _ =>
    exact hbuilt .null hscope hcell h

/-- Fields move nothing that is guarded, whether or not they can all be built, and their containers
are free. -/
theorem buildFields_frame (sanitize : Sanitize.Sanitizer) {fields : List (String × Value)}
    (hg : Guarded kept guard dom)
    (hscope : guard = scope ∨ fields.all (fun field => fieldCopies field.2) = true)
    (hfields : ∀ field ∈ fields, field.2.IsFree kept dom) :
    Changes kept kept dom (buildFields dom scope sanitize fields).2 ∧
      ∀ built, (buildFields dom scope sanitize fields).1 = .ok built →
        ∀ field ∈ built, (buildFields dom scope sanitize fields).2.Free kept field.2 := by
  induction fields generalizing dom with
  | nil => exact ⟨.refl, fun built h field hfield => by cases h; cases hfield⟩
  | cons field fields ih =>
    obtain ⟨name, value⟩ := field
    rw [List.all_cons, Bool.and_eq_true] at hscope
    rw [buildFields]
    cases hb : buildField dom scope sanitize value with
    | error fault => exact ⟨.refl, fun built h => by cases h⟩
    | ok result =>
      obtain ⟨id, mid⟩ := result
      obtain ⟨hchanges, hnew⟩ := buildField_frame hg (hscope.imp_right And.left)
        (hfields _ List.mem_cons_self) hb
      have hext := hchanges.extends hg.wellFormed
      have hg' := hg.of_changes hchanges subset_rfl
      obtain ⟨hrest, hfree⟩ := ih hg' (hscope.imp_right And.right) fun f hf =>
        (hfields f (List.mem_cons_of_mem _ hf)).of_has hext.has
      refine ⟨hchanges.trans hrest, fun built h f hf => ?_⟩
      dsimp only at h hf ⊢
      cases hr : (buildFields mid scope sanitize fields).1 with
      | error fault => rw [hr] at h; cases h
      | ok rest =>
        rw [hr] at h
        cases h
        rcases List.mem_append.1 hf with hf | hf
        · obtain ⟨new, hin, rfl⟩ := Option.map_eq_some_iff.1 (Option.mem_toList.1 hf)
          exact (hnew new hin).of_has (hrest.extends hg'.wellFormed).has
        · exact hfree rest hr f hf

end Cell

end PageBlocks
