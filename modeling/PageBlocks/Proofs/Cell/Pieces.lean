import PageBlocks.Cell.Evaluate
import PageBlocks.Proofs.Dom.Shed
/-!
# What cells yield

What a cell yields can be told apart from the page that it is put into: it is text, or an element of
the page, or a node that markup writes.  The pieces hang on what the selectors of the cell find and on
what is read there, so that they stay the same on a page that gave away other nodes only.

## Main results

* `Cell.evaluateSpecs_eq_pieces` — evaluating specs is finding their pieces and making room for the new
  ones.
* `Cell.specPieces_eq` — a page that gave away nothing that a spec reads yields the same pieces.
-/

namespace PageBlocks

open Dom

/-! ## The row that a spot stands in -/

namespace Spot

private theorem row_of_mem_within {root parent : Spot} {front before : List Node} {forest after : Forest}
    {node : Node} (hrow : root.node.children.toList = front.reverse ++ forest.toList)
    (h : inside parent before node after ∈ within root front forest) :
    parent.node.children.toList = before.reverse ++ node :: after.toList := by
  induction forest generalizing root front with
  | nil => cases h
  | leaf id content next ih =>
    rcases List.mem_cons.1 h with heq | h
    · cases heq
      exact hrow
    · refine ih ?_ h
      rw [hrow, Forest.toList, List.reverse_cons, List.append_assoc]
      rfl
  | element id tag children next ihc ihn =>
    rcases List.mem_cons.1 h with heq | h
    · cases heq
      exact hrow
    · rcases List.mem_append.1 h with h | h
      · exact ihc rfl h
      · refine ihn ?_ h
        rw [hrow, Forest.toList, List.reverse_cons, List.append_assoc]
        rfl

/-- A spot tells the row that its node stands in. -/
theorem row_of_mem_spots {dom : Dom} {parent : Spot} {before : List Node} {node : Node}
    {after : Forest} (h : inside parent before node after ∈ dom.spots) :
    parent.node.children.toList = before.reverse ++ node :: after.toList := by
  obtain ⟨top, _, h⟩ := List.mem_flatMap.1 h
  rcases List.mem_cons.1 h with heq | h
  · cases heq
  · exact row_of_mem_within rfl h

theorem map_node_head?_rowOf (parent : Spot) (before : List Node) (forest : Forest) :
    (rowOf parent before forest).head?.map node = forest.toList.head? := by
  cases forest <;> rfl

end Spot

namespace Cell

variable {scope y : NodeId} {gone : List NodeId} {dom before after : Dom}
  {sanitize : Sanitize.Sanitizer} {params : CellParams}

/-- The node that follows another one, in the row of the element that holds both. -/
theorem nextSibling?_of_spot? {parent : Spot} {front : List Node} {node : Node} {behind : Forest}
    (h : dom.spot? y = some (.inside parent front node behind)) :
    nextSibling? dom y = behind.toList.head? := by
  rw [nextSibling?, h, Option.bind_some]
  exact Spot.map_node_head?_rowOf ..

/-- What follows a node in its row lacks what was given away, and nothing else. -/
theorem toList_behind_eq (h : Sheds scope gone before after) (wf : before.WellFormed)
    (hout : y ∉ gone) {parent parent' : Spot} {front front' : List Node} {node node' : Node}
    {behind behind' : Forest} (hspot : before.spot? y = some (.inside parent front node behind))
    (hspot' : after.spot? y = some (.inside parent' front' node' behind'))
    (hsame : parent'.id = parent.id) :
    behind'.toList = (behind.toList.filter fun other => decide (other.id ∉ gone)).map
      (Node.prune gone) := by
  have wf' := h.wellFormed
  obtain ⟨hs, hid⟩ := sits_of_spot? hspot
  obtain ⟨hs', hid'⟩ := sits_of_spot? hspot'
  have has : before.Has y := hid ▸ (wf.holds_spot hs).has_right
  have hself : node.id ∉ gone := fun hgone => hout (hid ▸ hgone)
  have hholder : parent'.node = parent.node.prune gone := by
    have hfind := h.find?_eq wf (x := parent.id) (wf.holds_spot hs).has_left
    rw [wf.find?_spot hs.1, ← hsame, wf'.find?_spot hs'.1] at hfind
    exact Option.some.inj hfind
  have hnode : node' = node.prune gone := by
    have hfind := h.find?_eq wf has
    rw [← hid, wf.find?_spot hs, hid, ← hid', wf'.find?_spot hs'] at hfind
    exact Option.some.inj hfind
  have hrow := Spot.row_of_mem_spots ((spot?_eq_some_iff wf).1 hspot).1
  have hrow' := Spot.row_of_mem_spots ((spot?_eq_some_iff wf').1 hspot').1
  have honce : (parent'.node.children.toList).Nodup := by
    have hids := Forest.kids_nodup wf'.nodup parent'.id
    rw [Forest.kids_of_find? (wf'.find?_spot hs'.1), ← Forest.map_id_toList] at hids
    exact hids.of_map
  -- The node stands once in its row, so that the rows agree on either side of it.
  rw [hrow', List.nodup_middle, List.nodup_cons, List.mem_append, not_or] at honce
  rw [hholder, Node.children_prune, Forest.toList_prune, hrow, List.filter_append,
    List.filter_cons_of_pos (by simp [hself]), List.map_append, List.map_cons, ← hnode] at hrow'
  exact ((List.append_cons_inj_of_notMem (by simpa using honce.1.1) honce.1.2).1 hrow'.symm).2.2

/-- The node that follows another one stays, with all below it, if it was not given away. -/
theorem nextSibling?_eq (h : Sheds scope gone before after) (wf : before.WellFormed)
    (has : before.Has y) (hout : y ∉ gone)
    (hnext : ∀ node ∈ nextSibling? before y, node.id ∉ gone ∧ ∀ k ∈ gone, ¬before.IsBelow node.id k) :
    nextSibling? after y = nextSibling? before y := by
  have wf' := h.wellFormed
  obtain ⟨spot, hspot⟩ := exists_spot? has
  obtain ⟨spot', hspot'⟩ := exists_spot? (h.has has)
  obtain ⟨hs, hid⟩ := sits_of_spot? hspot
  obtain ⟨hs', hid'⟩ := sits_of_spot? hspot'
  have hparent : after.parent? spot'.id = before.parent? spot.id := by
    rw [hid, hid']
    exact h.parent?_eq wf has hout
  cases spot with
  | top node =>
    have hnone := wf.parent?_eq_none_iff.2 (wf.not_holds_top hs)
    cases spot' with
    | top node' => rw [nextSibling?, nextSibling?, hspot, hspot']; rfl
    | inside parent' front' node' behind' =>
      have hsome := wf'.parent?_eq_some_iff.2 (wf'.holds_spot hs')
      cases hsome.symm.trans (hparent.trans hnone)
  | inside parent front node behind =>
    have hsome := wf.parent?_eq_some_iff.2 (wf.holds_spot hs)
    cases spot' with
    | top node' =>
      have hnone := wf'.parent?_eq_none_iff.2 (wf'.not_holds_top hs')
      cases hnone.symm.trans (hparent.trans hsome)
    | inside parent' front' node' behind' =>
      have hsome' := wf'.parent?_eq_some_iff.2 (wf'.holds_spot hs')
      have hsame := Option.some.inj (hsome'.symm.trans (hparent.trans hsome))
      rw [nextSibling?_of_spot? hspot] at hnext ⊢
      rw [nextSibling?_of_spot? hspot', toList_behind_eq h wf hout hspot hspot' hsame]
      cases hlist : behind.toList with
      | nil => rfl
      | cons next rest =>
        obtain ⟨hleft, hbelow⟩ := hnext next (by rw [hlist]; rfl)
        have hrow := Spot.row_of_mem_spots ((spot?_eq_some_iff wf).1 hspot).1
        have hsits : before.Sits (.inside parent [] next .nil) :=
          ⟨hs.1, by rw [hrow, hlist]; simp⟩
        have hwhole : next.prune gone = next := Node.prune_eq_self fun k hk hgone =>
          hbelow k hgone (isBelow_iff.2 ⟨next, wf.find?_spot hsits, hk⟩)
        rw [List.filter_cons_of_pos (by simp [hleft]), List.map_cons, hwhole]
        rfl

/-! ## Pieces -/

/-- What a cell yields, apart from the page that it is put into. -/
inductive Piece where
  /-- Text, or an element of the page. -/
  | found (value : Value)
  /-- A node that markup writes. -/
  | made (node : Node)

/-- The node that markup writes, if any. -/
def templateNode? (dom : Dom) (scope : NodeId) (segments : List Segment)
    (sanitize : Sanitize.Sanitizer) : Except CellFault (Option Node) :=
  match sanitize (fill dom scope segments) with
  | .error .noSingleBody => .error .noSingleBody
  | .error _ => .ok none
  | .ok markup => .ok (firstElement? (String.ofList markup))

/-- The pieces that a single spec yields. -/
def specPieces (dom : Dom) (scope : NodeId) (params : CellParams) (sanitize : Sanitize.Sanitizer) :
    Value → Except CellFault (List Piece)
  | .element id => .ok [.found (.element id)]
  | .text spec =>
    match CellSpec.parse spec.toList with
    | .selector marked selector =>
      (evaluateSelector dom scope marked selector params).map fun value =>
        value.itemsOrSelf.map .found
    | .template segments =>
      (templateNode? dom scope segments sanitize).map fun node => node.toList.map .made
  | spec => .error (.noText spec.kindName)

/-- The pieces that several specs yield, in order. -/
def pieces (dom : Dom) (scope : NodeId) (params : CellParams) (sanitize : Sanitize.Sanitizer) :
    List Value → Except CellFault (List Piece)
  | [] => .ok []
  | spec :: specs =>
    match specPieces dom scope params sanitize spec with
    | .error fault => .error fault
    | .ok found => (pieces dom scope params sanitize specs).map fun rest => found ++ rest

/-- Makes new nodes beside the page of those that markup writes. -/
def place (dom : Dom) : List Piece → List Value × Dom
  | [] => ([], dom)
  | .found value :: rest => (value :: (place dom rest).1, (place dom rest).2)
  | .made node :: rest =>
    (.element dom.fresh :: (place (dom.adopt node).2 rest).1, (place (dom.adopt node).2 rest).2)

theorem place_append (dom : Dom) (first second : List Piece) :
    place dom (first ++ second) =
      ((place dom first).1 ++ (place (place dom first).2 second).1,
        (place (place dom first).2 second).2) := by
  induction first generalizing dom with
  | nil => rfl
  | cons piece first ih =>
    cases piece with
    | found value => rw [List.cons_append, place, ih, place]; rfl
    | made node => rw [List.cons_append, place, ih, place]; rfl

theorem place_found (dom : Dom) (values : List Value) :
    place dom (values.map .found) = (values, dom) := by
  induction values with
  | nil => rfl
  | cons value values ih => rw [List.map_cons, place, ih]

/-- To make new nodes gives nothing away. -/
theorem sheds_place (wf : dom.WellFormed) (hscope : dom.Has scope) (all : List Piece) :
    Sheds scope [] dom (place dom all).2 := by
  induction all generalizing dom with
  | nil => exact .refl wf hscope
  | cons piece all ih =>
    cases piece with
    | found value => exact ih wf hscope
    | made node =>
      have hgrows := grows_adopt dom node
      have hfirst := hgrows.sheds wf hscope
      exact hfirst.trans wf (ih hfirst.wellFormed (hfirst.has hscope))

/-! ## What is read -/

/-- The nodes that the text of an element is taken from. -/
def readNear (dom : Dom) (marked : MarkedSelector) (id : NodeId) : List NodeId :=
  id :: if marked.usesSiblingText then ((nextSibling? dom id).map Node.id).toList else []

/-- The nodes that a spec reads of the page. -/
def reads (dom : Dom) (scope : NodeId) : Value → List NodeId
  | .text spec =>
    match CellSpec.parse spec.toList with
    | .selector marked selector => (dom.select scope selector).flatMap (readNear dom marked)
    | .template segments =>
      segments.flatMap fun segment =>
        match segment with
        | .literal _ => []
        | .placeholder expression =>
          match Selector.parse? expression with
          | none => []
          | some selector =>
            (dom.select scope selector).head?.toList.flatMap
              (readNear dom (MarkedSelector.parse expression))
  | _ => []

/-- Do all selectors of a spec look at nothing but elements on their own and those around them? -/
def looksUp : Value → Bool
  | .text spec =>
    match CellSpec.parse spec.toList with
    | .selector _ selector => selector.looksUp
    | .template segments =>
      segments.all fun segment =>
        match segment with
        | .literal _ => true
        | .placeholder expression => (Selector.parse? expression).all Selector.looksUp
  | _ => true

/-- Is a node neither among some nodes nor inside one of them? -/
def IsOutside (dom : Dom) (gone : List NodeId) (y : NodeId) : Prop :=
  ∀ k ∈ gone, k ≠ y ∧ ¬dom.IsBelow k y

/-- Is a node outside some nodes, and none of them inside it? -/
def IsApart (dom : Dom) (gone : List NodeId) (y : NodeId) : Prop :=
  IsOutside dom gone y ∧ ∀ k ∈ gone, ¬dom.IsBelow y k

instance (dom : Dom) (gone : List NodeId) (y : NodeId) : Decidable (IsOutside dom gone y) :=
  inferInstanceAs (Decidable (∀ k ∈ gone, k ≠ y ∧ ¬dom.IsBelow k y))

instance (dom : Dom) (gone : List NodeId) (y : NodeId) : Decidable (IsApart dom gone y) :=
  inferInstanceAs (Decidable (_ ∧ ∀ k ∈ gone, ¬dom.IsBelow y k))

theorem isApart_nil (dom : Dom) (y : NodeId) : IsApart dom [] y :=
  ⟨fun _ hk => absurd hk List.not_mem_nil, fun _ hk => absurd hk List.not_mem_nil⟩

/-- What is done to each member of a row hangs on the members only. -/
private theorem mapM_congr {α β ε : Type} {f g : α → Except ε β} {row : List α}
    (h : ∀ a ∈ row, f a = g a) : row.mapM f = row.mapM g := by
  induction row with
  | nil => rfl
  | cons a row ih =>
    rw [List.mapM_cons, List.mapM_cons, h a List.mem_cons_self,
      ih fun b hb => h b (List.mem_cons_of_mem _ hb)]

section

variable {tag : Tag} (h : Sheds scope gone before after) (wf : before.WellFormed)

include h wf

/-- A selector finds the same when nothing that it finds was given away. -/
theorem select_eq_of_outside (htag : before.tag? scope = some tag)
    (hdocument : tag.isDocument = false) (selector : Selector)
    (hs : gone = [] ∨ selector.looksUp = true ∧
      ∀ y ∈ before.select scope selector, IsOutside before gone y) :
    after.select scope selector = before.select scope selector := by
  rcases hs with hgone | ⟨hup, hout⟩
  · exact h.select_eq_self wf hgone selector
  · rw [h.select_eq wf hup htag hdocument]
    exact List.filter_eq_self.2 fun y hy => decide_eq_true (hout y hy)

/-- A selector finds the same at first when that was not given away. -/
theorem head?_select_eq (htag : before.tag? scope = some tag)
    (hdocument : tag.isDocument = false) (selector : Selector)
    (hs : gone = [] ∨ selector.looksUp = true ∧
      ∀ y ∈ (before.select scope selector).head?, IsOutside before gone y) :
    (after.select scope selector).head? = (before.select scope selector).head? := by
  rcases hs with hgone | ⟨hup, hout⟩
  · rw [h.select_eq_self wf hgone selector]
  · rw [h.select_eq wf hup htag hdocument]
    cases hfound : before.select scope selector with
    | nil => rfl
    | cons y found =>
      have hfirst : ∀ k ∈ gone, k ≠ y ∧ ¬before.IsBelow k y := hout y (by rw [hfound]; rfl)
      rw [List.filter_cons, if_pos (decide_eq_true hfirst)]
      rfl

/-- The text of an element is what it was when nothing that it is taken from was given away. -/
theorem elementText_eq {marked : MarkedSelector} {id : NodeId} (has : before.Has id)
    (hread : ∀ y ∈ readNear before marked id, IsApart before gone y) :
    elementText after marked id = elementText before marked id := by
  have hself := hread id List.mem_cons_self
  have hfind : after.find? id = before.find? id := h.find?_eq_self wf has hself.2
  have hnext : marked.usesSiblingText = true → nextSibling? after id = nextSibling? before id := by
    intro huses
    refine nextSibling?_eq h wf has (fun hgone => (hself.1 id hgone).1 rfl) fun node hnode => ?_
    have hin := hread node.id <| by
      rw [readNear, if_pos huses, hnode]
      exact List.mem_cons_of_mem _ (List.mem_singleton.2 rfl)
    exact ⟨fun hgone => (hin.1 _ hgone).1 rfl, hin.2⟩
  rw [elementText, elementText, hfind]
  cases before.find? id with
  | none => rfl
  | some node =>
    obtain ⟨selector, usesText, usesSiblingText, textIndex, attributeName⟩ := marked
    cases usesSiblingText with
    | false => cases usesText <;> cases textIndex <;> cases attributeName <;> rfl
    | true =>
      have hsame := hnext rfl
      cases usesText <;> cases textIndex <;> cases attributeName <;> simp only [hsame]

/-! ## Pieces on a page that gave nodes away -/

variable (htag : before.tag? scope = some tag) (hdocument : tag.isDocument = false)

include htag hdocument

/-- A selector yields the same when nothing that is read of what it finds was given away. -/
theorem evaluateSelector_eq (marked : MarkedSelector) (selector : Selector) (params : CellParams)
    (hs : gone = [] ∨ selector.looksUp = true ∧
      ∀ y ∈ (before.select scope selector).flatMap (readNear before marked), IsApart before gone y) :
    evaluateSelector after scope marked selector params =
      evaluateSelector before scope marked selector params := by
  have hread : ∀ id ∈ before.select scope selector, ∀ y ∈ readNear before marked id,
      IsApart before gone y := by
    rcases hs with rfl | ⟨-, hread⟩
    · exact fun id _ y _ => isApart_nil before y
    · exact fun id hid y hy => hread y (List.mem_flatMap.2 ⟨id, hid, hy⟩)
  have hselect := select_eq_of_outside h wf htag hdocument selector
    (hs.imp_right fun hs => ⟨hs.1, fun y hy => (hread y hy y List.mem_cons_self).1⟩)
  have hvalue : ∀ id ∈ before.select scope selector,
      matchValue after marked params id = matchValue before marked params id := by
    intro id hid
    have has := (isBelow_of_mem_select wf hid).1.has_right
    have hfind := h.find?_eq_self wf has (hread id hid id List.mem_cons_self).2
    rw [matchValue, matchValue, elementText_eq h wf has (hread id hid), children, children, hfind]
  rw [evaluateSelector, evaluateSelector, hselect, mapM_congr hvalue]

/-- A place in markup is filled with the same when nothing that is read for it was given away. -/
theorem fillPlace_eq {expression : List Char}
    (hs : gone = [] ∨ (Selector.parse? expression).all Selector.looksUp = true ∧
      ∀ selector, Selector.parse? expression = some selector →
        ∀ id ∈ (before.select scope selector).head?,
          ∀ y ∈ readNear before (MarkedSelector.parse expression) id, IsApart before gone y) :
    fillPlace after scope expression = fillPlace before scope expression := by
  rw [fillPlace, fillPlace]
  cases hparse : Selector.parse? expression with
  | none => rfl
  | some selector =>
    have hread : ∀ id ∈ (before.select scope selector).head?,
        ∀ y ∈ readNear before (MarkedSelector.parse expression) id, IsApart before gone y := by
      rcases hs with rfl | ⟨-, hread⟩
      · exact fun id _ y _ => isApart_nil before y
      · exact hread selector hparse
    have hhead := head?_select_eq h wf htag hdocument selector
      (hs.imp_right fun hs => ⟨by simpa [hparse] using hs.1,
        fun y hy => (hread y hy y List.mem_cons_self).1⟩)
    simp only [hhead]
    cases hfound : (before.select scope selector).head? with
    | none => rfl
    | some id =>
      have has := (isBelow_of_mem_select wf (List.mem_of_mem_head? hfound)).1.has_right
      have hfind := h.find?_eq_self wf has (hread id hfound id List.mem_cons_self).2
      simp only [elementText_eq h wf has (hread id hfound), hfind]

/-- A page that gave away nothing that a spec reads yields the same pieces. -/
theorem specPieces_eq {spec : Value}
    (hs : gone = [] ∨ looksUp spec = true ∧ ∀ y ∈ reads before scope spec, IsApart before gone y) :
    specPieces after scope params sanitize spec = specPieces before scope params sanitize spec := by
  cases spec with
  | text content =>
    rw [specPieces, specPieces]
    cases hparse : CellSpec.parse content.toList with
    | selector marked selector =>
      have hsame := evaluateSelector_eq h wf htag hdocument marked selector params
        (by simpa only [looksUp, reads, hparse] using hs)
      simp only [hsame]
    | template segments =>
      have hfill : fill after scope segments = fill before scope segments := by
        rw [fill, fill]
        refine List.flatMap_congr fun segment hsegment => ?_
        cases segment with
        | literal text => rfl
        | placeholder expression =>
          refine fillPlace_eq h wf htag hdocument (hs.imp_right fun hs => ?_)
          simp only [looksUp, reads, hparse] at hs
          refine ⟨List.all_eq_true.1 hs.1 _ hsegment, fun selector hselector id hid y hy => ?_⟩
          refine hs.2 y (List.mem_flatMap.2 ⟨_, hsegment, ?_⟩)
          simp only [hselector]
          exact List.mem_flatMap.2 ⟨id, Option.mem_toList.2 hid, hy⟩
      simp only [templateNode?, hfill]
  | element _ | null | bool _ | integer _ | decimal _ | list _ | config _ => rfl

/-- A page that gave away nothing that specs read yields the same pieces. -/
theorem pieces_eq {specs : List Value}
    (hs : gone = [] ∨ ∀ spec ∈ specs, looksUp spec = true ∧
      ∀ y ∈ reads before scope spec, IsApart before gone y) :
    pieces after scope params sanitize specs = pieces before scope params sanitize specs := by
  induction specs with
  | nil => rfl
  | cons spec specs ih =>
    rw [pieces, pieces, specPieces_eq h wf htag hdocument
        (hs.imp_right fun hs => hs spec List.mem_cons_self),
      ih (hs.imp_right fun hs other hother => hs other (List.mem_cons_of_mem _ hother))]

end

/-! ## Evaluating cells -/

/-- Two results that come to the same either fail with one fault or both succeed. -/
theorem cases_of_map_eq {ε α β γ : Type} {f : α → γ} {g : β → γ} {first : Except ε α}
    {second : Except ε β} (h : first.map f = second.map g) :
    (∃ fault, first = .error fault ∧ second = .error fault) ∨
      ∃ a b, first = .ok a ∧ second = .ok b ∧ f a = g b := by
  cases first with
  | error fault =>
    cases second with
    | error other =>
      cases h
      exact .inl ⟨fault, rfl, rfl⟩
    | ok b => cases h
  | ok a =>
    cases second with
    | error other => cases h
    | ok b => exact .inr ⟨a, b, rfl, rfl, Except.ok.inj h⟩

variable {tag : Tag} (wf : dom.WellFormed) (htag : dom.tag? scope = some tag)
  (hdocument : tag.isDocument = false)

theorem evaluateTemplate_eq_node (dom : Dom) (scope : NodeId) (segments : List Segment)
    (sanitize : Sanitize.Sanitizer) :
    (evaluateTemplate dom scope segments sanitize).map (fun built =>
        (built.1.toList.map Value.element, built.2)) =
      (templateNode? dom scope segments sanitize).map fun node =>
        place dom (node.toList.map .made) := by
  rw [evaluateTemplate, templateNode?]
  cases sanitize (fill dom scope segments) with
  | error fault => cases fault <;> rfl
  | ok markup =>
    dsimp only
    cases firstElement? (String.ofList markup) <;> rfl

/-- Evaluating a spec is finding its pieces and making room for the new ones. -/
theorem evaluateSpec_eq_pieces (dom : Dom) (scope : NodeId) (params : CellParams)
    (sanitize : Sanitize.Sanitizer) (spec : Value) :
    (evaluateSpec dom scope params sanitize spec).map (fun built =>
        (Value.flatten built.1.toList, built.2)) =
      (specPieces dom scope params sanitize spec).map (place dom) := by
  cases spec with
  | text content =>
    rw [evaluateSpec, specPieces]
    cases CellSpec.parse content.toList with
    | selector marked selector =>
      dsimp only
      cases evaluateSelector dom scope marked selector params with
      | error fault => rfl
      | ok value =>
        simp only [Except.map, place_found, Option.toList_some, Value.flatten, List.flatMap_singleton]
    | template segments =>
      dsimp only
      obtain ⟨fault, hleft, hright⟩ | ⟨⟨id, after⟩, node, hleft, hright, hnode⟩ :=
        cases_of_map_eq (evaluateTemplate_eq_node dom scope segments sanitize)
      · rw [hleft, hright]
        rfl
      · rw [hleft, hright]
        refine congrArg Except.ok (Eq.trans ?_ hnode)
        cases id <;> rfl
  | element _ | null | bool _ | integer _ | decimal _ | list _ | config _ => rfl

include wf htag hdocument

/-- Evaluating a cell is finding its pieces and making room for the new ones. -/
theorem evaluateSpecs_eq_pieces (specs : List Value) :
    (evaluateSpecs dom scope params sanitize specs).map (fun built =>
        (Value.flatten built.1, built.2)) =
      (pieces dom scope params sanitize specs).map (place dom) := by
  induction specs generalizing dom with
  | nil => rfl
  | cons spec specs ih =>
    rw [evaluateSpecs, pieces]
    obtain ⟨fault, hleft, hright⟩ | ⟨⟨value, mid⟩, found, hleft, hright, hfound⟩ :=
      cases_of_map_eq (evaluateSpec_eq_pieces dom scope params sanitize spec)
    · rw [hleft, hright]
      rfl
    have hvalue : Value.flatten value.toList = (place dom found).1 := congrArg Prod.fst hfound
    have hmid : mid = (place dom found).2 := congrArg Prod.snd hfound
    -- Making room for the pieces of one spec changes nothing about those of the other ones.
    have hsheds : Sheds scope [] dom mid := hmid ▸ sheds_place wf (has_of_tag? htag) found
    have hrest := ih hsheds.wellFormed (by rw [hsheds.tag?_eq (has_of_tag? htag), htag])
    rw [pieces_eq hsheds wf htag hdocument (.inl rfl)] at hrest
    rw [hleft, hright]
    dsimp only
    obtain ⟨fault, hleft', hright'⟩ | ⟨⟨values, last⟩, rest, hleft', hright', hlast⟩ :=
      cases_of_map_eq hrest
    · rw [hleft', hright']
      rfl
    · rw [hleft', hright']
      have hjoin : Value.flatten (value.toList ++ values) =
          (place dom found).1 ++ Value.flatten values := by
        rw [← hvalue, Value.flatten, List.flatMap_append]
        rfl
      simp only [Except.map, hjoin, place_append, ← hmid, ← hlast]

end Cell

end PageBlocks
