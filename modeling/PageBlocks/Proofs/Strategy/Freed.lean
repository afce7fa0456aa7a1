import PageBlocks.Proofs.Dom.Sight
import PageBlocks.Proofs.Selector.Pruned
import PageBlocks.Proofs.Strategy.Frame
/-!
# Elements freed of what shows nothing

Before its columns are looked for, an element is freed of scripts and style sheets and then of divisions
that show nothing.  The divisions are listed at first and gone through one by one, while some of them
are inside others.  As a division is taken out only if nothing is seen of it, what is seen of the others
stays the same, and each is judged as it would have been at first.

## Main results

* `Dom.selectText_eq_of_tags` — what is found by a condition on tags.
* `Strategy.foldl_dropIfEmpty` — just the divisions that showed nothing at first are taken out.
* `Strategy.dropEmpty_frees` — what becomes of the page.
-/

namespace PageBlocks

namespace Dom

variable {dom : Dom} {scope : NodeId}

/-- A selector that is a condition on tags finds the elements below the scope whose tags meet it. -/
theorem selectText_eq_of_tags {text : String} {selector : Selector} {meets : Tag → Bool}
    (hparse : Selector.parse? text.toList = some selector)
    (hholds : ∀ query spot, selector.holds query spot = spot.node.tag?.any meets) :
    dom.selectText scope text =
      ((dom.children scope).nodes.filter fun node => node.tag?.any meets).map Node.id := by
  rw [selectText, hparse]
  show dom.select scope selector = _
  rw [select, children, ← map_node_spot?]
  cases dom.spot? scope with
  | none => rfl
  | some spot =>
    have hmeets (below : Spot) :
        (below.isElement && selector.holds (Query.ofSpot spot) below) =
          below.node.tag?.any meets := by
      rw [hholds, Spot.isElement]
      cases below.node <;> rfl
    show (spot.select selector).map Spot.id =
      (spot.node.children.nodes.filter fun node => node.tag?.any meets).map Node.id
    rw [← Spot.node_mem_descendants, List.filter_map, List.map_map, Spot.select]
    simp only [hmeets]
    rfl

/-- The scripts and style sheets below an element. -/
theorem selectText_code : dom.selectText scope "script, style" =
    ((dom.children scope).nodes.filter fun node => node.tag?.any Tag.isCode).map Node.id := by
  have hparse : Selector.parse? "script, style".toList =
      some (.either (.test (.name .unwritten "script")) (.test (.name .unwritten "style"))) := by
    decide
  refine selectText_eq_of_tags hparse fun query spot => ?_
  rw [Selector.holds, Selector.holds, Selector.holds]
  cases spot.node.tag? <;> rfl

/-- The images and the like below an element. -/
theorem selectText_media : dom.selectText scope "img, svg, iframe" =
    ((dom.children scope).nodes.filter fun node => node.tag?.any Tag.isMedia).map Node.id := by
  have hparse : Selector.parse? "img, svg, iframe".toList =
      some (.either (.test (.name .unwritten "img"))
        (.either (.test (.name .unwritten "svg")) (.test (.name .unwritten "iframe")))) := by
    decide
  refine selectText_eq_of_tags hparse fun query spot => ?_
  rw [Selector.holds, Selector.holds, Selector.holds, Selector.holds, Selector.holds]
  cases spot.node.tag? with
  | none => rfl
  | some tag =>
    show (tag.isNamed "img" || (tag.isNamed "svg" || tag.isNamed "iframe")) = tag.isMedia
    rw [← Bool.or_assoc]
    rfl

end Dom

namespace Strategy

variable {dom before mid after : Dom} {element x : NodeId} {gone : List NodeId}

/-! ## What shows nothing -/

/-- Is nothing seen of what an element holds? -/
def showsNothing (dom : Dom) (id : NodeId) : Bool :=
  (dom.children id).sights.isEmpty

/-- Are there neither scripts nor style sheets below an element? -/
def FreeOfCode (element : NodeId) (dom : Dom) : Prop :=
  ∀ x tag, dom.IsBelow element x → dom.tag? x = some tag → tag.isCode = false

/-- Is the node a division below an element? -/
def IsDivision (element : NodeId) (dom : Dom) (x : NodeId) : Prop :=
  dom.IsBelow element x ∧ ∃ tag, dom.tag? x = some tag ∧ tag.name = "div"

theorem FreeOfCode.any_eq_false (h : FreeOfCode element dom) (wf : dom.WellFormed) {outer : NodeId}
    (houter : outer = element ∨ dom.IsBelow element outer) :
    ∀ node ∈ (dom.children outer).nodes, node.tag?.any Tag.isCode = false := by
  intro node hnode
  obtain ⟨hfind, hbelow⟩ := wf.find?_of_mem_children hnode
  have htag : dom.tag? node.id = node.tag? := by
    rw [Dom.tag?, hfind]
    rfl
  have hin : dom.IsBelow element node.id := by
    rcases houter with rfl | houter
    · exact hbelow
    · exact wf.isBelow_trans houter hbelow
  cases hnode : node.tag? with
  | none => rfl
  | some tag => exact h node.id tag hin (htag.trans hnode)

/-- No line breaks need to be left out to tell blank text. -/
private theorem isBlankText_filter (text : List Char) :
    Text.isBlankText (text.filter (· ≠ '\n')) = Text.isBlankText text := by
  rw [Bool.eq_iff_iff, Text.isBlankText, Text.isBlankText, List.all_eq_true, List.all_eq_true]
  refine ⟨fun h c hc => ?_, fun h c hc => h c (List.mem_filter.1 hc).1⟩
  by_cases hbreak : c = '\n'
  · rw [hbreak]
    decide
  · exact h c (List.mem_filter.2 ⟨hc, decide_eq_true hbreak⟩)

theorem findsAny_media : findsAny dom x "img, svg, iframe" = false ↔
    ∀ node ∈ (dom.children x).nodes, node.tag?.any Tag.isMedia = false := by
  rw [findsAny, Dom.selectFirst?, Dom.selectText_media, List.head?_map, Option.isSome_map,
    Option.isSome_eq_false_iff, Option.isNone_iff_eq_none, List.head?_eq_none_iff,
    List.filter_eq_nil_iff]
  simp only [Bool.not_eq_true]

/-- A division without code in it is taken out if nothing is seen of it. -/
theorem dropIfEmpty_eq {division : NodeId} {tag : Tag} (htag : dom.tag? division = some tag)
    (hname : tag.name = "div")
    (hcode : ∀ node ∈ (dom.children division).nodes, node.tag?.any Tag.isCode = false) :
    dropIfEmpty dom division =
      if showsNothing dom division then dom.detach division else dom := by
  obtain ⟨children, hfind⟩ := Dom.exists_find?_of_tag? htag
  have hchildren : dom.children division = children := by
    rw [Dom.children, hfind]
    rfl
  have htext : (((dom.find? division).map Node.text).getD "") = children.text .plain := by
    rw [hfind]
    show children.text (TextKind.ofName tag.name) = _
    rw [hname]
    rfl
  have hcondition : (!findsAny dom division "img, svg, iframe" &&
      Text.isBlankText (children.text .plain).toList) = showsNothing dom division := by
    rw [Bool.eq_iff_iff, Bool.and_eq_true, Bool.not_eq_true', findsAny_media, showsNothing,
      List.isEmpty_iff, Forest.sights_eq_nil_iff hcode, hchildren, and_comm]
  rw [dropIfEmpty]
  simp only [htext, isBlankText_filter, hcondition]

/-! ## One division after another -/

theorem children_of_cut (h : Dom.Cut element gone mid after) (wf : mid.WellFormed) (x : NodeId) :
    after.children x = (mid.children x).prune gone := by
  rw [Dom.children, Dom.children, h.rearranges.find?_eq wf]
  cases mid.find? x with
  | none => rfl
  | some node => exact Node.children_prune gone node

/-- Divisions of which nothing is seen, once taken out, leave what is seen of all nodes as it was. -/
theorem sights_of_cut (h : Dom.Cut element gone mid after) (wf : mid.WellFormed)
    (hgone : ∀ y ∈ gone, IsDivision element mid y ∧ showsNothing mid y = true) (x : NodeId) :
    (after.children x).sights = (mid.children x).sights := by
  rw [children_of_cut h wf]
  refine Forest.sights_prune fun node hnode hin => ?_
  obtain ⟨⟨-, tag, htag, hname⟩, hnothing⟩ := hgone _ hin
  rw [Dom.tag?, (wf.find?_of_mem_children hnode).1] at htag
  rw [showsNothing, Dom.children, (wf.find?_of_mem_children hnode).1, List.isEmpty_iff] at hnothing
  cases node with
  | leaf id content => cases htag
  | element id other children =>
    cases htag
    have hchildren : children.sights = [] := hnothing
    rw [Node.toForest, Node.consTo, Forest.sights, Tag.isCode_division hname,
      Tag.isMedia_division hname, hchildren]
    rfl

/-- Of some divisions below an element that is free of code, just those are taken out of which nothing
was seen at first. -/
theorem foldl_dropIfEmpty (h : Dom.Cut element gone mid after) (wf : mid.WellFormed)
    (hfree : FreeOfCode element mid)
    (hgone : ∀ y ∈ gone, IsDivision element mid y ∧ showsNothing mid y = true)
    {divisions : List NodeId} (hdivisions : ∀ y ∈ divisions, IsDivision element mid y) :
    divisions.foldl dropIfEmpty after =
      (divisions.filter (showsNothing mid)).foldl Dom.detach after := by
  induction divisions generalizing gone after with
  | nil => rfl
  | cons division rest ih =>
    have hrest : ∀ y ∈ rest, IsDivision element mid y := fun y hy =>
      hdivisions y (List.mem_cons_of_mem _ hy)
    obtain ⟨hbelow, tag, htag, hname⟩ := hdivisions division List.mem_cons_self
    have hcode : ∀ node ∈ (after.children division).nodes, node.tag?.any Tag.isCode = false := by
      intro node hnode
      rw [children_of_cut h wf] at hnode
      obtain ⟨whole, hwhole, rfl⟩ := Forest.exists_of_mem_nodes_prune hnode
      have hsame := hfree.any_eq_false wf (.inr hbelow) whole hwhole
      cases whole <;> exact hsame
    have hsame : showsNothing after division = showsNothing mid division := by
      rw [showsNothing, showsNothing, sights_of_cut h wf hgone]
    rw [List.foldl_cons, dropIfEmpty_eq ((h.rearranges.tag? division).trans htag) hname hcode, hsame]
    by_cases hnothing : showsNothing mid division = true
    · rw [if_pos hnothing, List.filter_cons_of_pos hnothing, List.foldl_cons]
      refine ih (h.detach wf hbelow) (fun y hy => ?_) hrest
      rcases List.mem_append.1 hy with hy | hy
      · exact hgone y hy
      · rw [List.mem_singleton.1 hy]
        exact ⟨hdivisions division List.mem_cons_self, hnothing⟩
    · rw [if_neg hnothing, List.filter_cons_of_neg hnothing]
      exact ih h hgone hrest

/-! ## What becomes of the page -/

theorem mem_selectText_code_iff (wf : dom.WellFormed) :
    x ∈ dom.selectText element "script, style" ↔
      dom.IsBelow element x ∧ ∃ tag, dom.tag? x = some tag ∧ tag.isCode = true := by
  rw [Dom.selectText_code, List.mem_map, ← wf.exists_mem_children_iff]
  simp only [List.mem_filter, and_assoc]

theorem FreeOfCode.of_cut (hfree : FreeOfCode element mid) (h : Dom.Cut element gone mid after)
    (wf : mid.WellFormed) : FreeOfCode element after := fun x tag hbelow htag =>
  hfree x tag (h.isBelow_of_isBelow wf hbelow) ((h.rearranges.tag? x).symm.trans htag)

/-- Code that is taken out leaves what is seen as it was. -/
theorem sights_of_cut_code (wf : before.WellFormed)
    (h : Dom.Cut element (before.selectText element "script, style") before mid) :
    (mid.children element).sights = (before.children element).sights := by
  rw [children_of_cut h wf]
  refine Forest.sights_prune fun node hnode hin => ?_
  obtain ⟨-, tag, htag, htrue⟩ := (mem_selectText_code_iff wf).1 hin
  rw [Dom.tag?, (wf.find?_of_mem_children hnode).1] at htag
  cases node with
  | leaf id content => cases htag
  | element id other children =>
    cases htag
    rw [Node.toForest, Node.consTo, Forest.sights, if_pos htrue]
    rfl

/-- First the code is taken out, and then the divisions of which nothing is seen. -/
theorem exists_cuts_dropEmpty (wf : before.WellFormed) (element : NodeId) :
    ∃ mid hollow, Dom.Cut element (before.selectText element "script, style") before mid ∧
      FreeOfCode element mid ∧ Dom.Cut element hollow mid (dropEmpty before element) ∧
      ∀ y, y ∈ hollow ↔ IsDivision element mid y ∧ showsNothing mid y = true := by
  have hcode := (Dom.Cut.refl element before).detachAll wf
    fun x (hx : x ∈ before.selectText element "script, style") =>
      ((mem_selectText_code_iff wf).1 hx).1
  rw [List.nil_append] at hcode
  rw [dropEmpty]
  generalize (before.selectText element "script, style").foldl Dom.detach before = mid at hcode
  have wf' := hcode.wellFormed wf
  have hfree : FreeOfCode element mid := by
    intro x tag hbelow htag
    rw [hcode.rearranges.tag?] at htag
    by_contra htrue
    exact hcode.notMem_of_isBelow wf hbelow ((mem_selectText_code_iff wf).2
      ⟨hcode.isBelow_of_isBelow wf hbelow, tag, htag, (Bool.not_eq_false _).mp htrue⟩)
  have hhollow (y : NodeId) : y ∈ (namedBelow mid element "div").filter (showsNothing mid) ↔
      IsDivision element mid y ∧ showsNothing mid y = true := by
    rw [List.mem_filter, wf'.mem_namedBelow_iff]
    rfl
  have hsecond := (Dom.Cut.refl element mid).detachAll wf' fun y hy => ((hhollow y).1 hy).1.1
  rw [List.nil_append, ← foldl_dropIfEmpty (.refl element mid) wf' hfree
    (fun _ hy => absurd hy List.not_mem_nil) fun _ hy => wf'.mem_namedBelow_iff.1 hy] at hsecond
  exact ⟨mid, _, hcode, hfree, hsecond, hhollow⟩

/-- Nothing is taken out of an element without code all divisions of which show something. -/
theorem dropEmpty_eq_self (wf : dom.WellFormed) (hfree : FreeOfCode element dom)
    (hshow : ∀ x, IsDivision element dom x → showsNothing dom x = false) :
    dropEmpty dom element = dom := by
  have hcode : dom.selectText element "script, style" = [] := by
    refine List.eq_nil_iff_forall_not_mem.2 fun x hx => ?_
    obtain ⟨hbelow, tag, htag, htrue⟩ := (mem_selectText_code_iff wf).1 hx
    rw [hfree x tag hbelow htag] at htrue
    cases htrue
  have hdivisions : (namedBelow dom element "div").filter (showsNothing dom) = [] := by
    refine List.filter_eq_nil_iff.2 fun x hx => ?_
    rw [hshow x (wf.mem_namedBelow_iff.1 hx)]
    exact Bool.false_ne_true
  rw [dropEmpty, hcode]
  show (namedBelow dom element "div").foldl dropIfEmpty dom = dom
  rw [foldl_dropIfEmpty (.refl element dom) wf hfree (fun _ hy => absurd hy List.not_mem_nil)
    fun _ hy => wf.mem_namedBelow_iff.1 hy, hdivisions]
  rfl

/-- What a division shows is an image or the like below it, or text of its own that is not blank. -/
theorem shows_of_showsNothing_eq_false (wf : dom.WellFormed) (hfree : FreeOfCode element dom)
    (hx : IsDivision element dom x) (hshow : showsNothing dom x = false) :
    (∃ y tag, dom.IsBelow x y ∧ dom.tag? y = some tag ∧ tag.isMedia = true) ∨
      ∃ node, dom.find? x = some node ∧ Text.isBlankText node.text.toList = false := by
  obtain ⟨hbelow, tag, htag, hname⟩ := hx
  obtain ⟨children, hfind⟩ := Dom.exists_find?_of_tag? htag
  have hchildren : dom.children x = children := by
    rw [Dom.children, hfind]
    rfl
  have hread : (Node.element x tag children).text = (dom.children x).text .plain := by
    rw [Node.text, hname, hchildren]
    rfl
  by_contra hnot
  obtain ⟨hmedia, htext⟩ := not_or.1 hnot
  have hnil : (dom.children x).sights = [] := by
    refine (Forest.sights_eq_nil_iff (hfree.any_eq_false wf (.inr hbelow))).2 ⟨?_, fun node hnode => ?_⟩
    · by_contra hblank
      exact htext ⟨_, hfind, by rw [hread]; exact Bool.eq_false_iff.2 hblank⟩
    · by_contra hseen
      obtain ⟨hin, other, hother, htrue⟩ := wf.exists_mem_children_iff.1
        ⟨node, hnode, (Bool.not_eq_false _).mp hseen, rfl⟩
      exact hmedia ⟨node.id, other, hin, hother, htrue⟩
  rw [showsNothing, hnil] at hshow
  cases hshow

/-- A page on which an element was freed of what shows nothing. -/
structure Freed (element : NodeId) (before after : Dom) : Prop where
  /-- Only scripts, style sheets and divisions were taken out, with all that is in them. -/
  cut : ∃ gone, Dom.Cut element gone before after ∧
    ∀ x ∈ gone, ∃ tag, before.tag? x = some tag ∧ (tag.isCode = true ∨ tag.name = "div")
  /-- No script and no style sheet is left. -/
  code : FreeOfCode element after
  /-- Each division that is left shows an image or the like, or text that is not blank. -/
  divisions : ∀ x, IsDivision element after x →
    (∃ y tag, after.IsBelow x y ∧ after.tag? y = some tag ∧ tag.isMedia = true) ∨
      ∃ node, after.find? x = some node ∧ Text.isBlankText node.text.toList = false
  /-- The plain text is what it was outside scripts and style sheets, but for blank characters. -/
  text : Text.visible ((after.children element).text .plain) =
    Text.visible ((before.children element).textOutside .plain)
  /-- Images and the like that were not inside a script or a style sheet are there. -/
  media : ∀ x tag, before.IsBelow element x → before.tag? x = some tag → tag.isMedia = true →
    (∀ outer other, before.IsBelow element outer → before.tag? outer = some other →
      other.isCode = true → ¬before.IsBelow outer x) →
    after.IsBelow element x ∧ after.tag? x = some tag
  /-- To free the element once more changes nothing. -/
  again : dropEmpty after element = after

/-- Images and the like that were not inside code are there as long as the same is seen. -/
private theorem isBelow_of_sights (wf : before.WellFormed)
    (h : (after.children element).sights = (before.children element).sights) {tag : Tag}
    (hbelow : before.IsBelow element x) (htag : before.tag? x = some tag)
    (hmedia : tag.isMedia = true)
    (hout : ∀ outer other, before.IsBelow element outer → before.tag? outer = some other →
      other.isCode = true → ¬before.IsBelow outer x) : after.IsBelow element x := by
  obtain ⟨node, hnode, hseen, rfl⟩ := wf.exists_mem_children_iff.2 ⟨hbelow, tag, htag, hmedia⟩
  have hsight := Forest.mem_sights_of_media hnode hseen fun outer houter hcode hin => by
    obtain ⟨hplace, other, hother, htrue⟩ :=
      wf.exists_mem_children_iff.1 ⟨outer, houter, hcode, rfl⟩
    exact hout _ other hplace hother htrue
      (Dom.isBelow_iff.2 ⟨outer, (wf.find?_of_mem_children houter).1, hin⟩)
  rw [← h] at hsight
  obtain ⟨left, hleft, hid, -⟩ := Forest.exists_of_media_mem_sights hsight
  exact hid ▸ Forest.id_mem_ids hleft

/-- An element is freed of what shows nothing, and of nothing else, in one pass. -/
theorem dropEmpty_frees (wf : before.WellFormed) (element : NodeId) :
    Freed element before (dropEmpty before element) := by
  obtain ⟨mid, hollow, hcode, hfree, hsecond, hhollow⟩ := exists_cuts_dropEmpty wf element
  generalize dropEmpty before element = after at hsecond
  have wf' := hcode.wellFormed wf
  have wf'' := hsecond.wellFormed wf'
  have hfree' := hfree.of_cut hsecond wf'
  have hsame := sights_of_cut hsecond wf' fun y hy => (hhollow y).1 hy
  have hshow : ∀ x, IsDivision element after x → showsNothing after x = false := by
    rintro x ⟨hbelow, tag, htag, hname⟩
    have hdivision : IsDivision element mid x :=
      ⟨hsecond.isBelow_of_isBelow wf' hbelow, tag, (hsecond.rearranges.tag? x).symm.trans htag, hname⟩
    rw [showsNothing, hsame]
    exact Bool.eq_false_iff.2 fun hnothing =>
      hsecond.notMem_of_isBelow wf' hbelow ((hhollow x).2 ⟨hdivision, hnothing⟩)
  have hsights : (after.children element).sights = (before.children element).sights := by
    rw [hsame, sights_of_cut_code wf hcode]
  have htags (x : NodeId) : after.tag? x = before.tag? x := by
    rw [hsecond.rearranges.tag?, hcode.rearranges.tag?]
  refine {
    cut := ⟨_, hcode.trans wf hsecond, fun x hx => ?_⟩
    code := hfree'
    divisions := fun x hx => shows_of_showsNothing_eq_false wf'' hfree' hx (hshow x hx)
    text := ?_
    media := fun x tag hbelow htag hmedia hout =>
      ⟨isBelow_of_sights wf hsights hbelow htag hmedia hout, (htags x).trans htag⟩
    again := dropEmpty_eq_self wf'' hfree' hshow }
  · rcases List.mem_append.1 hx with hx | hx
    · obtain ⟨-, tag, htag, htrue⟩ := (mem_selectText_code_iff wf).1 hx
      exact ⟨tag, htag, .inl htrue⟩
    · obtain ⟨-, tag, htag, hname⟩ := ((hhollow x).1 hx).1
      exact ⟨tag, (hcode.rearranges.tag? x).symm.trans htag, .inr hname⟩
  · rw [← Forest.textOutside_eq_text .plain (hfree'.any_eq_false wf'' (.inl rfl)),
      Forest.visible_textOutside, Forest.visible_textOutside, hsights]

/-- A division with a script, a division that holds an image and an empty division, and a paragraph. -/
def litteredPage : Dom :=
  ⟨.element 0 Dom.documentTag (.element 1 ⟨"div", .unspecified, []⟩
    (.element 2 ⟨"script", .unspecified, []⟩ (.leaf 3 (.text .script "s") .nil)
      (.element 4 ⟨"div", .unspecified, []⟩
        (.element 5 ⟨"img", .unspecified, []⟩ .nil
          (.element 6 ⟨"div", .unspecified, []⟩ (.leaf 7 (.text .plain " ") .nil) .nil))
        (.element 8 ⟨"p", .unspecified, []⟩ (.leaf 9 (.text .plain "x y") .nil) .nil)))
    .nil) .nil, 10, false⟩

/-- The script and the empty division are taken out. -/
theorem dropEmpty_frees_littered :
    litteredPage.WellFormed ∧ Freed 1 litteredPage (dropEmpty litteredPage 1) := by
  have wf : litteredPage.WellFormed := by decide
  exact ⟨wf, dropEmpty_frees wf 1⟩

example : ((dropEmpty litteredPage 1).children 1).ids = [4, 5, 8, 9] := by
  decide

/-- A division in a template, whose text is read by the template alone. -/
def templatePage : Dom :=
  ⟨.element 0 Dom.documentTag (.element 1 ⟨"main", .unspecified, []⟩
    (.element 2 ⟨"template", .unspecified, []⟩
      (.element 3 ⟨"div", .unspecified, []⟩ (.leaf 4 (.text .template "a") .nil) .nil) .nil)
    .nil) .nil, 5, false⟩

/-- Text of a kind that divisions do not read is lost to the element that reads it. -/
theorem dropEmpty_loses_unread_text :
    ¬∀ (dom : Dom) (element : NodeId) (tag : Tag), dom.WellFormed → dom.tag? element = some tag →
      Text.visible (((dropEmpty dom element).children element).textOutside (.ofName tag.name)) =
        Text.visible ((dom.children element).textOutside (.ofName tag.name)) := by
  intro h
  have wf : templatePage.WellFormed := by decide
  exact absurd (h templatePage 2 _ wf rfl) (by decide)

end Strategy

end PageBlocks
