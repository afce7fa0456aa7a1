import PageBlocks.Proofs.Html.Harmless
/-!
# Harmless states of tree construction

A state of tree construction is harmless when all elements of the page are, and no script is among
the elements that are open, may be reopened or may be gone back to.  Each operation that the rules
are put together from keeps a state harmless, when the element that it starts is harmless.

Copies of an element are made of the name that an open element has and of the attributes that stand
in the page, and so they are harmless as well.

## Main results

* `Builder.Harmless.insert` — a harmless element may be started.
* `Builder.Harmless.addAttributes` — missing attributes may be added.
* `Builder.Harmless.reopenFormatting` — formatting elements may be reopened.
* `Builder.Harmless.endFormatting` — the repair of overlapping formatting makes harmless copies.
-/

namespace PageBlocks.Html

/-- The elements of the page are harmless, and no script is remembered. -/
structure Builder.Harmless (b : Builder) : Prop where
  dom : b.dom.EveryTag Tag.Harmless
  stack : ∀ element ∈ b.stack, element.name ≠ "script"
  formatting : ∀ entry ∈ b.formatting, ∀ element ∈ entry, element.name ≠ "script"
  head : ∀ element ∈ b.head, element.name ≠ "script"
  content : b.content.Fits

namespace Builder

attribute [grind ←] Harmless.content

theorem harmless_initial : Builder.initial.Harmless :=
  ⟨⟨harmless_documentTag, trivial, trivial⟩, by simp [initial], by simp [initial],
    by simp [initial], trivial⟩

namespace Harmless

variable {b : Builder} (h : b.Harmless)

include h

/-- Elements may be forgotten, and all else but the page may change. -/
theorem of_subset {other : Builder} (hdom : other.dom = b.dom) (hstack : other.stack ⊆ b.stack)
    (hformatting : other.formatting ⊆ b.formatting) (hhead : other.head = b.head)
    (hcontent : other.content = b.content) : other.Harmless where
  dom := by rw [hdom]; exact h.dom
  stack element helement := h.stack element (hstack helement)
  formatting entry hentry := h.formatting entry (hformatting hentry)
  head := by rw [hhead]; exact h.head
  content := by rw [hcontent]; exact h.content

/-- Flags and modes do not matter. -/
@[grind ←]
theorem withFlags (mode returnMode : Mode) (pendingText : List (List Char))
    (form : Option OpenElement) (framesetOk quirks fosterParenting dropsLineBreak : Bool)
    {content : Content} (hcontent : content.Fits) :
    Builder.Harmless ⟨b.dom, b.stack, b.formatting, mode, returnMode, pendingText, b.head, form,
      framesetOk, quirks, fosterParenting, dropsLineBreak, content⟩ :=
  ⟨h.dom, h.stack, h.formatting, h.head, hcontent⟩

theorem withDom {dom : Dom} (hdom : dom.EveryTag Tag.Harmless) : { b with dom := dom }.Harmless :=
  ⟨hdom, h.stack, h.formatting, h.head, h.content⟩

theorem withStack {stack : List OpenElement} (hstack : stack ⊆ b.stack) :
    { b with stack := stack }.Harmless :=
  h.of_subset rfl hstack (List.Subset.refl _) rfl rfl

theorem withFormatting {formatting : List (Option OpenElement)}
    (hformatting : formatting ⊆ b.formatting) : { b with formatting := formatting }.Harmless :=
  h.of_subset rfl (List.Subset.refl _) hformatting rfl rfl

/-! ## Closing elements -/

@[grind ←]
theorem pop : b.pop.Harmless :=
  h.withStack (List.drop_subset 1 _)

@[grind ←]
theorem closeImplied (exceptName : String) : (b.closeImplied exceptName).Harmless := by
  apply h.withStack
  generalize b.stack = stack
  induction stack with
  | nil => exact List.Subset.refl _
  | cons element outer ih =>
    unfold Html.closeImplied
    split
    · exact fun x hx => List.mem_cons_of_mem _ (ih hx)
    · exact List.Subset.refl _

@[grind ←]
theorem closeThrough (test : OpenElement → Bool) :
    { b with stack := Html.closeThrough test b.stack }.Harmless :=
  h.withStack fun _ hx => List.dropWhile_subset _ (List.drop_subset 1 _ hx)

@[grind ←]
theorem closeThroughName (name : String) : (b.closeThroughName name).Harmless :=
  h.closeThrough _

@[grind ←]
theorem closeUntilNames (names : List String) : (b.closeUntilNames names).Harmless :=
  h.withStack (List.dropWhile_subset _)

@[grind ←]
theorem removeOpen (element : OpenElement) : (b.removeOpen element).Harmless :=
  h.withStack fun _ hx => (List.mem_filter.1 hx).1

@[grind ←]
theorem enter (mode : Mode) : (b.enter mode).Harmless :=
  h.withFlags _ _ _ _ _ _ _ _ h.content

@[grind ←]
theorem forbidFrameset : b.forbidFrameset.Harmless :=
  h.withFlags _ _ _ _ _ _ _ _ h.content

/-! ## Inserting nodes -/

theorem placeNode (place : NodeId ⊕ NodeId) (node : NodeId) : (b.placeNode place node).Harmless := by
  cases place with
  | inl next => exact h.withDom (h.dom.insertBefore next node)
  | inr parent => exact h.withDom (h.dom.append parent node)

/-- A harmless element may be started. -/
@[grind ←]
theorem insert {name : String} (hname : name ≠ "script") {attributes : List (String × String)}
    (hattributes : HarmlessAttributes attributes) (vocabulary : Vocabulary) :
    (b.insert name attributes vocabulary).Harmless := by
  have htag : Tag.Harmless ⟨name, vocabulary, keptAttributes name attributes⟩ :=
    ⟨hname, hattributes.kept name⟩
  have hplaced := (h.withDom (h.dom.createElement htag)).placeNode
    (if b.isMisplaced then b.fosterPlace else .inr b.currentId) b.dom.fresh
  refine ⟨hplaced.dom, ?_, hplaced.formatting, hplaced.head, hplaced.content⟩
  intro element helement
  rcases List.mem_cons.1 helement with rfl | hold
  · exact hname
  · exact h.stack element hold

@[grind ←]
theorem insertHtml {name : String} (hname : name ≠ "script")
    {attributes : List (String × String)} (hattributes : HarmlessAttributes attributes) :
    (b.insertHtml name attributes).Harmless :=
  h.insert hname hattributes .html

@[grind ←]
theorem insertVoid {name : String} (hname : name ≠ "script")
    {attributes : List (String × String)} (hattributes : HarmlessAttributes attributes) :
    (b.insertVoid name attributes).Harmless :=
  (h.insertHtml hname hattributes).pop

theorem placeText (place : NodeId ⊕ NodeId) (content : String) :
    (b.placeText place content).Harmless := by
  have hnew := (h.withDom (h.dom.createLeaf (.text .plain content))).placeNode place b.dom.fresh
  unfold Builder.placeText
  dsimp only
  split
  · exact h.withDom (h.dom.replaceLeaf _ _)
  · exact hnew

@[grind ←]
theorem insertText (content : List Char) : (b.insertText content).Harmless := by
  unfold Builder.insertText
  split
  · exact h
  · exact h.placeText _ _

@[grind ←]
theorem insertComment (parent : NodeId) (content : String) :
    (b.insertComment parent content).Harmless :=
  h.withDom ((h.dom.createLeaf _).append parent _)

/-- Missing attributes may be added. -/
@[grind ←]
theorem addAttributes (element : OpenElement) {attributes : List (String × String)}
    (hattributes : HarmlessAttributes attributes) :
    (b.addAttributes element attributes).Harmless := by
  refine h.withDom (h.dom.modify element.id fun tag children htag hchildren => ⟨?_, hchildren⟩)
  -- the attributes are added one after another
  clear hchildren
  induction attributes generalizing tag with
  | nil => exact htag
  | cons entry rest ih =>
    have hrest : HarmlessAttributes rest := fun other hother =>
      hattributes other (List.mem_cons_of_mem _ hother)
    simp only [List.foldl_cons]
    split
    · exact ih hrest tag htag
    · exact ih hrest _ (htag.setAttribute ((hattributes entry List.mem_cons_self).kept tag.name))

@[grind ←]
theorem insertTextElement {name : String} (hname : name ≠ "script")
    {attributes : List (String × String)} (hattributes : HarmlessAttributes attributes)
    {content : Content} (hcontent : content.Fits) :
    (b.insertTextElement name attributes content).Harmless :=
  (h.insertHtml hname hattributes).withFlags _ _ _ _ _ _ _ _ hcontent

/-! ## Formatting elements -/

theorem mem_openFormatting {element : OpenElement} (helement : element ∈ b.openFormatting) :
    element.name ≠ "script" := by
  obtain ⟨entry, hentry, heq⟩ := List.mem_filterMap.1 helement
  exact h.formatting entry (List.takeWhile_subset _ hentry) element heq

theorem formattingElement? {name : String} {element : OpenElement}
    (helement : b.formattingElement? name = some element) : element.name ≠ "script" :=
  h.mem_openFormatting (List.mem_of_find?_eq_some helement)

@[grind ←]
theorem removeFormatting (element : OpenElement) : (b.removeFormatting element).Harmless :=
  h.withFormatting fun _ hx => (List.mem_filter.1 hx).1

theorem pushFormatting {entry : Option OpenElement}
    (hentry : ∀ element ∈ entry, element.name ≠ "script") :
    { b with formatting := entry :: b.formatting }.Harmless := by
  refine ⟨h.dom, h.stack, fun other hother => ?_, h.head, h.content⟩
  rcases List.mem_cons.1 hother with rfl | hold
  · exact hentry
  · exact h.formatting other hold

@[grind ←]
theorem insertFormatting {name : String} (hname : name ≠ "script")
    {attributes : List (String × String)} (hattributes : HarmlessAttributes attributes) :
    (b.insertFormatting name attributes).Harmless := by
  have hstarted := h.insertHtml hname hattributes
  exact hstarted.pushFormatting fun element helement =>
    hstarted.stack element (List.mem_of_mem_head? helement)

@[grind ←]
theorem pushMarker : b.pushMarker.Harmless :=
  h.pushFormatting (by simp)

@[grind ←]
theorem clearToMarker : b.clearToMarker.Harmless :=
  h.withFormatting fun _ hx => List.dropWhile_subset _ (List.drop_subset 1 _ hx)

/-- The attributes that stand in the page are harmless. -/
theorem attributes (element : OpenElement) :
    HarmlessAttributes (((b.dom.tag? element.id).map (·.attributes)).getD []) := by
  cases htag : b.dom.tag? element.id with
  | none => exact harmlessAttributes_nil
  | some tag => exact (h.dom.tag? htag).attributes

theorem copyElement {element : OpenElement} (hname : element.name ≠ "script") :
    (b.copyElement element).2.Harmless :=
  h.withDom (h.dom.createElement ⟨hname, h.attributes element⟩)

theorem replaceFormatting (old : OpenElement) {new : OpenElement} (hnew : new.name ≠ "script") :
    (b.replaceFormatting old new).Harmless := by
  refine ⟨h.dom, h.stack, fun entry hentry => ?_, h.head, h.content⟩
  obtain ⟨before, hbefore, rfl⟩ := List.mem_map.1 hentry
  split
  · rintro element ⟨⟩
    exact hnew
  · exact h.formatting before hbefore

theorem reopen {element : OpenElement} (hname : element.name ≠ "script") :
    (b.reopen element).Harmless := by
  have hstarted := h.insert hname (h.attributes element) element.vocabulary
  unfold Builder.reopen
  dsimp only
  split
  · next copy hcopy =>
    exact hstarted.replaceFormatting element
      (hstarted.stack copy (List.mem_of_mem_head? hcopy))
  · exact hstarted

@[grind ←]
theorem reopenFormatting : b.reopenFormatting.Harmless := by
  have hnames : ∀ element ∈ (b.openFormatting.takeWhile (!b.isOpen ·)).reverse,
      element.name ≠ "script" := fun element helement =>
    h.mem_openFormatting (List.takeWhile_subset _ (List.mem_reverse.1 helement))
  unfold Builder.reopenFormatting
  -- each element is reopened in the state that the ones before it have led to
  generalize (b.openFormatting.takeWhile (!b.isOpen ·)).reverse = elements at hnames
  induction elements generalizing b with
  | nil => exact h
  | cons element rest ih =>
    exact ih (h.reopen (hnames element List.mem_cons_self)) fun other hother =>
      hnames other (List.mem_cons_of_mem _ hother)

/-! ## Overlapping formatting -/

theorem insertFormattingAt (position : Nat) {element : OpenElement}
    (hname : element.name ≠ "script") : (b.insertFormattingAt position element).Harmless := by
  refine ⟨h.dom, h.stack, fun entry hentry => ?_, h.head, h.content⟩
  rcases List.mem_append.1 (List.mem_reverse.1 hentry) with hfront | hback
  · exact h.formatting entry (List.mem_reverse.1 (List.mem_of_mem_take hfront))
  · rcases List.mem_cons.1 hback with rfl | hback
    · rintro other ⟨⟩
      exact hname
    · exact h.formatting entry (List.mem_reverse.1 (List.mem_of_mem_drop hback))

theorem replaceOpen (old : OpenElement) {new : OpenElement} (hnew : new.name ≠ "script") :
    (b.replaceOpen old new).Harmless := by
  refine ⟨h.dom, fun element helement => ?_, h.formatting, h.head, h.content⟩
  obtain ⟨before, hbefore, rfl⟩ := List.mem_map.1 helement
  split
  · exact hnew
  · exact h.stack before hbefore

theorem wrapBetween (furthest : OpenElement) (rounds : Nat) {between : List OpenElement}
    (hbetween : ∀ element ∈ between, element.name ≠ "script") (last : OpenElement)
    (bookmark : Nat) : (wrapBetween furthest rounds between last bookmark b).2.2.Harmless := by
  induction rounds generalizing between last bookmark b with
  | zero => exact h
  | succ rounds ih =>
    cases between with
    | nil => exact h
    | cons element between =>
      have hname := hbetween element List.mem_cons_self
      have hrest : ∀ other ∈ between, other.name ≠ "script" := fun other hother =>
        hbetween other (List.mem_cons_of_mem _ hother)
      unfold Builder.wrapBetween
      split
      · exact ih (h.removeOpen element) hrest last bookmark
      · have hcopy : (b.copyElement element).1.name ≠ "script" := hname
        have hcopied := ((h.copyElement hname).replaceFormatting element hcopy).replaceOpen
          element hcopy
        exact ih (hcopied.withDom (hcopied.dom.append _ _)) hrest _ _

theorem moveToFosterPlace (node : NodeId) : (b.moveToFosterPlace node).Harmless :=
  h.placeNode _ _

theorem moveOut (ancestor : OpenElement) (node : NodeId) :
    (if tableLevelNames.contains ancestor.name then b.moveToFosterPlace node
      else { b with dom := b.dom.append ancestor.id node }).Harmless := by
  split
  · exact h.moveToFosterPlace node
  · exact h.withDom (h.dom.append _ _)

theorem splitFormatting {element : OpenElement} (hname : element.name ≠ "script")
    (furthest : OpenElement) : (b.splitFormatting element furthest).Harmless := by
  have hbetween : ∀ other ∈ ((b.stack.dropWhile (·.id ≠ furthest.id)).drop 1).takeWhile
      (·.id ≠ element.id), other.name ≠ "script" := fun other hother =>
    h.stack other (List.dropWhile_subset _ (List.drop_subset 1 _ (List.takeWhile_subset _ hother)))
  have hwrapped := h.wrapBetween furthest 3 hbetween furthest ((b.formattingIndex? element).getD 0)
  unfold Builder.splitFormatting
  dsimp only
  generalize Builder.wrapBetween _ _ _ _ _ _ = wrapped at hwrapped ⊢
  obtain ⟨last, bookmark, b'⟩ := wrapped
  dsimp only at hwrapped ⊢
  generalize ((b.stack.dropWhile (·.id ≠ element.id)).drop 1).head?.getD element = ancestor
  have hplaced := hwrapped.moveOut ancestor last.id
  generalize (if tableLevelNames.contains ancestor.name then b'.moveToFosterPlace last.id
    else { b' with dom := b'.dom.append ancestor.id last.id }) = placed at hplaced ⊢
  have hcopied := hplaced.copyElement hname
  have hmoved := hcopied.withDom
    ((hcopied.dom.appendChildren (placed.copyElement element).1.id furthest.id).append furthest.id
      (placed.copyElement element).1.id)
  have hcopy : (placed.copyElement element).1.name ≠ "script" := hname
  have hlisted := ((hmoved.removeFormatting element).insertFormattingAt bookmark hcopy).removeOpen
    element
  refine ⟨hlisted.dom, fun other hother => ?_, hlisted.formatting, hlisted.head,
    hlisted.content⟩
  rcases List.mem_append.1 hother with hinner | houter
  · exact h.stack other (List.takeWhile_subset _ hinner)
  · rcases List.mem_cons.1 houter with rfl | hrest
    · exact hname
    · exact hlisted.stack other (List.drop_subset _ _ hrest)

@[grind ←]
theorem endOther (name : String) : (b.endOther name).Harmless := by
  unfold Builder.endOther
  split
  · split
    · exact (h.closeImplied name).closeThrough _
    · exact h
  · exact h

/-- The repair of overlapping formatting makes harmless copies. -/
@[grind ←]
theorem endFormatting (rounds : Nat) (name : String) : (endFormatting rounds name b).Harmless := by
  induction rounds generalizing b with
  | zero => exact h
  | succ rounds ih =>
    unfold Builder.endFormatting
    split
    · exact h.endOther name
    · next element helement =>
      split
      · exact h.removeFormatting element
      split
      · exact h.endOther name
      split
      · exact (h.closeThrough _).removeFormatting element
      · next furthest _ => exact ih (h.splitFormatting (h.formattingElement? helement) furthest)

end Harmless

end Builder

end PageBlocks.Html
