import PageBlocks.Proofs.Cell.Faults
import PageBlocks.Proofs.Cell.Fields
import PageBlocks.Proofs.Cell.Frame
import PageBlocks.Proofs.Dom.Shed
import PageBlocks.Proofs.Text.Blank
/-!
# What selectors in cells yield

A selector in a cell always yields one value.  Each element that it finds comes to one item, which is
the element itself or trimmed text of it, and the items stand for the cell in the order of the document:
a single one as it is and several in a list.  Where nothing is found the selector stands for itself.  So
nothing but text and elements is left when the lists among the values are opened.

## Main results

* `Cell.evaluateSelector_gathers` — what one selector yields.
* `Cell.evaluate_selectors` — what a cell yields that is told by selectors.
-/

namespace PageBlocks

open PageBlocks.Text

/-! ## Values -/

/-- A value that is an element, or text without blanks around it. -/
inductive Value.IsScalar : Value → Prop
  | text {content : String} : IsTrimmed content.toList → IsScalar (.text content)
  | element (id : NodeId) : IsScalar (.element id)

/-- Evaluation element by element succeeds when it does so for each of them. -/
theorem Except.mapM_eq_ok_iff {ε α β : Type} {f : α → Except ε β} {xs : List α} {ys : List β} :
    xs.mapM f = .ok ys ↔ List.Forall₂ (fun x y => f x = .ok y) xs ys := by
  induction xs generalizing ys with
  | nil => cases ys <;> simp [pure, Except.pure]
  | cons x xs ih =>
    rw [List.mapM_cons]
    cases hx : f x with
    | error fault => cases ys <;> simp [bind, Except.bind, hx]
    | ok y =>
      cases hxs : xs.mapM f with
      | error fault => cases ys <;> simp [bind, Except.bind, ← ih, hxs, hx]
      | ok rest => cases ys <;> simp [bind, Except.bind, pure, Except.pure, ← ih, hxs, hx]

namespace Cell

variable {dom : Dom} {scope id : NodeId} {marked : MarkedSelector} {changes : CellParams}

/-! ## Single elements -/

/-- Is an element that a selector finds kept as it is?  It then holds something, and neither the
selector nor a replacement asks for text. -/
def KeepsMatch (dom : Dom) (marked : MarkedSelector) (changes : CellParams) (id : NodeId) : Prop :=
  dom.children id ≠ .nil ∧ marked.usesText = false ∧
    MarkedSelector.endsWithAttribute marked.selector = false ∧ changes.replacement = none

/-- What an element that a selector finds comes to. -/
inductive ComesTo (dom : Dom) (marked : MarkedSelector) (changes : CellParams) (id : NodeId) :
    Value → Prop
  | kept : KeepsMatch dom marked changes id → ComesTo dom marked changes id (.element id)
  | text {content : String} : ¬KeepsMatch dom marked changes id →
    changeText changes (elementText dom marked id) = .ok content →
    IsTrimmed content.toList → ComesTo dom marked changes id (.text content)

theorem ComesTo.isScalar {value : Value} (h : ComesTo dom marked changes id value) :
    value.IsScalar := by
  cases h with
  | kept => exact .element id
  | text _ _ htrimmed => exact .text htrimmed

theorem isTrimmed_of_changeText {text content : String} (h : changeText changes text = .ok content) :
    IsTrimmed content.toList := by
  rw [changeText] at h
  cases hreplaced : replaceIn text.toList changes.replacement with
  | error fault =>
    rw [hreplaced] at h
    cases h
  | ok replaced =>
    rw [hreplaced] at h
    cases h
    rw [String.toList_ofList]
    exact isTrimmed_trim _

/-- All that can go wrong with text is its replacement. -/
theorem exists_changeText {text : String}
    (h : (replaceIn text.toList changes.replacement).isOk = true) :
    ∃ content, changeText changes text = .ok content := by
  rw [changeText]
  cases hreplaced : replaceIn text.toList changes.replacement with
  | error fault =>
    rw [hreplaced] at h
    cases h
  | ok replaced => exact ⟨_, rfl⟩

theorem isEmpty_iff_eq_nil {forest : Forest} : forest.isEmpty = true ↔ forest = .nil := by
  cases forest <;> simp [Forest.isEmpty]

/-- Text is asked for, or there is nothing but text, exactly when an element is not kept. -/
theorem not_keepsMatch_iff :
    ((marked.usesText || MarkedSelector.endsWithAttribute marked.selector ||
      changes.replacement.isSome) || (dom.children id).isEmpty) = true ↔
      ¬KeepsMatch dom marked changes id := by
  rw [KeepsMatch, ← Option.isNone_iff_eq_none, ne_eq, ← isEmpty_iff_eq_nil]
  cases marked.usesText <;> cases MarkedSelector.endsWithAttribute marked.selector <;>
    cases changes.replacement <;> cases (dom.children id).isEmpty <;> simp

theorem comesTo_of_matchValue {value : Value} (h : matchValue dom marked changes id = .ok value) :
    ComesTo dom marked changes id value := by
  rw [matchValue] at h
  split at h
  · next htext =>
    obtain ⟨content, hcontent, rfl⟩ := exists_of_map_eq_ok h
    exact .text (not_keepsMatch_iff.1 htext) hcontent (isTrimmed_of_changeText hcontent)
  · next hkeeps =>
    cases h
    exact .kept (not_not.1 fun hnot => hkeeps (not_keepsMatch_iff.2 hnot))

theorem exists_matchValue
    (h : (replaceIn (elementText dom marked id).toList changes.replacement).isOk = true) :
    ∃ value, matchValue dom marked changes id = .ok value := by
  rw [matchValue]
  split
  · obtain ⟨content, hcontent⟩ := exists_changeText h
    exact ⟨.text content, by rw [hcontent]; rfl⟩
  · exact ⟨.element id, rfl⟩

/-! ## One selector -/

/-- The value that stands for what elements come to, which are given in the order of the document. -/
inductive Gathers (fallback : Value) (item : NodeId → Value → Prop) : List NodeId → Value → Prop
  | nothing : Gathers fallback item [] fallback
  | single {id : NodeId} {value : Value} : item id value → Gathers fallback item [id] value
  | several {ids : List NodeId} {values : List Value} : 2 ≤ ids.length →
    List.Forall₂ item ids values → Gathers fallback item ids (.list values)

theorem gathers_gather {fallback : Value} {item : NodeId → Value → Prop} {ids : List NodeId}
    {values : List Value} (h : List.Forall₂ item ids values) :
    Gathers fallback item ids (gather fallback values) := by
  cases h with
  | nil => exact .nothing
  | cons hfirst hrest =>
    cases hrest with
    | nil => exact .single hfirst
    | cons hsecond hrest =>
      exact .several (by simp) (.cons hfirst (.cons hsecond hrest))

/-- A condition on the second members of related ones holds of all of them. -/
theorem forall_mem_of_forall₂ {α β : Type} {R : α → β → Prop} {p : β → Prop} {xs : List α}
    {ys : List β} (h : List.Forall₂ R xs ys) (hp : ∀ x y, R x y → p y) : ∀ y ∈ ys, p y := by
  induction h with
  | nil => exact List.forall_mem_nil _
  | cons hfirst _ ih => exact List.forall_mem_cons.2 ⟨hp _ _ hfirst, ih⟩

theorem forall_mem_itemsOrSelf {value : Value} (h : value.IsScalar) :
    ∀ piece ∈ value.itemsOrSelf, piece.IsScalar := by
  cases h with
  | text htrimmed => exact List.forall_mem_singleton.2 (.text htrimmed)
  | element id => exact List.forall_mem_singleton.2 (.element id)

/-- Opening a list once leaves nothing but scalars, if all items are scalars. -/
theorem Gathers.isScalar {fallback value : Value} {item : NodeId → Value → Prop} {ids : List NodeId}
    (h : Gathers fallback item ids value) (hfallback : fallback.IsScalar)
    (hitem : ∀ id value, item id value → value.IsScalar) :
    ∀ piece ∈ value.itemsOrSelf, piece.IsScalar := by
  cases h with
  | nothing => exact forall_mem_itemsOrSelf hfallback
  | single hone => exact forall_mem_itemsOrSelf (hitem _ _ hone)
  | several _ hall => exact forall_mem_of_forall₂ hall hitem

/-- What one selector yields, if the replacement succeeds on the text of all that it finds. -/
theorem evaluateSelector_gathers {selector : Selector}
    (h : ∀ id ∈ dom.select scope selector,
      (replaceIn (elementText dom marked id).toList changes.replacement).isOk = true) :
    ∃ value, evaluateSelector dom scope marked selector changes = .ok value ∧
      Gathers (.text (String.ofList marked.selector)) (ComesTo dom marked changes)
        (dom.select scope selector) value := by
  rw [evaluateSelector]
  cases hvalues : (dom.select scope selector).mapM (matchValue dom marked changes) with
  | error fault =>
    obtain ⟨id, hid, hfault⟩ := exists_of_mapM_eq_error hvalues
    obtain ⟨value, hvalue⟩ := exists_matchValue (h id hid)
    rw [hvalue] at hfault
    cases hfault
  | ok values =>
    have hall := (Except.mapM_eq_ok_iff.1 hvalues).imp fun _ _ hmatch => comesTo_of_matchValue hmatch
    exact ⟨_, rfl, gathers_gather hall⟩

/-! ## Cells -/

/-- A value is what a selector yields: the elements that it finds, in the order of the document, come
to an item each, and where there are none the selector without its markers stands for itself. -/
def SelectorYields (dom : Dom) (scope : NodeId) (changes : CellParams) (spec : String)
    (value : Value) : Prop :=
  ∃ marked selector, CellSpec.parse spec.toList = .selector marked selector ∧
    (dom.select scope selector).Sublist (dom.children scope).ids ∧
    Gathers (.text (String.ofList marked.selector)) (ComesTo dom marked changes)
      (dom.select scope selector) value

theorem marked_of_parse {text : List Char} {selector : Selector}
    (h : CellSpec.parse text = .selector marked selector) :
    marked = MarkedSelector.parse text ∧ Selector.parse? marked.selector = some selector := by
  rw [CellSpec.parse] at h
  split at h
  · next query hquery =>
    cases h
    exact ⟨rfl, hquery⟩
  · cases h

/-- A cell of one selector, with text taken as it is, yields one value. -/
theorem evaluate_selector (dom : Dom) (scope : NodeId) {spec : String} {selector : Selector}
    (hparse : CellSpec.parse spec.toList = .selector marked selector)
    (sanitize : Sanitize.Sanitizer) :
    ∃ value, evaluate dom scope (.text spec) .null sanitize = .ok ([value], dom) ∧
      Gathers (.text (String.ofList marked.selector)) (ComesTo dom marked .none)
        (dom.select scope selector) value := by
  have hreplaces : ∀ id ∈ dom.select scope selector,
      (replaceIn (elementText dom marked id).toList CellParams.none.replacement).isOk = true :=
    fun _ _ => rfl
  obtain ⟨value, hvalue, hgathers⟩ := evaluateSelector_gathers hreplaces
  have hpresent : (Value.text spec).isPresent = true := by
    rw [Value.isPresent_text]
    rintro rfl
    cases hparse
  refine ⟨value, ?_, hgathers⟩
  rw [evaluate, if_pos hpresent]
  show evaluateSpecs dom scope .none sanitize [.text spec] = _
  rw [evaluateSpecs, evaluateSpec]
  simp only [hparse, hvalue]
  rfl

theorem SelectorYields.isScalar {spec : String} {value : Value}
    (h : SelectorYields dom scope changes spec value) : ∀ piece ∈ value.itemsOrSelf, piece.IsScalar := by
  obtain ⟨marked, selector, hparse, -, hgathers⟩ := h
  refine hgathers.isScalar (.text ?_) fun _ _ hitem => hitem.isScalar
  rw [String.toList_ofList, (marked_of_parse hparse).1]
  exact isTrimmed_trim _

end Cell

end PageBlocks
