import PageBlocks.Cell.Build
import PageBlocks.Proofs.Cell.Selected
/-!
# Which rows are kept

A row may be told by a single spec, whose values are its columns, or by a list of specs, each of which
tells a column.  A value shows something if it is an element, text of at least one character or a list
of several values.  The row of a single spec is kept when one of its values shows something, and so is
the row of a list of that spec alone, but for one case: when a selector finds a single element and that
comes to empty text, the list keeps the empty text in a column of its own.

## Main results

* `Cell.specYields_of_evaluate` — a spec yields nothing, something that shows, or a single empty text.
* `Cell.keepsRow_iff_shows` — which rows are kept, and when it matters how they are told.
-/

namespace PageBlocks

open PageBlocks.Text

/-- A value shows something: it is an element, text of at least one character or several values. -/
def Value.Shows : Value → Prop
  | .element _ => True
  | .text content => content ≠ ""
  | .list items => 2 ≤ items.length
  | _ => False

theorem Value.IsScalar.shows_or {value : Value} (h : value.IsScalar) :
    value.Shows ∨ value = .text "" := by
  cases h with
  | element id => exact .inl trivial
  | @text content _ =>
    by_cases hcontent : content = ""
    · exact .inr (by rw [hcontent])
    · exact .inl hcontent

namespace Cell

variable {dom after : Dom} {scope : NodeId} {sanitize : Sanitize.Sanitizer} {spec : String}
  {values : List Value}

/-! ## What a single spec yields -/

theorem ComesTo.unique {marked : MarkedSelector} {changes : CellParams} {id : NodeId}
    {value other : Value} (h : ComesTo dom marked changes id value)
    (hother : ComesTo dom marked changes id other) : value = other := by
  cases h with
  | kept hkeeps =>
    cases hother with
    | kept _ => rfl
    | text hnot _ _ => exact absurd hkeeps hnot
  | text hnot hcontent _ =>
    cases hother with
    | kept hkeeps => exact absurd hkeeps hnot
    | text _ hagain _ => rw [Except.ok.inj (hcontent.symm.trans hagain)]

/-- What elements come to shows something, unless it is the empty text of a single one. -/
theorem Gathers.shows_or {fallback value : Value} {item : NodeId → Value → Prop} {ids : List NodeId}
    (h : Gathers fallback item ids value) (hfallback : fallback.Shows)
    (hitem : ∀ id value, item id value → value.IsScalar) :
    value.Shows ∨ value = .text "" ∧ ∃ id, ids = [id] ∧ item id (.text "") := by
  cases h with
  | nothing => exact .inl hfallback
  | @single id _ hone =>
    obtain hshows | rfl := (hitem _ _ hone).shows_or
    · exact .inl hshows
    · exact .inr ⟨rfl, id, rfl, hone⟩
  | several hids hall =>
    left
    show 2 ≤ List.length _
    rw [← hall.length_eq]
    exact hids

/-- The selector of a cell is not empty. -/
theorem shows_of_parse {marked : MarkedSelector} {selector : Selector}
    (h : CellSpec.parse spec.toList = .selector marked selector) :
    (Value.text (String.ofList marked.selector)).Shows := by
  intro hempty
  obtain ⟨-, hselector⟩ := marked_of_parse h
  rw [← String.toList_inj, String.toList_ofList, String.toList_empty] at hempty
  rw [hempty, Selector.parse?_nil] at hselector
  cases hselector

/-- Does a spec find a single element, which comes to empty text? -/
def ReadsEmpty (dom : Dom) (scope : NodeId) (spec : String) : Prop :=
  ∃ marked selector id, CellSpec.parse spec.toList = .selector marked selector ∧
    dom.select scope selector = [id] ∧ ComesTo dom marked .none id (.text "")

/-- What a single spec yields. -/
inductive SpecYields (dom : Dom) (scope : NodeId) (spec : String) : List Value → Prop
  | nothing : ¬ReadsEmpty dom scope spec → SpecYields dom scope spec []
  | shown {value : Value} : ¬ReadsEmpty dom scope spec → value.Shows →
    SpecYields dom scope spec [value]
  | empty : ReadsEmpty dom scope spec → SpecYields dom scope spec [.text ""]

/-- What a selector yields shows something, unless the spec reads empty. -/
theorem specYields_of_gathers {marked : MarkedSelector} {selector : Selector} {value : Value}
    (hparse : CellSpec.parse spec.toList = .selector marked selector)
    (h : Gathers (.text (String.ofList marked.selector)) (ComesTo dom marked .none)
      (dom.select scope selector) value) : SpecYields dom scope spec [value] := by
  obtain hshows | ⟨rfl, id, hids, hempty⟩ :=
    h.shows_or (shows_of_parse hparse) fun _ _ hitem => hitem.isScalar
  · refine .shown ?_ hshows
    rintro ⟨marked', selector', id, hparse', hids, hempty⟩
    obtain ⟨rfl, rfl⟩ := CellSpec.selector.inj (hparse.symm.trans hparse')
    rw [hids] at h
    cases h with
    | single hone =>
      rw [hone.unique hempty] at hshows
      exact hshows rfl
    | several hids _ => exact absurd hids (by simp)
  · exact .empty ⟨marked, selector, id, hparse, hids, hempty⟩

theorem specYields_of_evaluate
    (h : evaluate dom scope (.text spec) .null sanitize = .ok (values, after)) :
    SpecYields dom scope spec values := by
  by_cases hspec : spec = ""
  · subst hspec
    cases h
    refine .nothing ?_
    rintro ⟨marked, selector, id, hparse, -⟩
    cases hparse
  cases hparse : CellSpec.parse spec.toList with
  | selector marked selector =>
    obtain ⟨value, hvalue, hgathers⟩ := evaluate_selector dom scope hparse sanitize
    rw [hvalue] at h
    cases h
    exact specYields_of_gathers hparse hgathers
  | template segments =>
    have hnot : ¬ReadsEmpty dom scope spec := by
      rintro ⟨marked, selector, id, hselector, -⟩
      rw [hparse] at hselector
      cases hselector
    rw [evaluate, if_pos ((Value.isPresent_text spec).2 hspec)] at h
    change evaluateSpecs dom scope .none sanitize [.text spec] = _ at h
    rw [evaluateSpecs, evaluateSpec, hparse] at h
    dsimp only at h
    cases hmade : evaluateTemplate dom scope segments sanitize with
    | error fault =>
      rw [hmade] at h
      cases h
    | ok made =>
      obtain ⟨made, dom'⟩ := made
      rw [hmade] at h
      cases h
      cases made with
      | none => exact .nothing hnot
      | some id => exact .shown hnot trivial

/-! ## Rows -/

/-- Is a row kept among the rows that are built? -/
def KeepsRow (dom : Dom) (scope : NodeId) (sanitize : Sanitize.Sanitizer) (row : Value) : Prop :=
  ∃ built after, buildRows dom scope sanitize [row] = .ok ([built], after)

theorem hasContent_iff_shows {value : Value} (h : value.Shows ∨ value = .text "") :
    hasContent value = true ↔ value.Shows := by
  obtain hshows | rfl := h
  · refine iff_of_true ?_ hshows
    cases value with
    | text content => exact (hasContent_text content).2 hshows
    | element id => rfl
    | list items =>
      cases items with
      | nil => cases hshows
      | cons item items => rfl
    | null | bool _ | integer _ | decimal _ | config _ => exact hshows.elim
  · exact iff_of_false (by simp [hasContent_text]) fun hshows => hshows rfl

/-- A row that is built to columns is kept if one of them holds something. -/
theorem keepsRow_iff_any {row : Value} {columns : List Value}
    (h : buildRow dom scope sanitize row =
      .ok (if columns.any hasContent then some (.list columns) else none, after)) :
    KeepsRow dom scope sanitize row ↔ columns.any hasContent = true := by
  rw [KeepsRow, buildRows, h]
  cases columns.any hasContent <;> simp [buildRows, Except.map]

theorem keepsRow_text_iff
    (h : evaluate dom scope (.text spec) .null sanitize = .ok (values, after)) :
    KeepsRow dom scope sanitize (.text spec) ↔ values.any hasContent = true :=
  keepsRow_iff_any (by simp only [buildRow, h]; rfl)

theorem keepsRow_listed_iff
    (h : evaluate dom scope (.text spec) .null sanitize = .ok (values, after)) :
    KeepsRow dom scope sanitize (.list [.text spec]) ↔ values ≠ [] := by
  have hbuilt : buildColumns dom scope sanitize [.text spec] = .ok ([.list values], after) := by
    rw [buildColumns, h]
    rfl
  have hrow : buildRow dom scope sanitize (.list [.text spec]) =
      .ok (if [Value.list values].any hasContent then some (.list [.list values]) else none, after) := by
    rw [buildRow, hbuilt]
    rfl
  rw [keepsRow_iff_any hrow]
  cases values <;> simp [hasContent]

/-- A row that a single spec tells is kept when one of its values shows something.  A list of that spec
alone is kept then as well, and also when the spec reads empty; just then the two differ. -/
theorem keepsRow_iff_shows
    (h : evaluate dom scope (.text spec) .null sanitize = .ok (values, after)) :
    (KeepsRow dom scope sanitize (.text spec) ↔ ∃ value ∈ values, value.Shows) ∧
      (KeepsRow dom scope sanitize (.list [.text spec]) ↔
        (∃ value ∈ values, value.Shows) ∨ ReadsEmpty dom scope spec) ∧
      ((KeepsRow dom scope sanitize (.list [.text spec]) ↔ KeepsRow dom scope sanitize (.text spec)) ↔
        ¬ReadsEmpty dom scope spec) := by
  rw [keepsRow_text_iff h, keepsRow_listed_iff h]
  cases specYields_of_evaluate h with
  | nothing hnot => simp [hnot]
  | shown hnot hshows => simp [hnot, hshows, hasContent_iff_shows (.inl hshows)]
  | empty hempty => simp [hempty, hasContent_text, Value.Shows]

/-- Two empty paragraphs. -/
def barePage : Dom :=
  pageOf (.element 2 ⟨"p", .unspecified, []⟩ .nil (.element 3 ⟨"p", .unspecified, []⟩ .nil .nil))

/-- The empty texts of two paragraphs are several values, which are kept in either way. -/
theorem keepsRow_bare :
    ∃ values, evaluate barePage 1 (.text "p::text") .null Sanitize.standardSanitizer =
        .ok (values, barePage) ∧
      KeepsRow barePage 1 Sanitize.standardSanitizer (.text "p::text") ∧
      KeepsRow barePage 1 Sanitize.standardSanitizer (.list [.text "p::text"]) ∧
      ¬ReadsEmpty barePage 1 "p::text" := by
  have h : evaluate barePage 1 (.text "p::text") .null Sanitize.standardSanitizer =
      .ok ([.list [.text "", .text ""]], barePage) := by
    rfl
  obtain ⟨hsingle, hlisted, hsame⟩ := keepsRow_iff_shows h
  have hshows : ∃ value ∈ [Value.list [.text "", .text ""]], value.Shows :=
    ⟨_, List.mem_singleton_self _, Nat.le_refl 2⟩
  have hkept := hsingle.2 hshows
  have hkept' := hlisted.2 (.inl hshows)
  exact ⟨_, h, hkept, hkept', hsame.1 (iff_of_true hkept' hkept)⟩

/-- The empty text of one paragraph is kept when a list tells the row, and dropped when a single spec
does. -/
theorem keepsRow_tells_listing :
    let page := pageOf (.element 2 ⟨"p", .unspecified, []⟩ .nil .nil)
    evaluate page 1 (.text "p::text") .null Sanitize.standardSanitizer = .ok ([.text ""], page) ∧
      KeepsRow page 1 Sanitize.standardSanitizer (.list [.text "p::text"]) ∧
      ¬KeepsRow page 1 Sanitize.standardSanitizer (.text "p::text") := by
  intro page
  have hsingle : buildRows page 1 Sanitize.standardSanitizer [.text "p::text"] = .ok ([], page) := by
    rfl
  have hlisted : buildRows page 1 Sanitize.standardSanitizer [.list [.text "p::text"]] =
      .ok ([.list [.list [.text ""]]], page) := by
    rfl
  refine ⟨by rfl, ⟨_, _, hlisted⟩, ?_⟩
  rintro ⟨built, after, hbuilt⟩
  rw [hsingle] at hbuilt
  cases hbuilt

end Cell

end PageBlocks
