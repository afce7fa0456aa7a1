import PageBlocks.Cell.Build
/-!
# What goes wrong with cells of the known shapes

Cells are told by texts, in rows or in fields, where the fields may hang on conditions and change the
text that they take.  When they have these shapes they can be taken apart, and all that goes wrong with
them comes from what they are evaluated with: an expression whose replacement fails, or markup that the
sanitizer takes for a page without a single body.

## Main results

* `Cell.evaluate_leaks` — what goes wrong with a cell.
* `Cell.buildRows_leaks`, `Cell.buildFields_leaks` — what goes wrong with rows and with fields.
-/

namespace PageBlocks

/-! ## Shapes -/

namespace Value

/-- A cell that is told by a text, or by several. -/
inductive IsCell : Value → Prop
  | spec (content : String) : IsCell (.text content)
  | specs {items : List Value} : (∀ item ∈ items, ∃ content, item = .text content) → IsCell (.list items)

/-- A row that is told by a text, or by its columns. -/
inductive IsRow : Value → Prop
  | spec (content : String) : IsRow (.text content)
  | columns {columns : List Value} : (∀ column ∈ columns, column.IsCell) → IsRow (.list columns)

/-- A condition, a cell, and changes to its text. -/
inductive IsEntry : Value → Prop
  | entry (condition spec : String) {params : Value} {changes : CellParams} :
    Cell.readParams params = .ok changes → IsEntry (.list [.text condition, .text spec, params])

/-- A field that is told by a text, or by entries of which the first one counts whose condition is met. -/
inductive IsField : Value → Prop
  | spec (content : String) : IsField (.text content)
  | entries {entries : List Value} : (∀ entry ∈ entries, entry.IsEntry) → IsField (.list entries)

/-- Cells that are told by a selector of rows, by rows, or by fields, if they are told at all. -/
inductive IsCells : Value → Prop
  | absent : IsCells .null
  | selector (content : String) : IsCells (.text content)
  | rows {rows : List Value} : (∀ row ∈ rows, row.IsRow) → IsCells (.list rows)
  | fields {fields : List (String × Value)} : (∀ field ∈ fields, field.2.IsField) →
    IsCells (.config fields)

/-- A text that cells tell what to take by, with the changes to what is taken. -/
inductive Tells : Value → String → CellParams → Prop
  | row {rows : List Value} {spec : String} : .text spec ∈ rows → Tells (.list rows) spec .none
  | column {rows columns : List Value} {spec : String} : .list columns ∈ rows →
    .text spec ∈ columns → Tells (.list rows) spec .none
  | part {rows columns specs : List Value} {spec : String} : .list columns ∈ rows →
    .list specs ∈ columns → .text spec ∈ specs → Tells (.list rows) spec .none
  | field {fields : List (String × Value)} {name spec : String} : (name, .text spec) ∈ fields →
    Tells (.config fields) spec .none
  | entry {fields : List (String × Value)} {entries : List Value} {name condition spec : String}
      {params : Value} {changes : CellParams} : (name, .list entries) ∈ fields →
    .list [.text condition, .text spec, params] ∈ entries → Cell.readParams params = .ok changes →
    Tells (.config fields) spec changes

end Value

/-- What goes wrong with cells although they have the known shapes: a replacement fails, as it would on
any text, or markup that is filled in is a page without a single body. -/
inductive CellFault.Leaks (sanitize : Sanitize.Sanitizer) (tells : String → CellParams → Prop) :
    CellFault → Prop
  | replacement {spec : String} {changes : CellParams} {fault : CellFault} : tells spec changes →
    Cell.replaceIn [] changes.replacement = .error fault → Leaks sanitize tells fault
  | body {spec : String} {changes : CellParams} {segments : List Segment} {dom : Dom}
      {scope : NodeId} : tells spec changes → CellSpec.parse spec.toList = .template segments →
    sanitize (Cell.fill dom scope segments) = .error .noSingleBody →
    Leaks sanitize tells .noSingleBody

namespace Cell

variable {dom : Dom} {scope : NodeId} {sanitize : Sanitize.Sanitizer} {fault : CellFault}
  {tells : String → CellParams → Prop} {changes : CellParams}

theorem map_eq_error {ε α β : Type} {f : α → β} {result : Except ε α} {fault : ε} :
    result.map f = .error fault ↔ result = .error fault := by
  cases result <;> simp [Except.map]

theorem exists_of_mapM_eq_error {ε α β : Type} {f : α → Except ε β} {items : List α} {fault : ε}
    (h : items.mapM f = .error fault) : ∃ item ∈ items, f item = .error fault := by
  induction items with
  | nil => cases h
  | cons item items ih =>
    rw [List.mapM_cons] at h
    cases hitem : f item with
    | error other =>
      rw [hitem] at h
      cases h
      exact ⟨item, List.mem_cons_self, hitem⟩
    | ok first =>
      cases hitems : items.mapM f with
      | error other =>
        rw [hitem, hitems] at h
        cases h
        obtain ⟨other, hother, hfault⟩ := ih hitems
        exact ⟨other, .tail _ hother, hfault⟩
      | ok rest =>
        rw [hitem, hitems] at h
        cases h

/-! ## Cells -/

/-- Whether a replacement fails, and how, does not hang on the text. -/
theorem replaceFirst_error {pattern replacement text other : List Char} {failure : Regex.ReplaceFault}
    (h : Regex.replaceFirst pattern replacement text = .error failure) :
    Regex.replaceFirst pattern replacement other = .error failure := by
  cases hpattern : Regex.parse pattern with
  | error reason =>
    rw [Regex.replaceFirst_of_malformed hpattern] at h ⊢
    exact h
  | ok expression =>
    simp only [Regex.replaceFirst, hpattern] at h ⊢
    cases hparse : Regex.Replacement.parse expression replacement with
    | error reason =>
      rw [hparse] at h
      exact h
    | ok parts =>
      rw [hparse] at h
      simp only [bind, Except.bind] at h
      split at h <;> cases h

theorem replaceIn_error {text other : List Char} {replacement : Option (String × Option String)}
    (h : replaceIn text replacement = .error fault) : replaceIn other replacement = .error fault := by
  cases replacement with
  | none => cases h
  | some told =>
    obtain ⟨pattern, replacement⟩ := told
    rw [replaceIn] at h ⊢
    cases hreplace : Regex.replaceFirst pattern.toList (replacement.getD "").toList text with
    | ok replaced =>
      rw [hreplace] at h
      cases h
    | error failure =>
      rw [replaceFirst_error hreplace]
      rw [hreplace] at h
      split at h <;> cases h <;> rfl

/-- All that goes wrong with text from the page is its replacement. -/
theorem changeText_error {text : String} (h : changeText changes text = .error fault) :
    replaceIn [] changes.replacement = .error fault := by
  unfold changeText at h
  cases hreplace : replaceIn text.toList changes.replacement with
  | error other =>
    rw [hreplace] at h
    cases h
    exact replaceIn_error hreplace
  | ok text =>
    rw [hreplace] at h
    cases h

theorem evaluateSelector_error {marked : MarkedSelector} {selector : Selector}
    (h : evaluateSelector dom scope marked selector changes = .error fault) :
    replaceIn [] changes.replacement = .error fault := by
  obtain ⟨id, -, hmatch⟩ := exists_of_mapM_eq_error (map_eq_error.1 h)
  rw [matchValue] at hmatch
  split at hmatch
  · exact changeText_error (map_eq_error.1 hmatch)
  · cases hmatch

theorem evaluateTemplate_error {segments : List Segment}
    (h : evaluateTemplate dom scope segments sanitize = .error fault) :
    fault = .noSingleBody ∧ sanitize (fill dom scope segments) = .error .noSingleBody := by
  rw [evaluateTemplate] at h
  split at h
  · next hsanitize =>
    cases h
    exact ⟨rfl, hsanitize⟩
  · cases h
  · split at h <;> cases h

theorem evaluateSpec_leaks {spec : String} (htells : tells spec changes)
    (h : evaluateSpec dom scope changes sanitize (.text spec) = .error fault) :
    fault.Leaks sanitize tells := by
  rw [evaluateSpec] at h
  split at h
  · exact .replacement htells (evaluateSelector_error (map_eq_error.1 h))
  · next segments hparse =>
    obtain ⟨rfl, hsanitize⟩ := evaluateTemplate_error (map_eq_error.1 h)
    exact .body htells hparse hsanitize

theorem evaluateSpecs_leaks {specs : List Value}
    (hspecs : ∀ item ∈ specs, ∃ spec, item = .text spec ∧ tells spec changes) :
    ∀ {dom : Dom}, evaluateSpecs dom scope changes sanitize specs = .error fault →
      fault.Leaks sanitize tells := by
  induction specs with
  | nil =>
    intro dom h
    cases h
  | cons item specs ih =>
    intro dom h
    obtain ⟨spec, rfl, htells⟩ := hspecs item List.mem_cons_self
    rw [evaluateSpecs] at h
    split at h
    · next hspec =>
      cases h
      exact evaluateSpec_leaks htells hspec
    · exact ih (fun other hother => hspecs other (.tail _ hother)) (map_eq_error.1 h)

/-- What goes wrong with a cell, whose changes can be read. -/
theorem evaluate_leaks {cell params : Value} (hparams : readParams params = .ok changes)
    (hcell : ∀ item ∈ cell.itemsOrSelf, ∃ spec, item = .text spec ∧ tells spec changes)
    (h : evaluate dom scope cell params sanitize = .error fault) : fault.Leaks sanitize tells := by
  rw [evaluate] at h
  split at h
  · rw [hparams] at h
    exact evaluateSpecs_leaks hcell h
  · cases h

theorem readParams_null : readParams .null = .ok .none := rfl

/-! ## Rows -/

theorem buildColumns_leaks {columns : List Value}
    (hcolumns : ∀ column ∈ columns, ∀ item ∈ column.itemsOrSelf,
      ∃ spec, item = .text spec ∧ tells spec .none) :
    ∀ {dom : Dom}, buildColumns dom scope sanitize columns = .error fault →
      fault.Leaks sanitize tells := by
  induction columns with
  | nil =>
    intro dom h
    cases h
  | cons column columns ih =>
    intro dom h
    rw [buildColumns] at h
    split at h
    · next hcolumn =>
      cases h
      exact evaluate_leaks readParams_null (hcolumns column List.mem_cons_self) hcolumn
    · exact ih (fun other hother => hcolumns other (.tail _ hother)) (map_eq_error.1 h)

/-- The texts of a row are told by the rows. -/
theorem buildRow_leaks {rows : List Value} {row : Value} (hmem : row ∈ rows) (hrow : row.IsRow)
    (h : buildRow dom scope sanitize row = .error fault) :
    fault.Leaks sanitize (Value.Tells (.list rows)) := by
  cases hrow with
  | spec content =>
    rw [buildRow] at h
    · refine evaluate_leaks readParams_null (fun item hitem => ?_) (map_eq_error.1 h)
      exact ⟨content, List.mem_singleton.1 hitem, .row hmem⟩
    · simp
    · simp
  | columns hcolumns =>
    rw [buildRow] at h
    refine buildColumns_leaks (fun column hcolumn item hitem => ?_) (map_eq_error.1 h)
    cases hcolumns column hcolumn with
    | spec content => exact ⟨content, List.mem_singleton.1 hitem, .column hmem hcolumn⟩
    | specs hspecs =>
      obtain ⟨content, rfl⟩ := hspecs item hitem
      exact ⟨content, rfl, .part hmem hcolumn hitem⟩

/-- Elements are rows of their own, with which nothing goes wrong. -/
theorem buildRows_elements (ids : List NodeId) :
    ∃ rows, buildRows dom scope sanitize (ids.map Value.element) = .ok (rows, dom) := by
  induction ids with
  | nil => exact ⟨[], rfl⟩
  | cons id ids ih =>
    obtain ⟨rows, hrows⟩ := ih
    exact ⟨.list [.element id] :: rows, by simp [buildRows, buildRow, hrows, Except.map]⟩

/-- What goes wrong with rows of the known shapes. -/
theorem buildRows_leaks {told rows : List Value} (hsubset : rows ⊆ told)
    (hrows : ∀ row ∈ rows, row.IsRow) :
    ∀ {dom : Dom}, buildRows dom scope sanitize rows = .error fault →
      fault.Leaks sanitize (Value.Tells (.list told)) := by
  induction rows with
  | nil =>
    intro dom h
    cases h
  | cons row rows ih =>
    intro dom h
    rw [buildRows] at h
    split at h
    · next hrow =>
      cases h
      exact buildRow_leaks (hsubset List.mem_cons_self) (hrows row List.mem_cons_self) hrow
    · exact ih (fun other hother => hsubset (.tail _ hother))
        (fun other hother => hrows other (.tail _ hother)) (map_eq_error.1 h)

/-! ## Fields -/

/-- An entry of a known shape is taken apart. -/
theorem chooseEntry_eq {entries : List Value} (hentries : ∀ entry ∈ entries, entry.IsEntry) :
    chooseEntry dom scope entries = .ok none ∨
      ∃ condition spec params, .list [.text condition, .text spec, params] ∈ entries ∧
        chooseEntry dom scope entries = .ok (some (.text spec, params)) := by
  induction entries with
  | nil => exact .inl rfl
  | cons entry entries ih =>
    cases hentries entry List.mem_cons_self with
    | @entry condition spec params changes _ =>
      by_cases hmet : isMet dom scope (.text condition) = true
      · refine .inr ⟨condition, spec, params, List.mem_cons_self, ?_⟩
        simp [chooseEntry, Value.isPresent, entryParts, hmet]
      · have hskip : chooseEntry dom scope (.list [.text condition, .text spec, params] :: entries) =
            chooseEntry dom scope entries := by
          simp [chooseEntry, Value.isPresent, entryParts, hmet]
        rw [hskip]
        obtain hnone | ⟨condition, spec, params, hmem, hsome⟩ :=
          ih fun other hother => hentries other (.tail _ hother)
        · exact .inl hnone
        · exact .inr ⟨condition, spec, params, .tail _ hmem, hsome⟩

theorem buildContainer_leaks {spec : String} {params : Value} (htells : tells spec changes)
    (hparams : readParams params = .ok changes)
    (h : buildContainer dom scope (.text spec) params sanitize = .error fault) :
    fault.Leaks sanitize tells := by
  refine evaluate_leaks hparams (fun item hitem => ?_) (map_eq_error.1 h)
  exact ⟨spec, List.mem_singleton.1 hitem, htells⟩

theorem buildField_leaks {fields : List (String × Value)} {name : String} {value : Value}
    (hmem : (name, value) ∈ fields) (hfield : value.IsField)
    (h : buildField dom scope sanitize value = .error fault) :
    fault.Leaks sanitize (Value.Tells (.config fields)) := by
  cases hfield with
  | spec content =>
    rw [buildField] at h
    · exact buildContainer_leaks (.field hmem) readParams_null (map_eq_error.1 h)
    · simp
  | entries hentries =>
    rw [buildField] at h
    obtain hnone | ⟨condition, spec, params, hentry, hsome⟩ :=
      @chooseEntry_eq dom scope _ hentries
    · rw [hnone] at h
      cases h
    · rw [hsome] at h
      cases hentries _ hentry with
      | entry _ _ hparams =>
        exact buildContainer_leaks (.entry hmem hentry hparams) hparams (map_eq_error.1 h)

/-- What goes wrong with fields of the known shapes. -/
theorem buildFields_leaks {told fields : List (String × Value)} (hsubset : fields ⊆ told)
    (hfields : ∀ field ∈ fields, field.2.IsField) :
    ∀ {dom : Dom}, (buildFields dom scope sanitize fields).1 = .error fault →
      fault.Leaks sanitize (Value.Tells (.config told)) := by
  induction fields with
  | nil =>
    intro dom h
    cases h
  | cons field fields ih =>
    obtain ⟨name, value⟩ := field
    intro dom h
    rw [buildFields] at h
    split at h
    · next hfield =>
      cases h
      exact buildField_leaks (hsubset List.mem_cons_self) (hfields _ List.mem_cons_self) hfield
    · exact ih (fun other hother => hsubset (.tail _ hother))
        (fun other hother => hfields other (.tail _ hother)) (map_eq_error.1 h)

end Cell

end PageBlocks
