import PageBlocks.Proofs.Dom.Guard
import PageBlocks.Proofs.Import.Steps
/-!
# Blocks that only copy

The cells of a block may be told by selectors with a marker and by templates alone.  Then nothing of the
page goes into the block: while it is made, the page stays as it is, and what an element's turn does to
the page is no more than to place the block.

## Main results

* `Import.findCells_copies` — to find such cells leaves the page as it is.
* `Import.makeBlock_turned` — what an element's turn comes to.
-/

namespace PageBlocks

open Dom

/-- A page with a new block beside all that was there. -/
structure Dom.Beside (block : Node) (before after : Dom) : Prop extends Keeps before after where
  new : ¬before.Has block.id
  made : after.find? block.id = some block
  top : after.parent? block.id = none

namespace Import

/-- The cells that a rule is told, by its own settings or by those of the page. -/
def toldCells (params : Params) (rule : BlockRule) : Value :=
  Params.cells (Params.override params
    (rule.params.map fun (name, value) => (name, Value.ofJson value)))

/-- A rule for plain blocks whose cells are rows or fields that yield text or new elements only. -/
structure Copies (params : Params) (rule : BlockRule) : Prop where
  strategy : Strategy.choose rule.type rule.strategy = .block
  cells : Cell.cellsCopy (toldCells params rule) = true
  plain : (toldCells params rule).elements = []

/-- An element whose turn it is to be made a block from, on the page as it is then. -/
structure Turn where
  task : Task
  page : Dom
  element : NodeId

/-- The cells that are found at a turn, with the page after that, if there are any. -/
def Turn.cells? (params : Params) (turn : Turn) : Option (Value × Dom) :=
  match findCells params turn.task turn.page turn.element with
  | (.ok cells, page) => if hasCells cells then some (cells, page) else none
  | (.error _, _) => none

/-- The block that is made at a turn, as it is before it is placed. -/
def Turn.block? (host : Host) (params : Params) (turn : Turn) : Option Node :=
  (turn.cells? params).bind fun (cells, page) =>
    match host.createBlock page (host.blockName turn.task.rule.type) turn.task.rule.variants cells with
    | (.ok (some block), page) => page.find? block
    | _ => none

/-- The turns of several elements, one after another. -/
def turnsOf (host : Host) (params : Params) (root : NodeId) (task : Task) (page : Dom) :
    List NodeId → List Turn
  | [] => []
  | element :: elements =>
    ⟨task, page, element⟩ ::
      turnsOf host params root task (makeBlock host params root task page element).2 elements

/-- The turns of all rules, in their order: what a rule finds is looked up when the rule starts. -/
def turns (host : Host) (params : Params) (root : NodeId) (page : Dom) : List Task → List Turn
  | [] => []
  | task :: tasks =>
    let found := candidates page root task.rule.selectors
    turnsOf host params root task page found ++
      turns host params root (makeEach host params root task page found).2 tasks

/-- What a turn may come to: nothing, if there are no cells, or a block that is placed if there is a
place for it. -/
inductive Turned (host : Host) (params : Params) (root : NodeId) (turn : Turn) :
    Option Creation → Dom → Prop
  | nothing {after : Dom} (hcells : turn.cells? params = none) (hkeeps : Keeps turn.page after) :
      Turned host params root turn none after
  | block {block : Node} {mid : Dom} {creation : Creation}
      (hcells : (turn.cells? params).isSome = true) (hblock : turn.block? host params = some block)
      (hbeside : Beside block turn.page mid)
      (hplaced : creation.isPlaced =
        (place? mid root turn.element block.id turn.task.rule.mode).isSome) :
      Turned host params root turn (some creation)
        ((place? mid root turn.element block.id turn.task.rule.mode).getD mid)

variable {sanitize : Sanitize.Sanitizer} {params : Params} {kept : Set NodeId}
  {guard root element : NodeId} {task : Task} {page after : Dom}

/-- To find cells that copy touches nothing that is guarded, wherever it is. -/
theorem findCells_copies (hcopies : Copies params task.rule)
    (hfinder : task.finder = PageBlocks.findCells sanitize) (hg : Guarded kept guard page)
    (element : NodeId) :
    Outcome.Careful kept page (Value.IsFree kept) (findCells params task page element) := by
  have hfound : Outcome.Careful kept page (Value.IsFree kept)
      (PageBlocks.findCells sanitize page element _) :=
    findCells_frame sanitize hg (.inr hcopies.cells) (Value.isFree_of_elements_nil hcopies.plain)
  rw [findCells, hfinder]
  refine ⟨hfound.changes, fun value hvalue => ?_⟩
  obtain ⟨cells, hcells, rfl⟩ := Cell.exists_of_map_eq_ok hvalue
  exact dropAbsent_free (hfound.free cells hcells)

/-- A table is made of all cells that there are. -/
theorem createTable_ne_none {name : String} {variants : List String} {cells : Value}
    (h : hasCells cells = true) :
    Block.createTable page name variants cells ≠ (.ok none, after) := by
  have hrows : cells.isEmptyRows = false := by
    cases cells with
    | null => cases h
    | bool _ | integer _ | decimal _ | text _ | element _ | list _ | config _ =>
      simpa [hasCells] using h
  intro heq
  rw [Block.createTable.eq_def] at heq
  split at heq
  · cases h
  · rw [if_neg (by simp [hrows])] at heq
    split at heq <;> cases heq

/-- The table that is made of cells that copy is new, beside all that was there. -/
theorem exists_beside_of_createTable (hcopies : Copies params task.rule)
    (hfinder : task.finder = PageBlocks.findCells sanitize) (wf : page.WellFormed) {cells : Value}
    {mid : Dom} {name : String} {variants : List String} {table : NodeId}
    (hfound : findCells params task page element = (.ok cells, mid))
    (hcreated : Block.createTable mid name variants cells = (.ok (some table), after)) :
    ∃ block, block.id = table ∧ Beside block page after := by
  have hfind := findCells_copies hcopies hfinder wf.guarded_all element
  rw [hfound] at hfind
  have hg := wf.guarded_all.of_changes hfind.changes subset_rfl
  have htable := Block.createTable_careful name variants hg (hfind.free cells rfl)
  obtain ⟨hnew, hhas, htop⟩ := Block.createTable_top hg (hfind.free cells rfl) hcreated
  rw [hcreated] at htable
  obtain ⟨block, hblock⟩ := has_iff_find?.1 hhas
  obtain rfl : block.id = table := Forest.id_of_find? hblock
  have hchanges : Changes {k | page.Has k} {k | page.Has k} page after :=
    hfind.changes.trans htable.changes
  refine ⟨block, rfl, hchanges.keeps wf, ?_, hblock, htop⟩
  exact fun hin => hnew ((hfind.changes.extends wf).has _ hin)

/-- What an element's turn comes to. -/
theorem makeBlock_turned (hcopies : Copies params task.rule)
    (hfinder : task.finder = PageBlocks.findCells sanitize) (wf : page.WellFormed)
    {made : Option Creation}
    (h : makeBlock (standardHost sanitize) params root task page element = (.ok made, after)) :
    Turned (standardHost sanitize) params root ⟨task, page, element⟩ made after := by
  rw [makeBlock] at h
  split at h
  · cases h
  next cells mid hfound =>
  split at h
  · next hcells =>
    have hcell : Turn.cells? params ⟨task, page, element⟩ = some (cells, mid) := by
      rw [Turn.cells?, hfound]
      exact if_pos hcells
    rw [createBlock] at h
    rcases hcreated : (standardHost sanitize).createBlock mid
      ((standardHost sanitize).blockName task.rule.type) task.rule.variants cells with
      ⟨fault | none | table, last⟩
    · rw [hcreated] at h
      cases h
    · exact absurd hcreated (createTable_ne_none hcells)
    · obtain ⟨block, rfl, hbeside⟩ :=
        exists_beside_of_createTable hcopies hfinder wf hfound hcreated
      have hmade : Turn.block? (standardHost sanitize) params ⟨task, page, element⟩ =
          some block := by
        rw [Turn.block?, hcell]
        show (match (standardHost sanitize).createBlock mid _ _ _ with
          | (.ok (some block), page) => page.find? block
          | _ => Option.none) = some block
        rw [hcreated]
        exact hbeside.made
      have hturned (creation : Creation) (hplaced : creation.isPlaced =
          (place? last root element block.id task.rule.mode).isSome) :
          Turned (standardHost sanitize) params root ⟨task, page, element⟩ (some creation)
            ((place? last root element block.id task.rule.mode).getD last) :=
        .block (Option.isSome_iff_exists.2 ⟨_, hcell⟩) hmade hbeside hplaced
      rw [hcreated] at h
      dsimp only at h
      cases hplace : place? last root element block.id task.rule.mode with
      | none =>
        rw [hplace] at h hturned
        cases h
        exact hturned _ rfl
      | some placed =>
        rw [hplace] at h hturned
        cases h
        exact hturned _ rfl
  · next hnone =>
    cases h
    have hkeeps := (findCells_copies hcopies hfinder wf.guarded_all element).changes
    rw [hfound] at hkeeps
    refine .nothing ?_ (hkeeps.keeps wf)
    rw [Turn.cells?, hfound]
    exact if_neg hnone

end Import

end PageBlocks
