import PageBlocks.Block.Host
import PageBlocks.Cell.Build
/-!
# Strategies

A strategy says how the cells of a block are found below an element.  A rule may name one; without
that the type of its blocks does, and all other types are plain blocks.

## Main results

* `Strategy.ofName?_name` — names are read back.
-/

namespace PageBlocks

/-- How the cells of a block are found. -/
inductive Strategy where
  | block
  | carousel
  | columns
  | metadata
deriving DecidableEq, Repr

namespace Strategy

/-- The name of a strategy. -/
def name : Strategy → String
  | block => "block"
  | carousel => "carousel"
  | columns => "columns"
  | metadata => "metadata"

/-- All strategies. -/
def all : List Strategy := [block, carousel, columns, metadata]

/-- The strategy of a name. -/
def ofName? (name : String) : Option Strategy :=
  all.find? fun strategy => strategy.name = name

theorem ofName?_name (strategy : Strategy) : ofName? strategy.name = some strategy := by
  cases strategy <;> decide

theorem name_of_ofName? {text : String} {strategy : Strategy} (h : ofName? text = some strategy) :
    strategy.name = text := by
  simpa using List.find?_some h

/-- The strategy for blocks of a type, which a rule may name itself. -/
def choose (type : String) (named : Option Strategy) : Strategy :=
  (named.or (ofName? type)).getD block

end Strategy

/-- Settings of a rule and of the page that is imported, under their names. -/
abbrev Params := List (String × Value)

namespace Params

/-- The setting that tells the cells of a block. -/
def cells (params : Params) : Value :=
  (Json.get? params "cells").getD .null

/-- Settings under which others are laid, which go before them. -/
def override (params more : Params) : Params :=
  more.foldl (fun params entry => Json.put params entry.1 entry.2) params

end Params

/-- A way to find the cells of a block below an element. -/
abbrev CellFinder := Dom → (element : NodeId) → Params → Outcome BlockFault Value

/-! ## Plain blocks -/

/-- What tells the rows of a block: the elements that a selector finds, or the rows themselves. -/
def rowSource (dom : Dom) (element : NodeId) (params : Params) : Value :=
  match params.cells with
  | .text selector => .list ((dom.selectText element selector).map Value.element)
  | cells => if cells.isPresent then cells else .list []

/-- The rows or fields that the settings tell. -/
def findCells (sanitize : Sanitize.Sanitizer) : CellFinder := fun dom element params =>
  match rowSource dom element params with
  | .config fields =>
    let (built, dom) := Cell.buildFields dom element sanitize fields
    (match built with
      | .ok fields => .ok (Cell.configOf fields)
      | .error fault => .error (.cell fault), dom)
  | .list rows =>
    let (rows, dom) := Outcome.ofCell dom (Cell.buildRows dom element sanitize rows)
    (rows.map Value.list, dom)
  | _ => (.ok (.list []), dom)

end PageBlocks
