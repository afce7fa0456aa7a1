import PageBlocks.Calendar.Amount
import PageBlocks.Cell.Evaluate
import PageBlocks.Cell.Wording
/-!
# Blocks as tables

A block is a table.  Its header holds the name of the block and, in parentheses, its variants; the
rows of the table are the rows of cells that the block is made from.  Elements are moved into the
table, and all other values become text.  What was changed in a page stays changed when a block cannot be
made.
-/

namespace PageBlocks

/-! ## Faults -/

/-- Why a block cannot be made. -/
inductive BlockFault where
  /-- One of its cells cannot be evaluated. -/
  | cell (fault : CellFault)
  /-- A date tells a number that is too large to have a fraction. -/
  | hugeAmount
  /-- What is to be laid out in rows cannot be gone through. -/
  | noRows
deriving DecidableEq, Repr

/-- The wording of a fault. -/
def BlockFault.message : BlockFault → String
  | cell fault => fault.message
  | hugeAmount => "[<class 'decimal.InvalidOperation'>]"
  | noRows => "cells are not iterable"

/-- The result of an operation on a page, and the page after it. -/
abbrev Outcome (fault α : Type) := Except fault α × Dom

/-- The result of evaluating cells as one of making blocks. -/
def Outcome.ofCell (dom : Dom) : Except CellFault (α × Dom) → Outcome BlockFault α
  | .ok (value, dom) => (.ok value, dom)
  | .error fault => (.error (.cell fault), dom)

namespace Block

/-! ## Tables -/

/-- A tag without attributes. -/
def plainTag (name : String) : Tag := ⟨name, .unspecified, []⟩

/-- The text of the header. -/
def headerText (name : String) (variants : List String) : String :=
  if variants.isEmpty then name else name ++ " (" ++ ", ".intercalate variants ++ ")"

/-- What a node holds as a value: elements stand for themselves, and other nodes for their text. -/
def valueOf : Node → Value
  | .element id _ _ => .element id
  | .leaf _ content => .text content.anyText

/-- The rows that a value stands for.  Text is taken apart into characters, and an element into the
nodes below it. -/
def rowsOf? (dom : Dom) : Value → Option (List (List Value))
  | .config fields => some (fields.map fun (name, value) => [.text name, value])
  | .list items => some (items.map Value.itemsOrSelf)
  | .text content => some (content.toList.map fun c => [.text (String.ofList [c])])
  | .element id =>
    some ((dom.children id).toList.map fun node => [valueOf node])
  | _ => none

mutual

/-- Puts a value at the end of an element. -/
def fill (parent : NodeId) : Value → Dom → Dom
  | .null, dom => dom
  | .list items, dom => fillItems parent items dom
  | .element id, dom => dom.append parent id
  | value, dom => dom.appendText parent (value.wording dom)

/-- Puts several values at the end of an element. -/
def fillItems (parent : NodeId) : List Value → Dom → Dom
  | [], dom => dom
  | item :: items, dom => fillItems parent items (fill parent item dom)

end

/-- Adds a cell to a row. -/
def addCell (row : NodeId) (dom : Dom) (value : Value) : Dom :=
  let (cell, dom) := dom.createElement (plainTag "td")
  (fill cell value dom).append row cell

/-- Adds a row to a table. -/
def addRow (table : NodeId) (dom : Dom) (values : List Value) : Dom :=
  let (row, dom) := dom.createElement (plainTag "tr")
  (values.foldl (addCell row) dom).append table row

/-- Adds the header to a table, which spans all columns. -/
def addHeader (table : NodeId) (dom : Dom) (text : String) (width : Nat) : Dom :=
  let (row, dom) := dom.createElement (plainTag "tr")
  let (cell, dom) := dom.createElement (plainTag "th")
  let dom := dom.appendText cell text
  let dom := if 1 < width then dom.setAttribute cell "colspan" (toString width) else dom
  (dom.append row cell).append table row

/-- The number of columns of a table. -/
def width (rows : List (List Value)) : Nat :=
  (rows.map List.length).foldl max 0

/-- The table of a block, beside the document.  Nothing is made from no rows. -/
def createTable (dom : Dom) (name : String) (variants : List String) (cells : Value) :
    Outcome BlockFault (Option NodeId) :=
  match cells with
  | .null => (.ok none, dom)
  | cells =>
    if cells.isEmptyRows then (.ok none, dom)
    else match rowsOf? dom cells with
      | none => (.error .noRows, dom)
      | some rows =>
        let (table, dom) := dom.createElement (plainTag "table")
        let dom := addHeader table dom (headerText name variants) (width rows)
        (.ok (some table), rows.foldl (addRow table) dom)

end Block

end PageBlocks
