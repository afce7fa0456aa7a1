import PageBlocks.Cell.Evaluate
/-!
# Rows and fields

From the cells of a page two shapes are built: rows of columns, and fields with names.  Rows in
which no column holds anything are dropped.  Fields take what they hold out of the page into a
container of their own; which cell a field takes may hang on conditions, of which the first one
that is met counts.

## Main results

* `hasContent_text` — a column of text is empty only without any character.
-/

namespace PageBlocks.Cell

open PageBlocks.Text

/-- Does a column hold anything? -/
def hasContent : Value → Bool
  | .list items => !items.isEmpty
  | .element _ => true
  | value => value.isPresent

theorem hasContent_text (content : String) :
    hasContent (.text content) = true ↔ content ≠ "" := by
  simp [hasContent, Value.isPresent]

/-! ## Rows -/

/-- The columns of a row, each of which is told by a cell of its own. -/
def buildColumns (dom : Dom) (scope : NodeId) (sanitize : Sanitize.Sanitizer) :
    List Value → Except CellFault (List Value × Dom)
  | [] => .ok ([], dom)
  | column :: columns =>
    match evaluate dom scope column .null sanitize with
    | .error fault => .error fault
    | .ok (values, dom) =>
      (buildColumns dom scope sanitize columns).map fun (built, dom) =>
        (.list values :: built, dom)

/-- A row, or nothing when no column holds anything.  An element is a row of its own. -/
def buildRow (dom : Dom) (scope : NodeId) (sanitize : Sanitize.Sanitizer) (row : Value) :
    Except CellFault (Option Value × Dom) :=
  let kept (built : List Value × Dom) : Option Value × Dom :=
    (if built.1.any hasContent then some (.list built.1) else none, built.2)
  match row with
  | .element id => .ok (some (.list [.element id]), dom)
  | .list columns => (buildColumns dom scope sanitize columns).map kept
  | cell => (evaluate dom scope cell .null sanitize).map kept

/-- The rows that hold anything. -/
def buildRows (dom : Dom) (scope : NodeId) (sanitize : Sanitize.Sanitizer) :
    List Value → Except CellFault (List Value × Dom)
  | [] => .ok ([], dom)
  | row :: rows =>
    match buildRow dom scope sanitize row with
    | .error fault => .error fault
    | .ok (built, dom) =>
      (buildRows dom scope sanitize rows).map fun (rest, dom) => (built.toList ++ rest, dom)

/-! ## Fields -/

/-- The parts of what tells a conditional field: a condition, a cell and changes to text. -/
def entryParts : Value → Except CellFault (List Value)
  | .list items => .ok items
  | .text content => .ok (content.toList.map fun c => .text (String.ofList [c]))
  | .element _ | .config _ => .error .noPlaces
  | entry => .error (.noEntry entry.kindName)

/-- Is a condition met, that is, does it find anything? -/
def isMet (dom : Dom) (scope : NodeId) : Value → Bool
  | .text selector => (dom.selectFirst? scope selector).isSome
  | _ => false

/-- The cell and the changes to text of the first entry whose condition is met. -/
def chooseEntry (dom : Dom) (scope : NodeId) :
    List Value → Except CellFault (Option (Value × Value))
  | [] => .ok none
  | entry :: entries =>
    if entry.isPresent then
      match entryParts entry with
      | .error fault => .error fault
      | .ok parts =>
        if isMet dom scope (parts[0]?.getD .null) then
          .ok (some (parts[1]?.getD .null, parts[2]?.getD .null))
        else chooseEntry dom scope entries
    else chooseEntry dom scope entries

/-- The tag of the containers of fields. -/
def containerTag : Tag := ⟨"p", .unspecified, []⟩

/-- Moves values into an element: elements as they are, and text as text. -/
def fillContainer (dom : Dom) (container : NodeId) (values : List Value) : Dom :=
  values.foldl (fun dom value =>
    match value with
    | .element id => dom.append container id
    | .text content => dom.appendText container content
    | _ => dom) dom

/-- The container of a field, with what its cell yields. -/
def buildContainer (dom : Dom) (scope : NodeId) (cell params : Value)
    (sanitize : Sanitize.Sanitizer) : Except CellFault (NodeId × Dom) :=
  let (container, dom) := dom.createElement containerTag
  (evaluate dom scope cell params sanitize).map fun (values, dom) =>
    (container, fillContainer dom container (Value.flatten values))

/-- The container of a field, or nothing when none of its conditions is met. -/
def buildField (dom : Dom) (scope : NodeId) (sanitize : Sanitize.Sanitizer) :
    Value → Except CellFault (Option NodeId × Dom)
  | .list entries =>
    match chooseEntry dom scope entries with
    | .error fault => .error fault
    | .ok none => .ok (none, dom)
    | .ok (some (cell, params)) =>
      (buildContainer dom scope cell params sanitize).map fun (id, dom) => (some id, dom)
  | cell =>
    (buildContainer dom scope cell .null sanitize).map fun (id, dom) => (some id, dom)

/-- The fields with their containers, in order, or a fault.  What earlier fields took out of the
page stays with them after a fault. -/
def buildFields (dom : Dom) (scope : NodeId) (sanitize : Sanitize.Sanitizer) :
    List (String × Value) → Except CellFault (List (String × NodeId)) × Dom
  | [] => (.ok [], dom)
  | (name, value) :: fields =>
    match buildField dom scope sanitize value with
    | .error fault => (.error fault, dom)
    | .ok (built, dom) =>
      let (rest, dom) := buildFields dom scope sanitize fields
      (rest.map fun rest => (built.map fun id => (name, id)).toList ++ rest, dom)

/-- Fields as a value. -/
def configOf (fields : List (String × NodeId)) : Value :=
  .config (fields.map fun (name, id) => (name, .element id))

end PageBlocks.Cell
