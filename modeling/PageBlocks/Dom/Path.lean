import PageBlocks.Dom.Spot
import PageBlocks.Text.Search
/-!
# Places in a page

An element is told by the way from the top of its tree: the name of each element on the way, with
its number among the siblings of that name.

## Main results

* `steps_inside` — the way to an element goes on from the way to what holds it.
-/

namespace PageBlocks

/-- The number of a node among siblings of its name, given those in front of it. -/
def numberAmong (before : List Node) (name : String) : Nat :=
  1 + before.countP fun sibling => sibling.isElement && sibling.name == name

namespace Spot

/-- The steps from the top of the tree to a spot.  The document itself takes no step. -/
def steps : Spot → List (String × Nat)
  | top node => if node.isElement && node.name ≠ documentName then [(node.name, 1)] else []
  | inside parent before node _ =>
    parent.steps ++ [(node.name, numberAmong before node.name)]

theorem steps_inside (parent : Spot) (before : List Node) (node : Node) (after : Forest) :
    (inside parent before node after).steps =
      parent.steps ++ [(node.name, numberAmong before node.name)] := rfl

/-- The way to a spot as text, as in `/html[1]/body[1]/div[2]`. -/
def path (spot : Spot) : String :=
  "/" ++ "/".intercalate (spot.steps.map fun (name, number) => s!"{name}[{number}]")

/-- The path of a spot up to its last bracket, which is all of it but the number at its end. -/
def stem (spot : Spot) : List Char :=
  let path := spot.path.toList
  match Text.cutLast? ['['] path with
  | some (before, _) => before
  | none => path.dropLast

end Spot

end PageBlocks
