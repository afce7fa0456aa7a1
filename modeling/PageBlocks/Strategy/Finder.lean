import PageBlocks.Dom.Path
import PageBlocks.Dom.Spot
import PageBlocks.Strategy.Basic
import PageBlocks.Strategy.Metadata
/-!
# What strategies find

Each strategy finds cells in its own way, with what the host provides.

Each image of a carousel makes a row: the image, and the other content of its slide.  The slides are
the elements directly below the element that is around all images.

Columns are siblings of one name, that is elements whose paths are the same but for the number at the
end.  The first group of such siblings below an element that has more than one member is the row of its
columns.  Before that the element is freed of what shows nothing.

## Main results

* `siblingGroup_wanted` — the members of a group are as many as was asked for, or there are none.
* `finder_block` — plain blocks have the cells that are told.
-/

namespace PageBlocks

/-! ## Carousels -/

/-- Is a node another one or inside it? -/
def Dom.contains (dom : Dom) (outer inner : NodeId) : Bool :=
  outer = inner || (dom.spot? inner).any fun spot => spot.ancestors.any (·.id = outer)

/-- The innermost node around several nodes, going by the first and the last of them; a single node
is around itself. -/
def Dom.commonAncestor? (dom : Dom) : List NodeId → Option NodeId
  | [] => none
  | [node] => some node
  | first :: second :: rest => do
    let spot ← dom.spot? first
    let last := (second :: rest).getLastD second
    ((spot :: spot.ancestors).find? fun around => dom.contains around.id last).map Spot.id

namespace Strategy

/-- The elements directly below a node. -/
def elementsBelow (dom : Dom) (id : NodeId) : List NodeId :=
  ((dom.children id).toList.filter Node.isElement).map Node.id

/-- All elements of a name below a node, in the order of the page. -/
def namedBelow (dom : Dom) (id : NodeId) (name : String) : List NodeId :=
  (((dom.find? id).map Node.elements).getD []).filterMap fun node =>
    if node.name = name then some node.id else none

/-- The row of an image: the image, and what its slide holds beside it. -/
def slideRow (dom : Dom) (slides : List NodeId) (image : NodeId) : Value :=
  let content :=
    match slides.find? fun slide => dom.contains slide image with
    | some slide => (elementsBelow dom slide).filter fun child => !dom.contains child image
    | none => []
  .list [.element image, .list (content.map Value.element)]

/-- The rows of all images below an element. -/
def imageRows (dom : Dom) (images : List NodeId) : List Value :=
  let slides := ((dom.commonAncestor? images).map (elementsBelow dom)).getD []
  images.map (slideRow dom slides)

/-- The rows of a carousel: those that are told, and those of the images.  A single image is a row
of its own. -/
def findCarousel (sanitize : Sanitize.Sanitizer) : CellFinder := fun dom element params =>
  match findCells sanitize dom element params with
  | (.error fault, dom) => (.error fault, dom)
  | (.ok told, dom) =>
    let images := namedBelow dom element "img"
    let rows (told : List Value) : Value :=
      match images with
      | [image] =>
        if (elementsBelow dom image).isEmpty then .list [.list [.element image]]
        else .list (told ++ imageRows dom images)
      | _ => .list (told ++ imageRows dom images)
    match told with
    | .list told => (.ok (rows told), dom)
    | .config [] => (.ok (rows []), dom)
    | _ => (.ok (.list []), dom)

/-! ## Columns -/

open Text

/-- Elements whose paths are the same but for the number at the end. -/
structure Group where
  stem : List Char
  members : List NodeId
deriving DecidableEq, Repr

/-- Adds an element to the group of its stem, or to a new one at the end. -/
def addToGroup (groups : List Group) (stem : List Char) (id : NodeId) : List Group :=
  match groups with
  | [] => [⟨stem, [id]⟩]
  | group :: rest =>
    if group.stem = stem then { group with members := group.members ++ [id] } :: rest
    else group :: addToGroup rest stem id

/-- The groups that spots fall into, in the order of their first members. -/
def groupBy (spots : List Spot) : List Group :=
  spots.foldl (fun groups spot => addToGroup groups spot.stem spot.id) []

/-- The first group of siblings below an element whose size is wanted, or all elements directly
below it if their number is wanted. -/
def siblingGroup (dom : Dom) (element : NodeId) (wanted : Nat → Bool) : List NodeId :=
  let spots := ((dom.spot? element).map Spot.descendants).getD []
  match (groupBy (spots.filter Spot.isElement)).find? fun group => wanted group.members.length with
  | some group => group.members
  | none =>
    let children := elementsBelow dom element
    if wanted children.length then children else []

theorem siblingGroup_wanted (dom : Dom) (element : NodeId) (wanted : Nat → Bool) :
    wanted (siblingGroup dom element wanted).length = true ∨
      siblingGroup dom element wanted = [] := by
  unfold siblingGroup
  simp only
  split
  · next group h => exact .inl (by simpa using List.find?_some h)
  · split
    · next h => exact .inl h
    · exact .inr rfl

/-! ## What shows nothing -/

/-- Does a selector find anything below an element? -/
def findsAny (dom : Dom) (element : NodeId) (selector : String) : Bool :=
  (dom.selectFirst? element selector).isSome

/-- Takes a division out of the page if it shows nothing: neither text nor images and the like. -/
def dropIfEmpty (dom : Dom) (division : NodeId) : Dom :=
  let text := (((dom.find? division).map Node.text).getD "").toList
  if !findsAny dom division "img, svg, iframe" && isBlankText (text.filter (· ≠ '\n')) then
    dom.detach division
  else dom

/-- Frees an element of scripts, styles and empty divisions. -/
def dropEmpty (dom : Dom) (element : NodeId) : Dom :=
  let dom := (dom.selectText element "script, style").foldl Dom.detach dom
  (namedBelow dom element "div").foldl dropIfEmpty dom

/-- The columns below an element, unless its cells are told. -/
def findColumns (sanitize : Sanitize.Sanitizer) : CellFinder := fun dom element params =>
  let dom := dropEmpty dom element
  if params.cells.isPresent then findCells sanitize dom element params
  else
    let columns := siblingGroup dom element fun size => 1 < size
    let rows := if columns.isEmpty then [] else [.list (columns.map Value.element)]
    (.ok (.list rows), dom)

/-! ## All strategies -/

/-- The cells that a strategy finds. -/
def finder (host : Host) : Strategy → CellFinder
  | block => findCells host.sanitize
  | carousel => findCarousel host.sanitize
  | columns => findColumns host.sanitize
  | metadata => findMetadata host

theorem finder_block (host : Host) : finder host block = findCells host.sanitize := rfl

end Strategy

end PageBlocks
