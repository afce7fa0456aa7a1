import PageBlocks.Calendar.Reader
import PageBlocks.Strategy.Basic
/-!
# Metadata of a page as a block

What the host knows about a page is laid under the fields that a rule tells.  The image loses all
but the first of several sources, and dates are written with all their digits, the year first.
-/

namespace PageBlocks.Strategy

open PageBlocks.Text

/-- The text that may tell a date: a text, or that of an element without other elements in it. -/
def dateText? (dom : Dom) : Value → Option String
  | .text content => some content
  | .element id =>
    (dom.find? id).bind fun node => if node.elementChildren.isEmpty then some node.text else none
  | _ => none

/-- The date that a value tells, with all its digits, if it tells one. -/
def isoDate (dom : Dom) (value : Value) : Except BlockFault (Option String) :=
  match dateText? dom value with
  | none => .ok none
  | some text =>
    match Calendar.readDate text.toList with
    | .ok date => .ok (some date.iso)
    | .error .unreadable => .ok none
    | .error .hugeAmount => .error .hugeAmount

/-- The image that an element is or holds. -/
def imageOf? (dom : Dom) (id : NodeId) : Option NodeId :=
  if dom.name id = "img" then some id
  else ((dom.find? id).bind fun node =>
    node.elements.find? fun inner => inner.name = "img").map Node.id

/-- Keeps the first of several sources of an image. -/
def keepFirstSource (dom : Dom) (id : NodeId) : Dom :=
  match imageOf? dom id with
  | none => dom
  | some image =>
    match (dom.tag? image).bind (·.attribute? "src") with
    | none | some "" => dom
    | some sources =>
      let first := trim (sources.toList.takeWhile (· ≠ ','))
      dom.setAttribute image "src" (String.ofList first)

/-- A field in its final form: an image with one source, or a date. -/
def finishField (dom : Dom) (name : String) (value : Value) : Outcome BlockFault Value :=
  let dom :=
    match value with
    | .element id => if name = "Image" then keepFirstSource dom id else dom
    | _ => dom
  ((isoDate dom value).map fun date => (date.map Value.text).getD value, dom)

/-- All fields in their final form. -/
def finishFields (dom : Dom) : List (String × Value) → Outcome BlockFault (List (String × Value))
  | [] => (.ok [], dom)
  | (name, value) :: fields =>
    match finishField dom name value with
    | (.error fault, dom) => (.error fault, dom)
    | (.ok value, dom) =>
      let (rest, dom) := finishFields dom fields
      (rest.map fun rest => (name, value) :: rest, dom)

/-- The metadata of the page with the fields that are told. -/
def findMetadata (host : Host) : CellFinder := fun dom element params =>
  let (known, dom) := host.metadata dom
  match findCells host.sanitize dom element params with
  | (.error fault, dom) => (.error fault, dom)
  | (.ok told, dom) =>
    let fields : List (String × Value) :=
      match told with
      | .config fields => Params.override known fields
      | _ => known
    let (fields, dom) := finishFields dom fields
    (fields.map Value.config, dom)

end PageBlocks.Strategy
