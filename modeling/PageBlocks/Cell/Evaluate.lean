import PageBlocks.Cell.Params
import PageBlocks.Cell.Spec
import PageBlocks.Dom.Markup
import PageBlocks.Page.Reading
import PageBlocks.Regex.Replacement
import PageBlocks.Sanitize.Basic
import PageBlocks.Selector.Match
import PageBlocks.Text.Quoted
/-!
# Evaluating cells

What a cell is told by is looked up in the page: a selector yields the elements that it finds, or
text taken from them; markup is filled in, sanitized and read, and yields its first element.  A
selector that finds nothing stands for itself.

Nothing of the page is moved here.  The elements of markup that is filled in are new, and are kept
beside the document.
-/

namespace PageBlocks

open PageBlocks.Text

/-- Why a cell cannot be evaluated. -/
inductive CellFault where
  /-- A cell is told by something that is no text, but of another kind. -/
  | noText (kind : String)
  /-- What tells a conditional field cannot be taken apart. -/
  | noEntry (kind : String)
  /-- What tells a conditional field has its parts under names. -/
  | noPlaces
  /-- The changes to text are not as they should be. -/
  | params (issues : List Issue)
  /-- A replacement asks for a group by a name that there is not. -/
  | unknownGroup (name : List Char)
  | tooManyTurns
  | conflictingOptions
  /-- Markup is a whole page without a single body. -/
  | noSingleBody
deriving DecidableEq, Repr

/-- The wording of a fault. -/
def CellFault.message : CellFault → String
  | noText kind => "expected string or bytes-like object, got '" ++ kind ++ "'"
  | noEntry kind => "'" ++ kind ++ "' object is not subscriptable"
  | noPlaces => "0"
  | params issues => Issue.summary "CellParams" issues
  | unknownGroup name => "unknown group name " ++ String.ofList (quoted name)
  | tooManyTurns => "the repetition number is too large"
  | conflictingOptions => "ASCII and UNICODE flags are incompatible"
  | noSingleBody => "too many bodies"

namespace Cell

/-! ## Text of elements -/

/-- The node that follows another one. -/
def nextSibling? (dom : Dom) (id : NodeId) : Option Node :=
  (dom.spot? id).bind fun spot => (spot.following.head?).map Spot.node

/-- The text that a selector asks for, of an element that it finds. -/
def elementText (dom : Dom) (marked : MarkedSelector) (id : NodeId) : String :=
  match dom.find? id with
  | none => ""
  | some node =>
    match marked.usesText, marked.attributeName, marked.textIndex, marked.usesSiblingText with
    | false, some name, _, _ => node.attributeText (String.ofList name)
    | _, _, some index, _ =>
      (((node.children.toList.filter Node.isText)[index - 1]?).map Node.text).getD ""
    | _, _, none, true => ((nextSibling? dom id).map Node.text).getD ""
    | _, _, none, false =>
      if node.text = "" then node.attributeText "content" else node.text

/-! ## Changes to text -/

/-- Replaces the first match of a pattern.  A pattern or replacement that cannot be read changes
nothing. -/
def replaceIn (text : List Char) : Option (String × Option String) → Except CellFault (List Char)
  | none => .ok text
  | some (pattern, replacement) =>
    match Regex.replaceFirst pattern.toList (replacement.getD "").toList text with
    | .ok text => .ok (trim text)
    | .error (.unknownName name) => .error (.unknownGroup name)
    | .error (.expression .tooManyTurns) => .error .tooManyTurns
    | .error (.expression .conflictingOptions) => .error .conflictingOptions
    | .error (.expression .malformed) | .error .malformedReplacement => .ok text

/-- The parts of a text between the occurrences of a delimiter, or its characters. -/
def partsOf (delimiter text : List Char) : List (List Char) :=
  (if delimiter.isEmpty then text.map fun c => [c] else splitOn delimiter text).filter
    fun part => !part.isEmpty

/-- Keeps one part of a text, if there is such a part. -/
def keepPart (text : List Char) : Option (String × Option Int) → List Char
  | none => text
  | some (delimiter, place) =>
    let parts := partsOf delimiter.toList text
    match place.getD 0 with
    | .ofNat place => parts[place]?.getD text
    | .negSucc _ => text

/-- Text from the page with its changes. -/
def changeText (params : CellParams) (text : String) : Except CellFault String := do
  let text ← replaceIn text.toList params.replacement
  .ok (String.ofList (trim (keepPart text params.part)))

/-! ## Selectors -/

/-- What an element that a selector finds yields: the element itself, or text. -/
def matchValue (dom : Dom) (marked : MarkedSelector) (params : CellParams) (id : NodeId) :
    Except CellFault Value :=
  let asText := marked.usesText || MarkedSelector.endsWithAttribute marked.selector ||
    params.replacement.isSome
  if asText || (dom.children id).isEmpty then
    (changeText params (elementText dom marked id)).map Value.text
  else .ok (.element id)

/-- One value for itself, and several in a list. -/
def gather (fallback : Value) : List Value → Value
  | [] => fallback
  | [value] => value
  | values => .list values

/-- What a selector yields. -/
def evaluateSelector (dom : Dom) (scope : NodeId) (marked : MarkedSelector) (selector : Selector)
    (params : CellParams) : Except CellFault Value :=
  ((dom.select scope selector).mapM (matchValue dom marked params)).map
    (gather (.text (String.ofList marked.selector)))

/-! ## Markup -/

/-- What fills a place in markup.  An expression that is no selector stands for itself. -/
def fillPlace (dom : Dom) (scope : NodeId) (expression : List Char) : List Char :=
  match Selector.parse? expression with
  | none => expression
  | some selector =>
    match (dom.select scope selector).head? with
    | none => []
    | some id =>
      if MarkedSelector.endsWithAttribute expression then
        (elementText dom (MarkedSelector.parse expression) id).toList
      else (((dom.find? id).map Node.innerMarkup).getD "").toList

/-- Markup with its places filled. -/
def fill (dom : Dom) (scope : NodeId) (segments : List Segment) : List Char :=
  segments.flatMap fun segment =>
    match segment with
    | .literal text => text
    | .placeholder expression => fillPlace dom scope expression

/-- The first element that markup writes. -/
def firstElement? (markup : String) : Option Node :=
  let fragment := Dom.ofMarkup markup
  (fragment.find? fragment.bodyOrDocument).bind fun holder => holder.elementChildren.head?

/-- What markup yields: a new element beside the document, or nothing. -/
def evaluateTemplate (dom : Dom) (scope : NodeId) (segments : List Segment)
    (sanitize : Sanitize.Sanitizer) : Except CellFault (Option NodeId × Dom) :=
  match sanitize (fill dom scope segments) with
  | .error .noSingleBody => .error .noSingleBody
  | .error _ => .ok (none, dom)
  | .ok markup =>
    match firstElement? (String.ofList markup) with
    | none => .ok (none, dom)
    | some node =>
      let (id, dom) := dom.adopt node
      .ok (some id, dom)

/-! ## Cells -/

/-- What a single cell yields, if anything. -/
def evaluateSpec (dom : Dom) (scope : NodeId) (params : CellParams)
    (sanitize : Sanitize.Sanitizer) : Value → Except CellFault (Option Value × Dom)
  | .element id => .ok (some (.element id), dom)
  | .text spec =>
    match CellSpec.parse spec.toList with
    | .selector marked selector =>
      (evaluateSelector dom scope marked selector params).map fun value => (some value, dom)
    | .template segments =>
      (evaluateTemplate dom scope segments sanitize).map fun (id, dom) =>
        (id.map Value.element, dom)
  | spec => .error (.noText spec.kindName)

/-- What several cells yield, in order. -/
def evaluateSpecs (dom : Dom) (scope : NodeId) (params : CellParams)
    (sanitize : Sanitize.Sanitizer) : List Value → Except CellFault (List Value × Dom)
  | [] => .ok ([], dom)
  | spec :: specs =>
    match evaluateSpec dom scope params sanitize spec with
    | .error fault => .error fault
    | .ok (value, dom) =>
      (evaluateSpecs dom scope params sanitize specs).map fun (values, dom) =>
        (value.toList ++ values, dom)

/-- The changes to text that a value tells; a value that is absent tells none. -/
def readParams (params : Value) : Except CellFault CellParams :=
  match CellParams.check (if params.isPresent then params else .config []) with
  | .ok params => .ok params
  | .error issues => .error (.params issues)

/-- What a cell yields, which is told by one spec or by several. -/
def evaluate (dom : Dom) (scope : NodeId) (cell params : Value) (sanitize : Sanitize.Sanitizer) :
    Except CellFault (List Value × Dom) :=
  if cell.isPresent then
    match readParams params with
    | .error fault => .error fault
    | .ok params => evaluateSpecs dom scope params sanitize cell.itemsOrSelf
  else .ok ([], dom)

end Cell

end PageBlocks
