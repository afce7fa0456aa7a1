import PageBlocks.Dom.Spot
import PageBlocks.Dom.Text
import PageBlocks.Selector.Reader
import PageBlocks.Selector.Language
import PageBlocks.Selector.Bounds
import PageBlocks.Text.Direction
/-!
# Which elements meet a selector

A selector is evaluated at a spot of a page.  What it means does not depend on the spot alone: the
scope is the element that a query starts from, and the root is the outermost element of its tree.

## Main results

* `Selector.holds_both`, `Selector.holds_either`, `Selector.holds_not` — the connectives mean
  what they say.
* `select_sublist` — a query returns elements below its scope, in document order.
-/

namespace PageBlocks

open PageBlocks.Text

/-- What a query knows about the page: the identities of its scope and of the root element, and
whether the elements of the page carry their vocabularies. -/
structure Query where
  scope : Option NodeId
  root : Option NodeId
  hasVocabularies : Bool
deriving DecidableEq, Repr

namespace Query

/-- A query that starts at a spot.  In a document the root is its first element; a query for the
whole document has the root for its scope. -/
def ofSpot (spot : Spot) : Query :=
  let top := spot.root
  let root? : Option Node :=
    match top.node.tag? with
    | some tag => if tag.isDocument then top.node.elementChildren.head? else some top.node
    | none => none
  { scope := if spot.id = top.id then root?.map Node.id else some spot.id
    root := root?.map Node.id
    hasVocabularies := root?.any fun root => root.tag?.any (·.vocabulary == .html) }

end Query

/-! ## Attributes and text -/

namespace Tag

/-- The value of the first attribute whose name is the given one, regardless of case. -/
def attributeLike? (tag : Tag) (name : String) : Option String :=
  (tag.attributes.find? fun entry => asciiLower entry.1.toList = asciiLower name.toList).map (·.2)

/-- Is the element named so, regardless of case? -/
def isNamed (tag : Tag) (name : String) : Bool :=
  asciiLower tag.name.toList = asciiLower name.toList

/-- Is the element one of pages?  Where no vocabularies are kept all elements are. -/
def isPageElement (query : Query) (tag : Tag) : Bool :=
  !query.hasVocabularies || tag.vocabulary = .html

/-- Is the element a page within the page? -/
def isInnerPage (query : Query) (tag : Tag) : Bool :=
  tag.isNamed "iframe" && tag.isPageElement query

/-- The classes of an element. -/
def classes (tag : Tag) : List (List Char) :=
  (splitOn [' '] ((tag.attributeLike? "class").getD "").toList).filter (!·.isEmpty)

end Tag

namespace AttributeTest

/-- Are the texts the same, or differ they by a line feed at the end of the first one? -/
def sameButLineFeed (value wanted : List Char) : Bool :=
  value = wanted || value = wanted ++ ['\n']

/-- Does a value compare with the wanted one as asked? -/
def compare (comparison : Comparison) (wanted value : List Char) : Bool :=
  match comparison with
  | .present => true
  | .equal => sameButLineFeed value wanted
  | .word =>
    !wanted.isEmpty && !wanted.any Selector.Lexeme.isSpace &&
      (value.splitBy fun first second =>
        Selector.Lexeme.isSpace first == Selector.Lexeme.isSpace second).contains wanted
  | .dashed => sameButLineFeed value wanted || startsWith (wanted ++ ['-']) value
  | .start => !wanted.isEmpty && startsWith wanted value
  | .finish => !wanted.isEmpty && (endsWith wanted value || endsWith (wanted ++ ['\n']) value)
  | .part => !wanted.isEmpty && occursIn wanted value

/-- Does an element meet the condition? -/
def holds (test : AttributeTest) (query : Query) (tag : Tag) : Bool :=
  let readable :=
    match test.namePrefix with
    | .declared _ => !query.hasVocabularies
    | _ => true
  readable && (tag.attributeLike? test.name).any fun value =>
    if test.ignoresCase then
      compare test.comparison (foldText test.value) (foldText value.toList)
    else compare test.comparison test.value value.toList

end AttributeTest

/-- The text of a leaf, whatever it was written in. -/
def Leaf.anyText : Leaf → String
  | .text _ content => content
  | _ => ""

/-- The text of all leaves, but for those of pages within the page. -/
def Forest.shownText (query : Query) : Forest → String
  | .nil => ""
  | .leaf _ content next => content.anyText ++ next.shownText query
  | .element _ tag children next =>
    (if tag.isInnerPage query then "" else children.shownText query) ++ next.shownText query

namespace Spot

/-- The name of the element at a spot. -/
def name (spot : Spot) : String :=
  spot.node.name

/-- Does the element at a spot meet a condition on its tag? -/
def tagHas (spot : Spot) (condition : Tag → Bool) : Bool :=
  spot.node.tag?.any condition

/-- The children of the element at a spot that count as its content. -/
def content (query : Query) (spot : Spot) : Forest :=
  if spot.tagHas (·.isInnerPage query) then .nil else spot.node.children

/-- The value of an attribute of the element at a spot. -/
def attribute? (spot : Spot) (name : String) : Option String :=
  spot.node.tag?.bind (·.attributeLike? name)

/-- The value of an attribute in small letters. -/
def loweredAttribute (spot : Spot) (name : String) : String :=
  String.ofList (asciiLower ((spot.attribute? name).getD "").toList)

/-! ## Tests that look further -/

/-- Is a node beside the root something that a document has no room for there? -/
def isSolid (node : Node) : Bool :=
  match node with
  | .element .. => true
  | .leaf _ (.text _ content) => !isBlankText content.toList
  | .leaf _ (.cdata _) => true
  | .leaf .. => false

/-- Is the element the root of its tree, with nothing beside it? -/
def isRoot (query : Query) (spot : Spot) : Bool :=
  query.root = some spot.id && !(spot.previous ++ spot.following).any fun beside =>
    isSolid beside.node

/-- Has the element neither elements nor visible text? -/
def isEmpty (query : Query) (spot : Spot) : Bool :=
  (spot.content query).toList.all fun child =>
    match child with
    | .element .. => false
    | .leaf _ content => content.anyText.toList.all Selector.Lexeme.isSpace

/-- Does the text of an element hold one of the pieces? -/
def hasText (query : Query) (spot : Spot) (pieces : List (List Char)) (own : Bool) : Bool :=
  let texts : List (List Char) :=
    if own then
      (spot.content query).toList.filterMap fun child =>
        match child with
        | .leaf _ (.text _ content) => some content.toList
        | _ => none
    else [((spot.content query).shownText query).toList]
  pieces.any fun piece => texts.any fun text => occursIn piece text

/-- The language that an element itself is marked with. -/
def ownLanguage? (query : Query) (spot : Spot) : Option String :=
  if !query.hasVocabularies || spot.tagHas (·.vocabulary = .html) then spot.attribute? "lang"
  else spot.attribute? "xml:lang"

/-- The language that the head of the document announces. -/
def announcedLanguage? (query : Query) (spot : Spot) : Option String := do
  let elements (node : Node) (name : String) : List Node :=
    node.elementChildren.filter fun child =>
      child.tag?.any fun tag => tag.isNamed name && tag.isPageElement query
  let page ← (elements spot.root.node "html").head?
  let head ← (elements page "head").head?
  (elements head "meta").findSome? fun child => do
    let tag ← child.tag?
    let kind ← tag.attributeLike? "http-equiv"
    let content ← tag.attributeLike? "content"
    if asciiLower kind.toList = "content-language".toList && !content.isEmpty then some content
    else none

/-- The language of an element: that of the nearest marked element around it, or the one that the
document announces. -/
def language? (query : Query) (spot : Spot) : Option String :=
  let marks := (spot :: spot.ancestors).filterMap (ownLanguage? query)
  match marks.find? (!·.isEmpty) with
  | some language => some language
  | none => if marks.isEmpty then spot.announcedLanguage? query else some ""

/-- Names of elements whose text does not tell the direction of the text around them. -/
def isolatedNames : List String :=
  ["bdi", "script", "style", "textarea", "iframe"]

/-- The direction that an element asks for by an attribute; `auto` asks for that of its text. -/
def writtenDirection? (tag : Tag) : Option (Option Direction) :=
  match String.ofList (asciiLower ((tag.attributeLike? "dir").getD "").toList) with
  | "ltr" => some (some .leftToRight)
  | "rtl" => some (some .rightToLeft)
  | "auto" => some none
  | _ => none

/-- The direction of the first text that tells one. -/
def textDirection? (query : Query) : Forest → Option Direction
  | .nil => none
  | .leaf _ content next => (directionOf? content.anyText.toList).or (textDirection? query next)
  | .element _ tag children next =>
    let inside :=
      if isolatedNames.any (tag.isNamed ·) || !tag.isPageElement query ||
        (writtenDirection? tag).isSome then none
      else textDirection? query children
    inside.or (textDirection? query next)

/-- The types of inputs whose value is a text. -/
def textInputTypes : List String :=
  ["text", "search", "tel", "url", "email"]

/-- The text of a control from which its direction is told, for controls that hold one. -/
def controlText? (query : Query) (spot : Spot) : Option (List Char) :=
  if spot.tagHas (·.isNamed "textarea") then
    some ((spot.content query).toList.flatMap fun child =>
      match child with
      | .leaf _ content => content.anyText.toList
      | .element .. => [])
  else if spot.tagHas (·.isNamed "input") &&
      textInputTypes.contains (spot.loweredAttribute "type") then
    some ((spot.attribute? "value").getD "").toList
  else none

/-- The direction that an element has on its own account; nothing when it has the direction of the
element around it. -/
def ownDirection? (query : Query) (spot : Spot) (tag : Tag) : Option Direction :=
  let fallback : Option Direction :=
    if query.root = some spot.id then some .leftToRight else none
  match writtenDirection? tag with
  | some (some direction) => some direction
  | some none =>
    match spot.controlText? query with
    | some [] => fallback
    | some text => some ((directionOf? text).getD .leftToRight)
    | none => (textDirection? query spot.node.children).or fallback
  | none =>
    if query.root = some spot.id then some .leftToRight
    else if tag.isNamed "input" && spot.loweredAttribute "type" = "tel" then some .leftToRight
    else if tag.isNamed "bdi" then textDirection? query spot.node.children
    else none

/-- The direction of an element. -/
def direction? (query : Query) : Spot → Option Direction
  | top node =>
    match node.tag? with
    | some tag => if tag.isPageElement query then ownDirection? query (top node) tag else none
    | none => none
  | inside parent before node after =>
    match node.tag? with
    | some tag =>
      if tag.isPageElement query then
        (ownDirection? query (inside parent before node after) tag).or (parent.direction? query)
      else none
    | none => none

/-- Whether the value of an input is inside its bounds. -/
def isInside? (spot : Spot) : Option Bool :=
  Selector.Bounds.isInside? (spot.loweredAttribute "type") (spot.attribute? "min")
    (spot.attribute? "max") (spot.attribute? "value")

/-- The form around an element. -/
def form? (query : Query) (spot : Spot) : Option Spot :=
  spot.ancestors.find? fun above => above.tagHas fun tag =>
    tag.isNamed "form" && tag.isPageElement query

/-- Is the element the first button that submits its form? -/
def isFirstSubmit (query : Query) (spot : Spot) : Bool :=
  (spot.form? query).any fun form =>
    let candidates := (form.descendants.filter isElement).takeWhile fun below =>
      !below.tagHas (·.isNamed "form")
    (candidates.find? fun below =>
      (below.tagHas (·.isNamed "input") || below.tagHas (·.isNamed "button")) &&
        below.loweredAttribute "type" = "submit").any (·.id = spot.id)

/-- The form around an element, or else all of the page. -/
def group (query : Query) (spot : Spot) : Spot :=
  (spot.form? query).getD spot.root

/-- Is no radio button of the same name and form chosen? -/
def isUndecided (query : Query) (spot : Spot) : Bool :=
  let group := spot.group query
  !group.descendants.any fun below =>
    below.id ≠ spot.id && below.tagHas (·.isNamed "input") &&
      below.loweredAttribute "type" = "radio" && below.attribute? "name" = spot.attribute? "name" &&
      (below.attribute? "checked").isSome && (below.group query).id = group.id

end Spot

/-! ## Evaluation -/

/-- Is the vocabulary of an element the one that is written in front of a name? -/
def NamePrefix.admits (namePrefix : NamePrefix) (query : Query) (tag : Tag) : Bool :=
  match namePrefix with
  | .unwritten | .anything => true
  | .nothing => query.hasVocabularies && tag.vocabulary = .unspecified
  | .declared _ => false

/-- Does the element at a spot meet a test? -/
def Test.holds (query : Query) (spot : Spot) (tag : Tag) : Test → Bool
  | .name written wanted => written.admits query tag && (wanted = "*" || tag.isNamed wanted)
  | .identity value => tag.attributeLike? "id" = some value
  | .className value => tag.classes.contains value.toList
  | .attribute test => test.holds query tag
  | .pageElement => tag.isPageElement query
  | .root => spot.isRoot query
  | .scope => query.scope = some spot.id
  | .empty => spot.isEmpty query
  | .defined => !tag.name.toList.contains '-' || tag.name.toList.contains ':'
  | .text pieces own => spot.hasText query pieces own
  | .language ranges =>
    (spot.language? query).any fun language =>
      ranges.any fun range => Selector.Language.admits range language.toList
  | .rightToLeft => spot.direction? query = some .rightToLeft
  | .leftToRight => spot.direction? query = some .leftToRight
  | .blankContent => ["", "\n"].contains ((spot.content query).shownText query)
  | .inRange => spot.isInside? = some true
  | .outOfRange => spot.isInside? = some false
  | .firstSubmit => spot.isFirstSubmit query
  | .undecided => spot.isUndecided query

/-- The elements that lie as told before the one at a spot. -/
def Combinator.before (combinator : Combinator) (spot : Spot) : List Spot :=
  match combinator with
  | .descendant => spot.ancestors
  | .child => spot.parent?.toList
  | .laterSibling => spot.previous.filter Spot.isElement
  | .nextSibling => (spot.previous.filter Spot.isElement).take 1

/-- The elements that lie as told after the one at a spot. -/
def Combinator.after (combinator : Combinator) (spot : Spot) : List Spot :=
  match combinator with
  | .descendant => spot.descendants.filter Spot.isElement
  | .child => spot.elementChildren
  | .laterSibling => spot.following.filter Spot.isElement
  | .nextSibling => (spot.following.filter Spot.isElement).take 1

/-- Is the place `step * n + offset` for a natural number `n`? -/
def isCounted (step offset place : Int) : Bool :=
  if step = 0 then place = offset
  else (place - offset) % step = 0 && 0 ≤ (place - offset) / step

namespace Selector

/-- Have two elements the same name and vocabulary? -/
def sameKind (query : Query) (first second : Spot) : Bool :=
  first.tagHas fun tag => second.tagHas fun other =>
    tag.isNamed other.name && (!query.hasVocabularies || tag.vocabulary = other.vocabulary)

/-- Does the element at a spot meet a selector? -/
def holds (query : Query) : Selector → Spot → Bool
  | always, _ => true
  | never, _ => false
  | test condition, spot => spot.node.tag?.any fun tag => condition.holds query spot tag
  | both first second, spot => first.holds query spot && second.holds query spot
  | either first second, spot => first.holds query spot || second.holds query spot
  | not condition, spot => !condition.holds query spot
  | follows combinator condition, spot =>
    (combinator.before spot).any fun other => condition.holds query other
  | has combinator condition, spot =>
    (combinator.after spot).any fun other => condition.holds query other
  | place step offset fromEnd sameName among, spot =>
    among.holds query spot &&
      let beside := (if fromEnd then spot.following else spot.previous).filter fun other =>
        other.isElement && (!sameName || sameKind query spot other) && among.holds query other
      isCounted step offset (beside.length + 1)

theorem holds_both (query : Query) (first second : Selector) (spot : Spot) :
    (both first second).holds query spot =
      (first.holds query spot && second.holds query spot) := rfl

theorem holds_either (query : Query) (first second : Selector) (spot : Spot) :
    (either first second).holds query spot =
      (first.holds query spot || second.holds query spot) := rfl

theorem holds_not (query : Query) (condition : Selector) (spot : Spot) :
    (not condition).holds query spot = !condition.holds query spot := rfl

end Selector

/-- The elements below a spot that meet a selector, in document order. -/
def Spot.select (spot : Spot) (selector : Selector) : List Spot :=
  spot.descendants.filter fun below =>
    below.isElement && selector.holds (Query.ofSpot spot) below

theorem select_sublist (spot : Spot) (selector : Selector) :
    (spot.select selector).Sublist spot.descendants :=
  List.filter_sublist

namespace Dom

/-- The elements below a node that meet a selector, in document order. -/
def select (dom : Dom) (scope : NodeId) (selector : Selector) : List NodeId :=
  match dom.spot? scope with
  | some spot => (spot.select selector).map Spot.id
  | none => []

/-- The elements below a node that meet a written selector; text that is no selector finds
nothing. -/
def selectText (dom : Dom) (scope : NodeId) (selector : String) : List NodeId :=
  match Selector.parse? selector.toList with
  | some selector => dom.select scope selector
  | none => []

/-- The first element below a node that meets a written selector. -/
def selectFirst? (dom : Dom) (scope : NodeId) (selector : String) : Option NodeId :=
  (dom.selectText scope selector).head?

end Dom

end PageBlocks
