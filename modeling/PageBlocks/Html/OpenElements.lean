import PageBlocks.Dom.Edit
/-!
# Open elements

While markup is read, the elements that have started and not ended yet are kept on a stack, the
innermost one first.  Whether an end tag may reach an element on the stack is a question of
*scope*: some elements hide what is outside of them.
-/

namespace PageBlocks.Html

/-- An element that has started and not ended yet. -/
structure OpenElement where
  id : NodeId
  name : String
  vocabulary : Vocabulary
deriving DecidableEq, Repr

namespace OpenElement

/-- Is this the element of ordinary markup with the given name? -/
def isHtml (element : OpenElement) (name : String) : Bool :=
  element.vocabulary = .html && element.name = name

/-- Is this an element of ordinary markup with one of the given names? -/
def isHtmlIn (element : OpenElement) (names : List String) : Bool :=
  element.vocabulary = .html && names.contains element.name

end OpenElement

/-! ## Classes of elements -/

/-- The headings. -/
def headingNames : List String := ["h1", "h2", "h3", "h4", "h5", "h6"]

/-- Elements in which misplaced content of a table is moved in front of it. -/
def tableLevelNames : List String := ["table", "tbody", "tfoot", "thead", "tr"]

/-- Elements of ordinary markup that are more than a change of style. -/
def specialNames : List String :=
  ["address", "applet", "area", "article", "aside", "base", "basefont", "bgsound", "blockquote",
    "body", "br", "button", "caption", "center", "col", "colgroup", "command", "dd", "details",
    "dir", "div", "dl", "dt", "embed", "fieldset", "figure", "footer", "form", "frame",
    "frameset", "h1", "h2", "h3", "h4", "h5", "h6", "head", "header", "hr", "html", "iframe",
    "image", "img", "input", "isindex", "li", "link", "listing", "marquee", "menu", "meta", "nav",
    "noembed", "noframes", "noscript", "object", "ol", "p", "param", "plaintext", "pre", "script",
    "section", "select", "style", "table", "tbody", "td", "textarea", "tfoot", "th", "thead",
    "title", "tr", "ul", "wbr", "xmp"]

/-- Elements that are more than a change of style. -/
def OpenElement.isSpecial (element : OpenElement) : Bool :=
  match element.vocabulary with
  | .html => specialNames.contains element.name
  | .svg => element.name = "foreignObject"
  | _ => false

/-- Elements that hide what is outside of them from end tags. -/
def OpenElement.isScoping (element : OpenElement) : Bool :=
  match element.vocabulary with
  | .html =>
    ["applet", "caption", "html", "marquee", "object", "table", "td", "th"].contains element.name
  | .mathml => ["mi", "mo", "mn", "ms", "mtext", "annotation-xml"].contains element.name
  | .svg => ["foreignObject", "desc", "title"].contains element.name
  | .unspecified => false

/-- The variants of scope. -/
inductive Scope where
  | default
  | button
  | list
  | table
  | select
deriving DecidableEq, Repr

/-- Does the element end the search in a scope? -/
def OpenElement.endsScope (element : OpenElement) : Scope → Bool
  | .default => element.isScoping
  | .button => element.isScoping || element.isHtml "button"
  | .list => element.isScoping || element.isHtmlIn ["ol", "ul"]
  | .table => element.isHtmlIn ["html", "table"]
  | .select => !element.isHtmlIn ["optgroup", "option"]

/-- Is an open element that meets the test in scope? -/
def inScopeBy (scope : Scope) (test : OpenElement → Bool) : List OpenElement → Bool
  | [] => false
  | element :: outer =>
    test element || (!element.endsScope scope && inScopeBy scope test outer)

/-- Is an element with the given name in scope? -/
def inScope (scope : Scope) (name : String) (stack : List OpenElement) : Bool :=
  inScopeBy scope (·.isHtml name) stack

/-! ## Closing elements -/

/-- Elements whose end tags may be left out inside other elements. -/
def impliedEndNames : List String :=
  ["dd", "dt", "li", "option", "optgroup", "p", "rp", "rt"]

/-- Closes elements whose end is implied, except for one name. -/
def closeImplied (exceptName : String) : List OpenElement → List OpenElement
  | [] => []
  | element :: outer =>
    if impliedEndNames.contains element.name && element.name ≠ exceptName then
      closeImplied exceptName outer
    else element :: outer

/-- Closes elements up to and including the first one that meets the test. -/
def closeThrough (test : OpenElement → Bool) (stack : List OpenElement) : List OpenElement :=
  (stack.dropWhile fun element => !test element).drop 1

/-- Closes elements up to the first one with one of the given names, which stays open. -/
def closeUntil (names : List String) (stack : List OpenElement) : List OpenElement :=
  stack.dropWhile fun element => !names.contains element.name

end PageBlocks.Html
