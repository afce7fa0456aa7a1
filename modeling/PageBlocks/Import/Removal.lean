import PageBlocks.Cell.MarkedSelector
import PageBlocks.Rule.Basic
import PageBlocks.Text.Blank
import PageBlocks.Text.Search
/-!
# Removal from a page

Before and after the blocks are made, elements and pieces of text are removed from the content: what
selectors find, text that equals a literal, and elements by what one of their attributes holds.

## Main results

* `removeEntries_nil` — without entries nothing is removed.
-/

namespace PageBlocks.Import

open PageBlocks.Text

/-! ## What attributes hold -/

/-- The declarations of a style, with trimmed names in lower case and trimmed values. -/
def declarations (style : List Char) : List (List Char × List Char) :=
  (splitOn [';'] style).filterMap fun declaration =>
    (cut? [':'] declaration).map fun (name, value) => (lower (trim name), trim value)

/-- A name with a dash in front of each letter that was a capital. -/
def kebabCase (name : List Char) : List Char :=
  name.flatMap fun c => if isUppercase c then '-' :: lower [c] else [c]

/-- The value that was declared last under a name. -/
def declared? (declared : List (List Char × List Char)) (name : List Char) : Option (List Char) :=
  (declared.reverse.find? fun entry => entry.1 = name).map (·.2)

/-- The value of a property in a style, under its name in any letter case or in camel case. -/
def styleProperty? (style property : List Char) : Option (List Char) :=
  let declared := declarations style
  (declared? declared (lower property)).or (declared? declared (kebabCase property))

/-- The text in which an attribute selector looks for its value, if there is any. -/
def searchedAttribute? (selector : AttributeSelector) (node : Node) : Option (List Char) :=
  let held := (node.attributeText selector.attributeName).toList
  match selector.property with
  | none | some "" | some "-" => some held
  | some property =>
    if selector.attributeName = "style" then styleProperty? held property.toList else none

/-- Does an attribute selector mean an element? -/
def isMeant (selector : AttributeSelector) (node : Node) : Bool :=
  (searchedAttribute? selector node).any fun text => occursIn selector.value.toList text

/-- The elements of the content that an attribute selector means. -/
def attributeMatches (dom : Dom) (root : NodeId) (selector : AttributeSelector) : List NodeId :=
  (dom.selectText root ("[" ++ selector.attributeName ++ "]")).filter fun id =>
    (dom.find? id).any (isMeant selector)

/-! ## Text -/

/-- The pieces of text directly in an element that equal a literal when they are trimmed. -/
def literalTexts (dom : Dom) (element : NodeId) (literal : List Char) : List NodeId :=
  ((dom.children element).toList.filter fun child =>
    child.isText && trim child.text.toList = literal).map Node.id

/-- Removes the pieces of text that a selector with a literal names. -/
def removeText (dom : Dom) (root : NodeId) (entry : String) : Dom :=
  match MarkedSelector.splitSearch entry.toList with
  | (_, none) => dom
  | (selector, some literal) =>
    (dom.selectText root (String.ofList selector)).foldl (fun dom element =>
      (literalTexts dom element literal).foldl Dom.detach dom) dom

/-! ## Entries -/

/-- The selectors among the entries that find elements. -/
def elementSelectors (entries : List CleanupEntry) : List String :=
  entries.filterMap fun entry =>
    match entry with
    | .selector text =>
      if !MarkedSelector.asksForText text.toList && Selector.isValid text then some text else none
    | .byAttribute _ => none

/-- The selectors among the entries that name text. -/
def textSelectors (entries : List CleanupEntry) : List String :=
  entries.filterMap fun entry =>
    match entry with
    | .selector text => if MarkedSelector.asksForText text.toList then some text else none
    | .byAttribute _ => none

/-- The attribute selectors among the entries. -/
def attributeSelectors (entries : List CleanupEntry) : List AttributeSelector :=
  entries.filterMap fun entry =>
    match entry with
    | .selector _ => none
    | .byAttribute selector => some selector

/-- Removes what entries tell from the content: first what selectors find, then text, and then
elements by their attributes. -/
def removeEntries (host : Host) (dom : Dom) (root : NodeId) (entries : List CleanupEntry) : Dom :=
  let found := elementSelectors entries
  let dom := if found.isEmpty then dom else host.removeElements dom root found
  let dom := (textSelectors entries).foldl (fun dom entry => removeText dom root entry) dom
  (attributeSelectors entries).foldl (fun dom selector =>
    (attributeMatches dom root selector).foldl Dom.detach dom) dom

theorem removeEntries_nil (host : Host) (dom : Dom) (root : NodeId) :
    removeEntries host dom root [] = dom := rfl

end PageBlocks.Import
