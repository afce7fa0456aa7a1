import PageBlocks.Sanitize.Fragment
import PageBlocks.Sanitize.Script
import PageBlocks.Url.Split
/-!
# Cleaning markup

Unsafe parts are taken out of a fragment.  Some elements go with all that is in them, such as
scripts; others only lose their tags, such as frames and elements that are not known.  Attributes
that run scripts go, and addresses that run scripts are emptied.

## Main results

* `cleanAttributes_noHandlers` — no attribute that is kept handles events.
-/

namespace PageBlocks.Sanitize

open PageBlocks.Text
open Html (WrittenAttributes)

/-- Whether forms and their controls are kept. -/
structure Policy where
  allowsForms : Bool
deriving DecidableEq, Repr

/-- Forms are kept. -/
def Policy.standard : Policy := ⟨true⟩

/-- Elements that go with all that is in them. -/
def killedNames : List String :=
  ["applet", "frame", "frameset", "link", "meta", "noframes", "script", "style"]

/-- Controls of forms. -/
def controlNames : List String := ["button", "input", "select", "textarea"]

/-- Elements that are known. -/
def knownNames : List String :=
  ["a", "abbr", "acronym", "address", "applet", "area", "article", "aside", "audio", "b", "base",
    "basefont", "bdo", "big", "blink", "blockquote", "body", "br", "button", "canvas", "caption",
    "center", "cite", "code", "col", "colgroup", "command", "datalist", "dd", "del", "details",
    "dfn", "dir", "div", "dl", "dt", "em", "embed", "fieldset", "figcaption", "figure", "font",
    "footer", "form", "frameset", "h1", "h2", "h3", "h4", "h5", "h6", "head", "header", "hgroup",
    "hr", "html", "i", "iframe", "img", "input", "ins", "isindex", "kbd", "keygen", "label",
    "legend", "li", "link", "map", "mark", "marquee", "math", "menu", "meta", "meter", "nav",
    "noscript", "object", "ol", "optgroup", "option", "output", "p", "param", "pre", "progress",
    "q", "rp", "rt", "ruby", "s", "samp", "script", "section", "select", "small", "source", "span",
    "strike", "strong", "style", "sub", "summary", "sup", "svg", "table", "tbody", "td",
    "textarea", "tfoot", "th", "thead", "time", "title", "tr", "track", "tt", "u", "ul", "var",
    "video", "wbr"]

/-- Elements that are known and lose their tags all the same. -/
def unwrappedNames : List String :=
  ["blink", "embed", "iframe", "marquee", "object", "param"]

/-- Does an element go with all that is in it? -/
def Policy.kills (policy : Policy) (name : String) : Bool :=
  killedNames.contains name || (!policy.allowsForms && controlNames.contains name)

/-- Does an element lose its tags? -/
def Policy.unwraps (policy : Policy) (name : String) : Bool :=
  !knownNames.contains name || unwrappedNames.contains name ||
    (!policy.allowsForms && name = "form")

/-- The name of an element as it is understood everywhere. -/
def usualName (name : String) : String :=
  if name = "image" then "img" else name

/-! ## Attributes -/

/-- Attributes that hold addresses. -/
def addressNames : List String :=
  ["action", "archive", "background", "cite", "classid", "codebase", "data", "dynsrc",
    "formaction", "href", "longdesc", "lowsrc", "profile", "src", "usemap"]

/-- Does an attribute handle events? -/
def isHandler (name : String) : Bool :=
  startsWith ['o', 'n'] name.toList

/-- Cleans the value of an attribute; nothing when the attribute goes. -/
def cleanValue? (name : String) (value : String) : Option String :=
  if addressNames.contains name then some (String.ofList (cleanAddress value.toList))
  else if name = "style" then (cleanStyle? value.toList).map String.ofList
  else some value

/-- Cleans an attribute; nothing when it goes. -/
def cleanAttribute? (entry : String × Option String) : Option (String × Option String) :=
  if isHandler entry.1 then none
  else match entry.2 with
    | none => some entry
    | some value => (cleanValue? entry.1 value).map fun value => (entry.1, some value)

/-- Cleans the attributes of an element. -/
def cleanAttributes (attributes : WrittenAttributes) : WrittenAttributes :=
  attributes.filterMap cleanAttribute?

theorem cleanAttributes_noHandlers {attributes : WrittenAttributes}
    {entry : String × Option String} (h : entry ∈ cleanAttributes attributes) :
    isHandler entry.1 = false := by
  obtain ⟨old, _, ho⟩ := List.mem_filterMap.1 h
  unfold cleanAttribute? at ho
  split at ho
  · simp at ho
  · next hh =>
    split at ho
    · simp only [Option.some.injEq] at ho
      subst ho
      simpa using hh
    · obtain ⟨value, _, rfl⟩ := Option.map_eq_some_iff.1 ho
      simpa using hh

/-! ## Elements -/

/-- A fragment without its unsafe parts. -/
def prune (policy : Policy) : Fragment → Fragment
  | .nil => .nil
  | .text content next => Fragment.consText content (prune policy next)
  | .remark next => prune policy next
  | .element written attributes children next =>
    let name := usualName written
    if policy.kills name then prune policy next
    else if policy.unwraps name then
      (prune policy children).append (prune policy next)
    else
      .element name (cleanAttributes attributes) (prune policy children) (prune policy next)

/-! ## What cannot be cleaned -/

/-- Control characters that may not be written into a fragment. -/
def isForbidden (c : Char) : Bool :=
  (c.toNat < 0x20 && c ≠ '\t' && c ≠ '\n' && c ≠ '\r') || c.toNat = 0xFFFE || c.toNat = 0xFFFF

/-- Does a text hold a control character that may not be written? -/
def holdsForbidden (text : List Char) : Bool :=
  text.any isForbidden

/-- Does cleaning an attribute write forbidden characters? -/
def attributeFails (entry : String × Option String) : Bool :=
  match entry.2 with
  | none => false
  | some value =>
    let text := value.toList
    if isHandler entry.1 then false
    else if addressNames.contains entry.1 then
      cleanAddress text ≠ text && holdsForbidden (cleanAddress text)
    else if entry.1 = "style" then
      let linked := cleanAddresses text
      (linked ≠ text && holdsForbidden linked) ||
        (cleanStyle? text).any fun cleaned => cleaned ≠ linked && holdsForbidden cleaned
    else false

/-- Does cleaning write forbidden characters into attributes? -/
def attributesFail : Fragment → Bool
  | .nil => false
  | .text _ next | .remark next => attributesFail next
  | .element _ attributes children next =>
    attributes.any attributeFails || attributesFail children || attributesFail next

/-- Does cleaning move text with forbidden characters? -/
def textFails (policy : Policy) : Fragment → Bool
  | .nil => false
  | .text content next =>
    let after := (prune policy next).leadingText
    textFails policy next || (!after.isEmpty && holdsForbidden (content ++ after))
  | .remark next => textFails policy next || holdsForbidden (prune policy next).leadingText
  | .element written _ children next =>
    let name := usualName written
    let after := (prune policy next).leadingText
    textFails policy children || textFails policy next ||
      (policy.kills name && holdsForbidden after) ||
      (!policy.kills name && policy.unwraps name &&
        (holdsForbidden (prune policy children).leadingText || holdsForbidden after))

/-- Elements whose content comes from an address. -/
def embeddingNames : List String := ["embed", "iframe"]

/-- What is wrong with the address that an element takes its content from. -/
def sourceFault? (name : String) (attributes : WrittenAttributes) : Option Url.Fault :=
  if embeddingNames.contains name then
    match (cleanAttributes attributes).lookup "src" with
    | some (some source) =>
      match Url.split source.toList with
      | .error fault => if source.isEmpty then none else some fault
      | .ok _ => none
    | _ => none
  else none

/-- What is wrong with the first address that cannot be cut. -/
def addressFault? : Fragment → Option Url.Fault
  | .nil => none
  | .text _ next | .remark next => addressFault? next
  | .element name attributes children next =>
    ((sourceFault? name attributes).or (addressFault? children)).or (addressFault? next)

end PageBlocks.Sanitize
