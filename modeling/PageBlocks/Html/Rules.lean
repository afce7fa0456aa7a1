import PageBlocks.Html.Builder
/-!
# The rules of tree construction

For each mode, what a token does to the page.  A rule yields the changed state and whether the same
token is to be looked at once more, by the rules of the mode that is then in force.

The rules build on one another: those of tables fall back on those of the body, those of rows on
those of tables, and so on.
-/

namespace PageBlocks.Html

/-- A start tag. -/
structure StartTag where
  name : String
  attributes : List (String × String)
  selfClosing : Bool
deriving DecidableEq, Repr

/-- A start tag without attributes. -/
def StartTag.plain (name : String) : StartTag := ⟨name, [], false⟩

/-- A start tag as it is written.  An attribute without a value has an empty one. -/
def StartTag.ofWritten (name : String) (attributes : WrittenAttributes) (selfClosing : Bool) :
    StartTag :=
  ⟨name, attributes.map fun (key, value) => (key, value.getD ""), selfClosing⟩

/-- The state after a token, and whether the token is to be looked at once more. -/
structure Outcome where
  state : Builder
  again : Bool

namespace Outcome

/-- The token is dealt with. -/
def done (state : Builder) : Outcome := ⟨state, false⟩

/-- The token is to be looked at once more. -/
def retry (state : Builder) : Outcome := ⟨state, true⟩

end Outcome

open Outcome

namespace Builder

/-! ## Before the body -/

/-- The names whose end tags start the parts of a page that are missing. -/
def implyingEndNames : List String := ["head", "body", "html", "br"]

/-- A document type: pages with an old or broken one are laid out by the old rules. -/
def isQuirky (name : String) (publicId systemId : Option String) (correct : Bool) : Bool :=
  let id := Text.asciiLower (publicId.getD "").toList
  let starts (leads : List String) := leads.any fun lead => Text.startsWith lead.toList id
  !correct || name ≠ "html" ||
    starts ["-//ietf//dtd html 2.0 level 1//", "-//ietf//dtd html 2.0 level 2//",
      "-//ietf//dtd html 2.0 strict level 1//", "-//ietf//dtd html 2.0 strict level 2//",
      "-//ietf//dtd html 2.0 strict//", "-//ietf//dtd html 2.0//",
      "-//ietf//dtd html 2.1e//", "-//ietf//dtd html 3.0//", "-//ietf//dtd html 3.2 final//",
      "-//ietf//dtd html 3.2//", "-//ietf//dtd html 3//", "-//ietf//dtd html level 0//",
      "-//ietf//dtd html level 1//", "-//ietf//dtd html level 2//",
      "-//ietf//dtd html level 3//", "-//ietf//dtd html strict level 0//",
      "-//ietf//dtd html strict level 1//", "-//ietf//dtd html strict level 2//",
      "-//ietf//dtd html strict level 3//", "-//ietf//dtd html strict//",
      "-//ietf//dtd html//", "-//w3c//dtd html 3 1995-03-24//",
      "-//w3c//dtd html 3.2 draft//", "-//w3c//dtd html 3.2 final//",
      "-//w3c//dtd html 3.2//", "-//w3c//dtd html 3.2s draft//",
      "-//w3c//dtd html 4.0 frameset//", "-//w3c//dtd html 4.0 transitional//",
      "-//w3c//dtd html experimental 19960712//",
      "-//w3c//dtd html experimental 970421//", "-//w3c//dtd w3 html//",
      "-//w3o//dtd w3 html 3.0//"] ||
    ["-//w3o//dtd w3 html strict 3.0//en//", "-/w3c/dtd html 4.0 transitional/en",
      "html"].any (fun exact => id = exact.toList) ||
    (systemId.isNone &&
      starts ["-//w3c//dtd html 4.01 frameset//", "-//w3c//dtd html 4.01 transitional//"])

/-- Inserts the document type at the start of the page. -/
def insertDoctype (b : Builder) (name : String) (publicId systemId : Option String)
    (correct : Bool) : Builder :=
  let (id, dom) := b.dom.createLeaf (.doctype (doctypeText name publicId systemId))
  { b with
    dom := dom.append Dom.documentId id
    quirks := b.quirks || isQuirky name publicId systemId correct
    mode := .beforeHtml }

/-- Starts the root element. -/
def startRoot (b : Builder) : Builder :=
  (b.insertHtml "html" []).enter .beforeHead

/-- Starts the head. -/
def startHead (b : Builder) (attributes : List (String × String)) : Builder :=
  let started := b.insertHtml "head" attributes
  { started with head := started.stack.head?, mode := .inHead }

/-- Ends the head. -/
def endHead (b : Builder) : Builder :=
  b.pop.enter .afterHead

/-- Starts the body where its tag is left out. -/
def implyBody (b : Builder) : Builder :=
  { (b.insertHtml "body" []).enter .inBody with framesetOk := true }

/-- A repeated start tag of the root adds the attributes that are missing. -/
def startHtml (b : Builder) (tag : StartTag) : Builder :=
  match b.stack.getLast? with
  | some root => b.addAttributes root tag.attributes
  | none => b

/-- Start tags in the head. -/
def startInHead (b : Builder) (tag : StartTag) : Outcome :=
  match tag.name with
  | "html" => done (b.startHtml tag)
  | "title" => done (b.insertTextElement tag.name tag.attributes (.escapableText tag.name))
  | "noframes" | "style" => done (b.insertTextElement tag.name tag.attributes (.rawText tag.name))
  | "noscript" => done ((b.insertHtml tag.name tag.attributes).enter .inHeadNoscript)
  | "script" => done (b.insertTextElement tag.name tag.attributes .script)
  | "base" | "basefont" | "bgsound" | "command" | "link" | "meta" =>
    done (b.insertVoid tag.name tag.attributes)
  | "head" => done b
  | _ => retry b.endHead

/-- End tags in the head. -/
def endInHead (b : Builder) (name : String) : Outcome :=
  match name with
  | "head" => done b.endHead
  | "br" | "html" | "body" => retry b.endHead
  | _ => done b

/-! ## The body: end tags -/

/-- Ends a paragraph; where none is open an empty one is inserted. -/
def endParagraph (b : Builder) : Builder :=
  if b.hasInScope "p" .button then (b.closeImplied "p").closeThroughName "p"
  else b.insertVoid "p" []

/-- Ends a paragraph that is in scope. -/
def closeParagraph (b : Builder) : Builder :=
  if b.hasInScope "p" .button then b.endParagraph else b

/-- Ends a block. -/
def endBlock (b : Builder) (name : String) : Builder :=
  let b := if name = "pre" then { b with dropsLineBreak := false } else b
  if b.hasInScope name .default then (b.closeImplied "").closeThroughName name else b

/-- Ends a form. -/
def endForm (b : Builder) : Builder :=
  let cleared := { b with form := none }
  match b.form with
  | none => cleared
  | some form =>
    if inScopeBy .default (·.id = form.id) b.stack then
      (cleared.closeImplied "").removeOpen form
    else cleared

/-- Ends an item of a list. -/
def endListItem (b : Builder) (name : String) : Builder :=
  if b.hasInScope name (if name = "li" then .list else .default) then
    (b.closeImplied name).closeThroughName name
  else b

/-- Ends a heading, of whichever rank. -/
def endHeading (b : Builder) : Builder :=
  if headingNames.any fun name => b.hasInScope name .default then
    let closed := b.closeImplied ""
    if headingNames.any fun name => closed.hasInScope name .default then
      { closed with stack := closeThrough (headingNames.contains ·.name) closed.stack }
    else closed
  else b

/-- Ends an element that hides formatting. -/
def endHiding (b : Builder) (name : String) : Builder :=
  let closed := if b.hasInScope name .default then b.closeImplied "" else b
  if closed.hasInScope name .default then (closed.closeThroughName name).clearToMarker
  else closed

/-- Ends the body. -/
def endBody (b : Builder) : Builder :=
  if b.hasInScope "body" .default then b.enter .afterBody else b

/-- End tags in the body. -/
def endInBody (b : Builder) (name : String) : Outcome :=
  match name with
  | "body" => done b.endBody
  | "html" => if b.hasInScope "body" .default then retry b.endBody else done b
  | "address" | "article" | "aside" | "blockquote" | "button" | "center" | "details" | "dialog"
  | "dir" | "div" | "dl" | "fieldset" | "figcaption" | "figure" | "footer" | "header" | "hgroup"
  | "listing" | "main" | "menu" | "nav" | "ol" | "pre" | "section" | "summary" | "ul" =>
    done (b.endBlock name)
  | "form" => done b.endForm
  | "p" => done b.endParagraph
  | "dd" | "dt" | "li" => done (b.endListItem name)
  | "h1" | "h2" | "h3" | "h4" | "h5" | "h6" => done b.endHeading
  | "a" | "b" | "big" | "code" | "em" | "font" | "i" | "nobr" | "s" | "small" | "strike"
  | "strong" | "tt" | "u" => done (endFormatting 8 name b)
  | "applet" | "marquee" | "object" => done (b.endHiding name)
  | "br" => done (b.reopenFormatting.insertVoid "br" [])
  | _ => done (b.endOther name)

/-- Applies a rule of the body to misplaced content of a table. -/
def fostering (b : Builder) (rule : Builder → Builder) : Builder :=
  { rule { b with fosterParenting := true } with fosterParenting := false }

/-- An end tag that another tag implies, by the rules of the mode that is in force. -/
def endImplied (b : Builder) (name : String) : Builder :=
  match b.mode with
  | .inTable | .inTableBody | .inRow => b.fostering fun b => (b.endInBody name).state
  | _ => (b.endInBody name).state

/-! ## The body: text -/

/-- Text in the body. -/
def charactersInBody (b : Builder) (content : List Char) : Builder :=
  let b := b.reopenFormatting.insertText content
  if content.all isSpace then b else b.forbidFrameset

/-- White space in the body.  A line break just after the start of preformatted text is dropped. -/
def spacesInBody (b : Builder) (content : List Char) : Builder :=
  let keep (b : Builder) (content : List Char) := b.reopenFormatting.insertText content
  if b.dropsLineBreak then
    let b := { b with dropsLineBreak := false }
    match content with
    | '\n' :: rest =>
      let isStart := ["pre", "listing", "textarea"].contains b.currentName &&
        (b.dom.children b.currentId).toList.isEmpty
      if isStart then (if rest.isEmpty then b else keep b rest) else keep b content
    | _ => keep b content
  else keep b content

/-! ## The body: start tags -/

/-- Starts an item of a list, which ends the item before it. -/
def startListItem (b : Builder) (tag : StartTag) : Builder :=
  let stops := if tag.name = "li" then ["li"] else ["dt", "dd"]
  let b := b.forbidFrameset
  let isBarrier (element : OpenElement) :=
    element.isSpecial && !(["address", "div", "p"].contains element.name)
  let b :=
    match b.stack.find? fun element => stops.contains element.name || isBarrier element with
    | some element => if stops.contains element.name then b.endImplied element.name else b
    | none => b
  let b := if b.hasInScope "p" .button then b.endImplied "p" else b
  b.insertHtml tag.name tag.attributes

/-- Starts a link, which ends the link before it. -/
def startLink (b : Builder) (tag : StartTag) : Builder :=
  let b :=
    match b.formattingElement? "a" with
    | some link => ((endFormatting 8 "a" b).removeOpen link).removeFormatting link
    | none => b
  b.reopenFormatting.insertFormatting tag.name tag.attributes

/-- Inserts an element of running text without content. -/
def insertInlineVoid (b : Builder) (tag : StartTag) : Builder :=
  (b.reopenFormatting.insertVoid tag.name tag.attributes).forbidFrameset

/-- Inserts a field for input.  A hidden one does not count as content. -/
def insertInput (b : Builder) (tag : StartTag) : Builder :=
  let inserted := b.insertInlineVoid tag
  let hidden := (tag.attributes.lookup "type").any fun kind =>
    Text.asciiLower kind.toList = "hidden".toList
  if hidden then { inserted with framesetOk := b.framesetOk } else inserted

/-- Starts a form, unless one is open. -/
def startForm (b : Builder) (tag : StartTag) : Builder :=
  if b.form.isSome then b
  else
    let started := b.closeParagraph.insertHtml tag.name tag.attributes
    { started with form := started.stack.head? }

/-- Inserts a rule. -/
def insertRule (b : Builder) (attributes : List (String × String)) : Builder :=
  (b.closeParagraph.insertVoid "hr" attributes).forbidFrameset

/-- The words before the field of a search form that gives none. -/
def searchPrompt : String := "This is a searchable index. Enter search keywords: "

/-- Inserts a search form with one field. -/
def insertSearchForm (b : Builder) (tag : StartTag) : Builder :=
  if b.form.isSome then b
  else
    let action := tag.attributes.filter (·.1 = "action")
    let prompt := (tag.attributes.lookup "prompt").getD searchPrompt
    let others := tag.attributes.filter fun entry => !(["action", "prompt"].contains entry.1)
    let field : Tag := Tag.setAttribute ⟨"input", .html, others⟩ "name" "isindex"
    let b := (b.startForm ⟨"form", action, false⟩).insertRule []
    let b := b.reopenFormatting.insertHtml "label" []
    let b := (b.charactersInBody prompt.toList).insertInput ⟨"input", field.attributes, false⟩
    ((b.endOther "label").insertRule []).endForm

/-- The spelling of attribute names of drawings, by their form in small letters. -/
def svgAttributeNames : List String :=
  ["attributeName", "attributeType", "baseFrequency", "baseProfile", "calcMode", "clipPathUnits",
    "contentScriptType", "contentStyleType", "diffuseConstant", "edgeMode",
    "externalResourcesRequired", "filterRes", "filterUnits", "glyphRef", "gradientTransform",
    "gradientUnits", "kernelMatrix", "kernelUnitLength", "keyPoints", "keySplines", "keyTimes",
    "lengthAdjust", "limitingConeAngle", "markerHeight", "markerUnits", "markerWidth",
    "maskContentUnits", "maskUnits", "numOctaves", "pathLength", "patternContentUnits",
    "patternTransform", "patternUnits", "pointsAtX", "pointsAtY", "pointsAtZ", "preserveAlpha",
    "preserveAspectRatio", "primitiveUnits", "refX", "refY", "repeatCount", "repeatDur",
    "requiredExtensions", "requiredFeatures", "specularConstant", "specularExponent",
    "spreadMethod", "startOffset", "stdDeviation", "stitchTiles", "surfaceScale",
    "systemLanguage", "tableValues", "targetX", "targetY", "textLength", "viewBox", "viewTarget",
    "xChannelSelector", "yChannelSelector", "zoomAndPan"]

/-- The spelling of element names of drawings, by their form in small letters. -/
def svgElementNames : List String :=
  ["altGlyph", "altGlyphDef", "altGlyphItem", "animateColor", "animateMotion",
    "animateTransform", "clipPath", "feBlend", "feColorMatrix", "feComponentTransfer",
    "feComposite", "feConvolveMatrix", "feDiffuseLighting", "feDisplacementMap",
    "feDistantLight", "feFlood", "feFuncA", "feFuncB", "feFuncG", "feFuncR", "feGaussianBlur",
    "feImage", "feMerge", "feMergeNode", "feMorphology", "feOffset", "fePointLight",
    "feSpecularLighting", "feSpotLight", "feTile", "feTurbulence", "foreignObject", "glyphRef",
    "linearGradient", "radialGradient", "textPath"]

/-- The spelling of a name that has it, by its form in small letters. -/
def respell (spellings : List String) (name : String) : String :=
  (spellings.find? fun spelling => nameOf spelling.toList = name).getD name

/-- The attributes of a drawing or a formula in their spelling. -/
def respellAttributes (vocabulary : Vocabulary) (attributes : List (String × String)) :
    List (String × String) :=
  attributes.map fun (name, value) =>
    (match vocabulary with
      | .svg => respell svgAttributeNames name
      | .mathml => if name = "definitionurl" then "definitionURL" else name
      | _ => name, value)

/-- Starts an element of a drawing or a formula. -/
def startForeign (b : Builder) (tag : StartTag) (vocabulary : Vocabulary) : Builder :=
  let started := b.insert tag.name (respellAttributes vocabulary tag.attributes) vocabulary
  if tag.selfClosing then started.pop else started

/-- Starts a list of choices. -/
def startSelect (b : Builder) (tag : StartTag) : Builder :=
  let b := (b.reopenFormatting.insertHtml tag.name tag.attributes).forbidFrameset
  match b.mode with
  | .inTable | .inCaption | .inColumnGroup | .inTableBody | .inRow | .inCell =>
    b.enter .inSelectInTable
  | _ => b.enter .inSelect

/-- A second start tag of the body adds the attributes that are missing. -/
def startSecondBody (b : Builder) (tag : StartTag) : Builder :=
  match b.stack.reverse with
  | _ :: body :: _ =>
    if body.name = "body" then b.forbidFrameset.addAttributes body tag.attributes else b
  | _ => b

/-- A frameset takes the place of a body without content. -/
def startLateFrameset (b : Builder) (tag : StartTag) : Builder :=
  match b.stack.reverse with
  | root :: body :: _ =>
    if body.name = "body" && b.framesetOk then
      let b := { b with dom := b.dom.detach body.id, stack := [root] }
      (b.insertHtml tag.name tag.attributes).enter .inFrameset
    else b
  | _ => b

/-- Start tags in the body. -/
def startInBody (b : Builder) (tag : StartTag) : Outcome :=
  match tag.name with
  | "html" => done (b.startHtml tag)
  | "base" | "basefont" | "bgsound" | "command" | "link" | "meta" | "script" | "style"
  | "title" => b.startInHead tag
  | "body" => done (b.startSecondBody tag)
  | "frameset" => done (b.startLateFrameset tag)
  | "address" | "article" | "aside" | "blockquote" | "center" | "details" | "dir" | "div" | "dl"
  | "fieldset" | "figcaption" | "figure" | "footer" | "header" | "hgroup" | "main" | "menu"
  | "nav" | "ol" | "p" | "section" | "summary" | "ul" =>
    done (b.closeParagraph.insertHtml tag.name tag.attributes)
  | "h1" | "h2" | "h3" | "h4" | "h5" | "h6" =>
    let b := b.closeParagraph
    let b := if headingNames.contains b.currentName then b.pop else b
    done (b.insertHtml tag.name tag.attributes)
  | "pre" | "listing" =>
    let b := (b.closeParagraph.insertHtml tag.name tag.attributes).forbidFrameset
    done { b with dropsLineBreak := true }
  | "form" => done (b.startForm tag)
  | "li" | "dd" | "dt" => done (b.startListItem tag)
  | "plaintext" =>
    let b := b.closeParagraph.insertHtml tag.name tag.attributes
    done { b with content := .plainText }
  | "a" => done (b.startLink tag)
  | "b" | "big" | "code" | "em" | "font" | "i" | "s" | "small" | "strike" | "strong" | "tt"
  | "u" => done (b.reopenFormatting.insertFormatting tag.name tag.attributes)
  | "nobr" =>
    let b := b.reopenFormatting
    let b :=
      if b.hasInScope "nobr" .default then (endFormatting 8 "nobr" b).reopenFormatting else b
    done (b.insertFormatting tag.name tag.attributes)
  | "button" =>
    if b.hasInScope "button" .default then retry (b.endBlock "button")
    else done (b.reopenFormatting.insertHtml tag.name tag.attributes).forbidFrameset
  | "applet" | "marquee" | "object" =>
    done (b.reopenFormatting.insertHtml tag.name tag.attributes).pushMarker.forbidFrameset
  | "xmp" =>
    done (b.closeParagraph.reopenFormatting.forbidFrameset.insertTextElement tag.name
      tag.attributes (.rawText tag.name))
  | "table" =>
    let b := if b.quirks then b else b.closeParagraph
    done ((b.insertHtml tag.name tag.attributes).forbidFrameset.enter .inTable)
  | "area" | "br" | "embed" | "img" | "keygen" | "wbr" => done (b.insertInlineVoid tag)
  | "param" | "source" | "track" => done (b.insertVoid tag.name tag.attributes)
  | "input" => done (b.insertInput tag)
  | "hr" => done (b.insertRule tag.attributes)
  | "image" => done (b.insertInlineVoid { tag with name := "img" })
  | "isindex" => done (b.insertSearchForm tag)
  | "textarea" =>
    let b := b.insertHtml tag.name tag.attributes
    done { b with content := .escapableText tag.name, dropsLineBreak := true }
  | "iframe" =>
    done (b.forbidFrameset.insertTextElement tag.name tag.attributes (.rawText tag.name))
  | "noembed" | "noframes" =>
    done (b.insertTextElement tag.name tag.attributes (.rawText tag.name))
  | "select" => done (b.startSelect tag)
  | "rp" | "rt" =>
    let b := if b.hasInScope "ruby" .default then b.closeImplied "" else b
    done (b.insertHtml tag.name tag.attributes)
  | "option" | "optgroup" =>
    let b := if b.currentName = "option" then b.endImplied "option" else b
    done (b.reopenFormatting.insertHtml tag.name tag.attributes)
  | "math" => done (b.reopenFormatting.startForeign tag .mathml)
  | "svg" => done (b.reopenFormatting.startForeign tag .svg)
  | "caption" | "col" | "colgroup" | "frame" | "head" | "tbody" | "td" | "tfoot" | "th"
  | "thead" | "tr" => done b
  | _ => done (b.reopenFormatting.insertHtml tag.name tag.attributes)

/-! ## Modes around the head -/

/-- Start tags in a head element for pages without scripts. -/
def startInHeadNoscript (b : Builder) (tag : StartTag) : Outcome :=
  match tag.name with
  | "html" => done (b.startHtml tag)
  | "basefont" | "bgsound" | "link" | "meta" | "noframes" | "style" => b.startInHead tag
  | "head" | "noscript" => done b
  | _ => retry (b.pop.enter .inHead)

/-- Start tags between the head and the body. -/
def startAfterHead (b : Builder) (tag : StartTag) : Outcome :=
  match tag.name with
  | "html" => done (b.startHtml tag)
  | "body" =>
    done ((b.forbidFrameset.insertHtml tag.name tag.attributes).enter .inBody)
  | "frameset" => done ((b.insertHtml tag.name tag.attributes).enter .inFrameset)
  | "base" | "basefont" | "bgsound" | "link" | "meta" | "noframes" | "script" | "style"
  | "title" =>
    match b.head with
    | some head =>
      let outcome := { b with stack := head :: b.stack }.startInHead tag
      ⟨outcome.state.removeOpen head, outcome.again⟩
    | none => done b
  | "head" => done b
  | _ => retry b.implyBody

/-! ## Tables -/

/-- The mode that the open elements call for. -/
def modeOfStack : List OpenElement → Mode
  | [] => .inBody
  | [_] => .inBody
  | element :: outer =>
    if element.vocabulary ≠ .html then modeOfStack outer
    else match element.name with
      | "select" => .inSelect
      | "td" | "th" => .inCell
      | "tr" => .inRow
      | "tbody" | "thead" | "tfoot" => .inTableBody
      | "caption" => .inCaption
      | "colgroup" => .inColumnGroup
      | "table" => .inTable
      | "head" | "body" => .inBody
      | "frameset" => .inFrameset
      | _ => modeOfStack outer

/-- Goes over to the mode that the open elements call for. -/
def resetMode (b : Builder) : Builder :=
  b.enter (modeOfStack b.stack)

/-- Ends a table. -/
def endTable (b : Builder) : Builder :=
  if b.hasInScope "table" .table then
    ((b.closeImplied "").closeThroughName "table").resetMode
  else b

/-- Ends a group of rows. -/
def endRowGroup (b : Builder) : Builder :=
  (b.closeUntilNames ["tbody", "tfoot", "thead", "html"]).pop.enter .inTable

/-- Is a group of rows in scope? -/
def hasRowGroup (b : Builder) : Bool :=
  ["tbody", "thead", "tfoot"].any fun name => b.hasInScope name .table

/-- Ends a row. -/
def endRow (b : Builder) : Builder :=
  (b.closeUntilNames ["tr", "html"]).pop.enter .inTableBody

/-- Ends the innermost part of a table that keeps a new table from starting. -/
def endTablePart (b : Builder) : Builder :=
  match b.mode with
  | .inTableBody => if b.hasRowGroup then b.endRowGroup else b
  | .inRow => if b.hasInScope "tr" .table then b.endRow else b
  | _ => b.endTable

/-- Starts a group of columns. -/
def startColumnGroup (b : Builder) (attributes : List (String × String)) : Builder :=
  ((b.closeUntilNames ["table", "html"]).insertHtml "colgroup" attributes).enter .inColumnGroup

/-- Starts a group of rows. -/
def startRowGroup (b : Builder) (tag : StartTag) : Builder :=
  ((b.closeUntilNames ["table", "html"]).insertHtml tag.name tag.attributes).enter .inTableBody

/-- Is the field a hidden one? -/
def isHiddenInput (tag : StartTag) : Bool :=
  (tag.attributes.lookup "type").any fun kind => Text.asciiLower kind.toList = "hidden".toList

/-- Start tags in a table. -/
def startInTable (b : Builder) (tag : StartTag) : Outcome :=
  let other := done (b.fostering fun b => (b.startInBody tag).state)
  match tag.name with
  | "html" => done (b.startHtml tag)
  | "caption" =>
    let b := (b.closeUntilNames ["table", "html"]).pushMarker
    done ((b.insertHtml tag.name tag.attributes).enter .inCaption)
  | "colgroup" => done (b.startColumnGroup tag.attributes)
  | "col" => retry (b.startColumnGroup [])
  | "tbody" | "tfoot" | "thead" => done (b.startRowGroup tag)
  | "td" | "th" | "tr" => retry (b.startRowGroup (.plain "tbody"))
  | "table" => retry b.endTablePart
  | "style" | "script" => b.startInHead tag
  | "input" =>
    if isHiddenInput tag then done (b.insertVoid tag.name tag.attributes) else other
  | "form" =>
    if b.form.isSome then done b
    else
      let started := b.insertHtml tag.name tag.attributes
      done { started with form := started.stack.head? }.pop
  | _ => other

/-- End tags in a table. -/
def endInTable (b : Builder) (name : String) : Outcome :=
  match name with
  | "table" => done b.endTable
  | "body" | "caption" | "col" | "colgroup" | "html" | "tbody" | "td" | "tfoot" | "th" | "thead"
  | "tr" => done b
  | _ => done (b.fostering fun b => (b.endInBody name).state)

/-- Inserts the text that was collected in a table: white space where it is, other text in front
of the table. -/
def flushPendingText (b : Builder) : Builder :=
  let text := b.pendingText.reverse.flatten
  let b := { b with pendingText := [], mode := b.returnMode }
  if text.all isSpace then b.insertText text
  else b.fostering (·.charactersInBody text)

/-- Ends a caption. -/
def endCaption (b : Builder) : Builder :=
  (((b.closeImplied "").closeThroughName "caption").clearToMarker).enter .inTable

/-- Start tags in a caption. -/
def startInCaption (b : Builder) (tag : StartTag) : Outcome :=
  match tag.name with
  | "html" => done (b.startHtml tag)
  | "caption" | "col" | "colgroup" | "tbody" | "td" | "tfoot" | "th" | "thead" | "tr" =>
    if b.hasInScope "caption" .table then retry b.endCaption else done b
  | _ => b.startInBody tag

/-- End tags in a caption. -/
def endInCaption (b : Builder) (name : String) : Outcome :=
  match name with
  | "caption" => done (if b.hasInScope "caption" .table then b.endCaption else b)
  | "table" => if b.hasInScope "caption" .table then retry b.endCaption else done b
  | "body" | "col" | "colgroup" | "html" | "tbody" | "td" | "tfoot" | "th" | "thead" | "tr" =>
    done b
  | _ => b.endInBody name

/-- Ends a group of columns. -/
def endColumnGroup (b : Builder) : Builder :=
  if b.currentName = "html" then b else b.pop.enter .inTable

/-- Ends a group of columns before a token that does not belong there. -/
def leaveColumnGroup (b : Builder) : Outcome :=
  if b.currentName = "html" then done b else retry b.endColumnGroup

/-- Start tags in a group of columns. -/
def startInColumnGroup (b : Builder) (tag : StartTag) : Outcome :=
  match tag.name with
  | "html" => done (b.startHtml tag)
  | "col" => done (b.insertVoid tag.name tag.attributes)
  | _ => b.leaveColumnGroup

/-- End tags in a group of columns. -/
def endInColumnGroup (b : Builder) (name : String) : Outcome :=
  match name with
  | "colgroup" => done b.endColumnGroup
  | "col" => done b
  | _ => b.leaveColumnGroup

/-- Starts a row. -/
def startRow (b : Builder) (attributes : List (String × String)) : Builder :=
  ((b.closeUntilNames ["tbody", "tfoot", "thead", "html"]).insertHtml "tr" attributes).enter .inRow

/-- Start tags in a group of rows. -/
def startInTableBody (b : Builder) (tag : StartTag) : Outcome :=
  match tag.name with
  | "html" => done (b.startHtml tag)
  | "tr" => done (b.startRow tag.attributes)
  | "td" | "th" => retry (b.startRow [])
  | "caption" | "col" | "colgroup" | "tbody" | "tfoot" | "thead" =>
    if b.hasRowGroup then retry b.endRowGroup else done b
  | _ => b.startInTable tag

/-- End tags in a group of rows. -/
def endInTableBody (b : Builder) (name : String) : Outcome :=
  match name with
  | "tbody" | "tfoot" | "thead" =>
    done (if b.hasInScope name .table then b.endRowGroup else b)
  | "table" => if b.hasRowGroup then retry b.endRowGroup else done b
  | "body" | "caption" | "col" | "colgroup" | "html" | "td" | "th" | "tr" => done b
  | _ => b.endInTable name

/-- Start tags in a row. -/
def startInRow (b : Builder) (tag : StartTag) : Outcome :=
  match tag.name with
  | "html" => done (b.startHtml tag)
  | "td" | "th" =>
    let b := (b.closeUntilNames ["tr", "html"]).insertHtml tag.name tag.attributes
    done (b.enter .inCell).pushMarker
  | "caption" | "col" | "colgroup" | "tbody" | "tfoot" | "thead" | "tr" =>
    if b.hasInScope "tr" .table then retry b.endRow else done b
  | _ => b.startInTable tag

/-- End tags in a row. -/
def endInRow (b : Builder) (name : String) : Outcome :=
  match name with
  | "tr" => done (if b.hasInScope "tr" .table then b.endRow else b)
  | "table" => if b.hasInScope "tr" .table then retry b.endRow else done b
  | "tbody" | "tfoot" | "thead" =>
    if b.hasInScope name .table then
      retry (if b.hasInScope "tr" .table then b.endRow else b)
    else done b
  | "body" | "caption" | "col" | "colgroup" | "html" | "td" | "th" => done b
  | _ => b.endInTable name

/-- Ends a cell with the given name. -/
def endCell (b : Builder) (name : String) : Builder :=
  if b.hasInScope name .table then
    (((b.closeImplied name).closeThroughName name).clearToMarker).enter .inRow
  else b

/-- Ends the open cell. -/
def closeCell (b : Builder) : Builder :=
  if b.hasInScope "td" .table then b.endCell "td"
  else if b.hasInScope "th" .table then b.endCell "th"
  else b

/-- Start tags in a cell. -/
def startInCell (b : Builder) (tag : StartTag) : Outcome :=
  match tag.name with
  | "html" => done (b.startHtml tag)
  | "caption" | "col" | "colgroup" | "tbody" | "td" | "tfoot" | "th" | "thead" | "tr" =>
    if b.hasInScope "td" .table || b.hasInScope "th" .table then retry b.closeCell else done b
  | _ => b.startInBody tag

/-- End tags in a cell. -/
def endInCell (b : Builder) (name : String) : Outcome :=
  match name with
  | "td" | "th" => done (b.endCell name)
  | "body" | "caption" | "col" | "colgroup" | "html" => done b
  | "table" | "tbody" | "tfoot" | "thead" | "tr" =>
    if b.hasInScope name .table then retry b.closeCell else done b
  | _ => b.endInBody name

/-! ## Choices -/

/-- Ends a list of choices. -/
def endSelect (b : Builder) : Builder :=
  if b.hasInScope "select" .select then (b.closeThroughName "select").resetMode else b

/-- Start tags in a list of choices. -/
def startInSelect (b : Builder) (tag : StartTag) : Outcome :=
  match tag.name with
  | "html" => done (b.startHtml tag)
  | "option" =>
    let b := if b.currentName = "option" then b.pop else b
    done (b.insertHtml tag.name tag.attributes)
  | "optgroup" =>
    let b := if b.currentName = "option" then b.pop else b
    let b := if b.currentName = "optgroup" then b.pop else b
    done (b.insertHtml tag.name tag.attributes)
  | "select" => done b.endSelect
  | "input" | "keygen" | "textarea" =>
    if b.hasInScope "select" .select then retry b.endSelect else done b
  | "script" => b.startInHead tag
  | _ => done b

/-- End tags in a list of choices. -/
def endInSelect (b : Builder) (name : String) : Outcome :=
  match name with
  | "option" => done (if b.currentName = "option" then b.pop else b)
  | "optgroup" =>
    let b :=
      if b.currentName = "option" && b.pop.currentName = "optgroup" then b.pop else b
    done (if b.currentName = "optgroup" then b.pop else b)
  | "select" => done b.endSelect
  | _ => done b

/-- Tags that end a list of choices in a table. -/
def selectEndingNames : List String :=
  ["caption", "table", "tbody", "tfoot", "thead", "tr", "td", "th"]

/-- Start tags in a list of choices in a table. -/
def startInSelectInTable (b : Builder) (tag : StartTag) : Outcome :=
  if selectEndingNames.contains tag.name then retry b.endSelect else b.startInSelect tag

/-- End tags in a list of choices in a table. -/
def endInSelectInTable (b : Builder) (name : String) : Outcome :=
  if selectEndingNames.contains name then
    if b.hasInScope name .table then retry b.endSelect else done b
  else b.endInSelect name

/-! ## Framesets -/

/-- Start tags in a frameset. -/
def startInFrameset (b : Builder) (tag : StartTag) : Outcome :=
  match tag.name with
  | "html" => done (b.startHtml tag)
  | "frameset" => done (b.insertHtml tag.name tag.attributes)
  | "frame" => done (b.insertVoid tag.name tag.attributes)
  | "noframes" => b.startInBody tag
  | _ => done b

/-- End tags in a frameset. -/
def endInFrameset (b : Builder) (name : String) : Outcome :=
  if name = "frameset" && b.currentName ≠ "html" then
    let b := b.pop
    done (if b.currentName = "frameset" then b else b.enter .afterFrameset)
  else done b

/-- Start tags after a frameset. -/
def startAfterFrameset (b : Builder) (tag : StartTag) : Outcome :=
  match tag.name with
  | "html" => done (b.startHtml tag)
  | "noframes" => b.startInHead tag
  | _ => done b

/-! ## Drawings and formulas -/

/-- Is this an element of a formula that holds running text? -/
def isMathTextPoint (element : OpenElement) : Bool :=
  element.vocabulary = .mathml && ["mi", "mo", "mn", "ms", "mtext"].contains element.name

/-- Is this an element of a drawing or a formula that holds ordinary markup? -/
def isHtmlPoint (b : Builder) (element : OpenElement) : Bool :=
  match element.vocabulary with
  | .mathml =>
    element.name = "annotation-xml" &&
      ((b.dom.tag? element.id).bind (·.attribute? "encoding")).any fun encoding =>
        ["text/html", "application/xhtml+xml"].contains (nameOf encoding.toList)
  | .svg => ["foreignObject", "desc", "title"].contains element.name
  | _ => false

/-- Start tags that end a drawing or a formula. -/
def breakoutNames : List String :=
  ["b", "big", "blockquote", "body", "br", "center", "code", "dd", "div", "dl", "dt", "em",
    "embed", "h1", "h2", "h3", "h4", "h5", "h6", "head", "hr", "i", "img", "li", "listing",
    "menu", "meta", "nobr", "ol", "p", "pre", "ruby", "s", "small", "span", "strong", "strike",
    "sub", "sup", "table", "tt", "u", "ul", "var"]

/-- Start tags in a drawing or a formula. -/
def startInForeign (b : Builder) (tag : StartTag) : Outcome :=
  let breaksOut := breakoutNames.contains tag.name ||
    (tag.name = "font" && tag.attributes.any fun entry =>
      ["color", "face", "size"].contains entry.1)
  if breaksOut then
    retry { b with stack := b.stack.dropWhile fun element =>
      element.vocabulary ≠ .html && !b.isHtmlPoint element && !isMathTextPoint element }
  else
    let vocabulary : Vocabulary := (b.stack.head?.map (·.vocabulary)).getD .html
    let name := if vocabulary = .svg then respell svgElementNames tag.name else tag.name
    done (b.startForeign { tag with name := name } vocabulary)

/-- How an end tag in a drawing or a formula is dealt with: it ends an element there, or the rules
of the mode apply. -/
def foreignEnd? (name : String) : List OpenElement → Option OpenElement
  | [] => none
  | element :: outer =>
    if element.vocabulary = .html then none
    else if nameOf element.name.toList = name then some element
    else foreignEnd? name outer

end Builder

end PageBlocks.Html
