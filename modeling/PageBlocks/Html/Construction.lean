import PageBlocks.Html.Rules
/-!
# From markup to a page

Tree construction as a whole: tokens are read one after another and each is given to the rules of
the mode that is in force, or to the rules of drawings and formulas inside those.  When the text
ends, the parts that every page has are added where they are missing.
-/

namespace PageBlocks.Html

open Outcome

namespace Builder

/-- Text that is not white space. -/
def characters (b : Builder) (content : List Char) : Outcome :=
  match b.mode with
  | .initial => retry { b with quirks := true, mode := .beforeHtml }
  | .beforeHtml => retry b.startRoot
  | .beforeHead => retry (b.startHead [])
  | .inHead => retry b.endHead
  | .inHeadNoscript => retry (b.pop.enter .inHead)
  | .afterHead => retry b.implyBody
  | .inBody | .inCaption | .inCell => done (b.charactersInBody content)
  | .text | .inSelect | .inSelectInTable => done (b.insertText content)
  | .inTable | .inTableBody | .inRow => retry { b with returnMode := b.mode, mode := .inTableText }
  | .inTableText => done { b with pendingText := content :: b.pendingText }
  | .inColumnGroup => b.leaveColumnGroup
  | .afterBody | .afterAfterBody => retry (b.enter .inBody)
  | .inFrameset | .afterFrameset | .afterAfterFrameset => done b

/-- White space. -/
def spaces (b : Builder) (content : List Char) : Outcome :=
  match b.mode with
  | .initial | .beforeHtml | .beforeHead => done b
  | .inBody | .afterAfterBody | .afterAfterFrameset => done (b.spacesInBody content)
  | .inTable | .inTableBody | .inRow => retry { b with returnMode := b.mode, mode := .inTableText }
  | .inTableText => done { b with pendingText := content :: b.pendingText }
  | _ => done (b.insertText content)

/-- A start tag. -/
def startTag (b : Builder) (tag : StartTag) : Outcome :=
  match b.mode with
  | .initial => retry { b with quirks := true, mode := .beforeHtml }
  | .beforeHtml => retry b.startRoot
  | .beforeHead =>
    match tag.name with
    | "html" => done (b.startHtml tag)
    | "head" => done (b.startHead tag.attributes)
    | _ => retry (b.startHead [])
  | .inHead => b.startInHead tag
  | .inHeadNoscript => b.startInHeadNoscript tag
  | .afterHead => b.startAfterHead tag
  | .inBody => b.startInBody tag
  | .text => done b
  | .inTable => b.startInTable tag
  | .inTableText => retry b.flushPendingText
  | .inCaption => b.startInCaption tag
  | .inColumnGroup => b.startInColumnGroup tag
  | .inTableBody => b.startInTableBody tag
  | .inRow => b.startInRow tag
  | .inCell => b.startInCell tag
  | .inSelect => b.startInSelect tag
  | .inSelectInTable => b.startInSelectInTable tag
  | .afterBody | .afterAfterBody =>
    if tag.name = "html" then done (b.startHtml tag) else retry (b.enter .inBody)
  | .inFrameset => b.startInFrameset tag
  | .afterFrameset | .afterAfterFrameset => b.startAfterFrameset tag

/-- An end tag. -/
def endTag (b : Builder) (name : String) : Outcome :=
  match b.mode with
  | .initial => retry { b with quirks := true, mode := .beforeHtml }
  | .beforeHtml => if implyingEndNames.contains name then retry b.startRoot else done b
  | .beforeHead => if implyingEndNames.contains name then retry (b.startHead []) else done b
  | .inHead => b.endInHead name
  | .inHeadNoscript =>
    if name = "noscript" then done (b.pop.enter .inHead)
    else if name = "br" then retry (b.pop.enter .inHead)
    else done b
  | .afterHead =>
    if ["body", "html", "br"].contains name then retry b.implyBody else done b
  | .inBody => b.endInBody name
  | .text => done (b.pop.enter b.returnMode)
  | .inTable => b.endInTable name
  | .inTableText => retry b.flushPendingText
  | .inCaption => b.endInCaption name
  | .inColumnGroup => b.endInColumnGroup name
  | .inTableBody => b.endInTableBody name
  | .inRow => b.endInRow name
  | .inCell => b.endInCell name
  | .inSelect => b.endInSelect name
  | .inSelectInTable => b.endInSelectInTable name
  | .afterBody => if name = "html" then done (b.enter .afterAfterBody) else retry (b.enter .inBody)
  | .afterAfterBody => retry (b.enter .inBody)
  | .inFrameset => b.endInFrameset name
  | .afterFrameset => done (if name = "html" then b.enter .afterAfterFrameset else b)
  | .afterAfterFrameset => done b

/-- A comment. -/
def comment (b : Builder) (content : String) : Outcome :=
  match b.mode with
  | .initial | .beforeHtml | .afterAfterBody | .afterAfterFrameset =>
    done (b.insertComment Dom.documentId content)
  | .afterBody =>
    done (b.insertComment ((b.stack.getLast?.map (·.id)).getD Dom.documentId) content)
  | .inTableText => retry b.flushPendingText
  | _ => done (b.insertComment b.currentId content)

/-- What a token does by the rules of the mode that is in force. -/
def byMode (b : Builder) : Token → Outcome
  | .characters content => b.characters content
  | .spaces content => b.spaces content
  | .startTag name attributes selfClosing => b.startTag (.ofWritten name attributes selfClosing)
  | .endTag name => b.endTag name
  | .comment content => b.comment content
  | .doctype name publicId systemId correct =>
    if b.mode = .initial then done (b.insertDoctype name publicId systemId correct) else done b

/-- What a token does inside a drawing or a formula. -/
def byForeign (b : Builder) : Token → Outcome
  | .characters content => done (b.insertText content).forbidFrameset
  | .spaces content => done (b.insertText content)
  | .startTag name attributes selfClosing =>
    b.startInForeign (.ofWritten name attributes selfClosing)
  | .endTag name =>
    match foreignEnd? name b.stack with
    | some element =>
      let b := if b.mode = .inTableText then b.flushPendingText else b
      done { b with stack := closeThrough (·.id = element.id) b.stack }
    | none => b.endTag name
  | .comment content => done (b.insertComment b.currentId content)
  | .doctype .. => done b

/-- Do the rules of the mode apply to the token, and not those of drawings and formulas? -/
def appliesMode (b : Builder) (token : Token) : Bool :=
  match b.stack with
  | [] => true
  | element :: _ =>
    element.vocabulary = .html ||
      match token with
      | .characters _ | .spaces _ => isMathTextPoint element || b.isHtmlPoint element
      | .startTag name _ _ =>
        (isMathTextPoint element && !(["mglyph", "malignmark"].contains name)) ||
          (element.vocabulary = .mathml && element.name = "annotation-xml" && name = "svg") ||
          b.isHtmlPoint element
      | _ => false

/-- Gives a token to the rules until it is dealt with.  The fuel bounds how often. -/
def process : (fuel : Nat) → Builder → Token → Builder
  | 0, b, _ => b
  | fuel + 1, b, token =>
    let outcome := if b.appliesMode token then b.byMode token else b.byForeign token
    if outcome.again then process fuel outcome.state token else outcome.state

/-- No token is looked at more often than this: each further look is by the rules of a mode nearer
to the one that deals with the token. -/
def maxLooks : Nat := 64

/-- Deals with the end of the text. -/
def finish : (fuel : Nat) → Builder → Builder
  | 0, b => b
  | fuel + 1, b =>
    match b.mode with
    | .initial => finish fuel { b with quirks := true, mode := .beforeHtml }
    | .beforeHtml => finish fuel b.startRoot
    | .beforeHead => finish fuel (b.startHead [])
    | .inHead => finish fuel b.endHead
    | .inHeadNoscript => finish fuel (b.pop.enter .inHead)
    | .afterHead => finish fuel b.implyBody
    | .text => finish fuel (b.pop.enter b.returnMode)
    | .inTableText => finish fuel b.flushPendingText
    | .inColumnGroup => if b.currentName = "html" then b else finish fuel b.endColumnGroup
    | _ => b

/-- Does a marked section hold text here? -/
def allowsSections (b : Builder) : Bool :=
  b.stack.head?.any fun element => element.vocabulary ≠ .html

/-- Reads a text to its end.  The fuel bounds the number of tokens. -/
def readAll : (fuel : Nat) → List Char → Builder → Builder
  | 0, _, b => b
  | fuel + 1, text, b =>
    if text.isEmpty then b
    else
      let (tokens, rest) := readTokens b.content b.allowsSections text
      readAll fuel rest (tokens.foldl (process maxLooks) { b with content := .markup })

end Builder

/-- The page that a text writes. -/
def parse (text : String) : Dom :=
  let chars := text.toList
  (Builder.finish Builder.maxLooks (Builder.readAll (chars.length + 1) chars .initial)).dom

end PageBlocks.Html
