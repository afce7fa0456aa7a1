import PageBlocks.Html.Token
/-!
# Markup as nested events

A lenient reading of markup.  Its tokens become starts and ends of elements that are properly
nested: an element may be closed by the start of another one that cannot stand inside it, an end
tag closes what is open inside its element, and end tags that fit nothing are passed over.  A root
and a body are supplied where they are missing; all else stays where it is written.
-/

namespace PageBlocks.Html.Lenient

/-- A step in the reading of markup. -/
inductive Event where
  | start (name : String) (attributes : WrittenAttributes)
  | finish
  | text (content : List Char)
  | comment (content : String)
  | doctype (name : String) (publicId systemId : Option String)
deriving DecidableEq, Repr

/-! ## Tables -/

/-- Elements without content. -/
def voidNames : List String :=
  ["area", "base", "basefont", "bgsound", "br", "col", "embed", "frame", "hr", "img", "input",
    "isindex", "keygen", "link", "meta", "param", "source", "track", "wbr"]

/-- Headings. -/
def headings : List String := ["h1", "h2", "h3", "h4", "h5", "h6"]

/-- Elements with preformatted text of the old kind. -/
def preformatted : List String := ["listing", "pre", "xmp"]

/-- The elements whose start closes an element that is open, by the name of the open one. -/
def closers (name : String) : List String :=
  match name with
  | "a" => ["a", "fieldset", "table", "td", "th"]
  | "address" => ["dd", "dl", "dt", "form", "li", "ul"]
  | "b" => ["center", "p", "td", "th"]
  | "big" | "s" | "small" | "strike" | "tt" => ["p"]
  | "caption" => ["col", "colgroup", "tbody", "tfoot", "thead", "tr"]
  | "col" => ["col", "colgroup", "tbody", "tfoot", "thead", "tr"]
  | "colgroup" => ["colgroup", "tbody", "tfoot", "thead", "tr"]
  | "dd" => ["dt"]
  | "dir" | "menu" => ["dd", "dl", "dt", "form", "ul"]
  | "dl" => ["form", "li"]
  | "dt" => ["dd", "dl"]
  | "font" => ["center", "td", "th"]
  | "form" => ["form"]
  | "h1" | "h2" | "h3" | "h4" | "h5" | "h6" => ["fieldset", "form", "li", "p", "table"]
  | "head" =>
    ["a", "abbr", "acronym", "address", "b", "bdo", "big", "blockquote", "body", "br", "center",
      "cite", "code", "dd", "dfn", "dir", "div", "dl", "dt", "em", "fieldset", "font", "form",
      "frameset", "hr", "i", "iframe", "img", "kbd", "li", "map", "menu", "ol", "p", "q", "s",
      "samp", "small", "span", "strike", "strong", "sub", "sup", "table", "tt", "u", "ul", "var"]
      ++ headings ++ preformatted
  | "hr" => ["form"]
  | "i" => ["center", "p"]
  | "legend" => ["fieldset"]
  | "li" => ["li"]
  | "link" => ["body", "frameset"]
  | "listing" | "pre" | "xmp" => ["dd", "dl", "dt", "fieldset", "form", "li", "table", "ul"]
  | "ol" => ["form"]
  | "option" => ["optgroup", "option"]
  | "p" =>
    ["address", "blockquote", "body", "caption", "center", "col", "colgroup", "dd", "dir", "div",
      "dl", "dt", "frameset", "head", "hr", "li", "menu", "ol", "p", "table", "tbody", "td",
      "tfoot", "th", "title", "tr", "ul"] ++ headings ++ preformatted
  | "script" => ["noscript"]
  | "span" => ["td", "th"]
  | "style" => ["body", "frameset"]
  | "tbody" => ["tbody", "tfoot"]
  | "td" | "th" => ["tbody", "td", "tfoot", "th", "tr"]
  | "tfoot" => ["tbody"]
  | "thead" => ["tbody", "tfoot"]
  | "title" => ["body", "frameset"]
  | "tr" => ["tbody", "tfoot", "tr"]
  | "u" => ["p", "td", "th"]
  | "ul" => ["address", "form", "menu", "ol", "pre"]
  | _ => []

/-- Is an open element closed by the start of another one? -/
def autoCloses (started opened : String) : Bool :=
  (closers opened).contains started

/-- How strongly an end tag closes what is open inside its element. -/
def endPriority (name : String) : Nat :=
  match name with
  | "div" => 150
  | "td" | "th" => 160
  | "tr" => 170
  | "thead" | "tbody" | "tfoot" => 180
  | "table" => 190
  | "head" | "body" => 200
  | "html" => 220
  | _ => 100

/-- What the text of an element holds. -/
def contentOf (name : String) : Content :=
  match name with
  | "script" => .script
  | "style" | "xmp" | "iframe" | "noembed" | "noframes" => .rawText name
  | "textarea" | "title" => .escapableText name
  | "plaintext" => .plainText
  | _ => .markup

/-- Elements that belong into the head of a page. -/
def headNames : List String := ["script", "style", "meta", "link", "title", "base"]

/-! ## The state of reading -/

/-- What is known while markup is read. -/
structure State where
  /-- The names of the open elements, the innermost one first. -/
  opened : List String
  headSeen : Bool
  bodySeen : Bool
  /-- How many starts of a root, a head or a body were passed over. -/
  passedOver : Nat
  /-- The events so far, the latest one first. -/
  events : List Event
  content : Content
deriving Repr

namespace State

/-- Nothing has been read. -/
def initial : State :=
  ⟨[], false, false, 0, [], .markup⟩

/-- Records an event. -/
def emit (state : State) (event : Event) : State :=
  { state with events := event :: state.events }

/-- Opens an element. -/
def push (state : State) (name : String) (attributes : WrittenAttributes) : State :=
  { state.emit (.start name attributes) with
    opened := name :: state.opened
    headSeen := state.headSeen || name = "head" || name = "body"
    bodySeen := state.bodySeen || name = "body" }

/-- Closes the innermost element. -/
def pop (state : State) : State :=
  match state.opened with
  | [] => state
  | _ :: outer => { state.emit .finish with opened := outer }

/-- Closes elements, from the inside, as long as they meet a condition. -/
def popWhile (condition : String → Bool) (state : State) : State :=
  (state.opened.takeWhile condition).foldl (fun state _ => state.pop) state

/-- Closes what cannot stand around an element. -/
def autoClose (state : State) (name : String) : State :=
  state.popWhile (autoCloses name)

/-- Opens the root, the head or the body where an element needs them. -/
def supply (state : State) (name : String) : State :=
  if name = "html" then state
  else
    let state := if state.opened.isEmpty then state.push "html" [] else state
    if name = "body" || name = "head" then state
    else if state.opened.length ≤ 1 && headNames.contains name then
      if state.headSeen then state else state.push "head" []
    else if ["noframes", "frame", "frameset"].contains name then state
    else if state.bodySeen || state.opened.contains "body" || state.opened.contains "head" then
      state
    else state.push "body" []

/-- Is the start of a root, a head or a body passed over? -/
def passesOver (state : State) (name : String) : Bool :=
  (name = "html" && !state.opened.isEmpty) || (name = "head" && state.opened.length ≠ 1) ||
    (name = "body" && state.opened.contains "body")

/-- A start tag. -/
def startTag (state : State) (name : String) (attributes : WrittenAttributes)
    (selfClosing : Bool) : State :=
  let state := (state.autoClose name).supply name
  if state.passesOver name then { state with passedOver := state.passedOver + 1 }
  else
    let state := state.push name attributes
    if selfClosing || voidNames.contains name then state.pop
    else { state with content := contentOf name }

/-- Does an end tag find its element before any that it is too weak to close? -/
def findsElement (name : String) (opened : List String) : Bool :=
  opened.contains name &&
    (opened.takeWhile (· ≠ name)).all fun inner => endPriority inner ≤ endPriority name

/-- An end tag. -/
def endTag (state : State) (name : String) : State :=
  if 0 < state.passedOver && ["html", "body", "head"].contains name then
    { state with passedOver := state.passedOver - 1 }
  else if findsElement name state.opened then (state.popWhile (· ≠ name)).pop
  else state

/-- Text.  White space may stand anywhere below the root; other text needs a body. -/
def text (state : State) (content : List Char) : State :=
  let atTop := ["html", "head"].contains (state.opened.headD "html")
  let blank := if atTop then content.takeWhile isSpace else []
  let rest := content.drop blank.length
  let state := if blank.isEmpty || state.opened.isEmpty then state else state.emit (.text blank)
  if rest.isEmpty then state
  else
    let state :=
      if atTop then
        (if state.opened.head? = some "head" then state.autoClose "p" else state).supply "p"
      else state
    state.emit (.text rest)

/-- Takes a token. -/
def take (state : State) : Token → State
  | .spaces content | .characters content => state.text content
  | .startTag name attributes selfClosing => state.startTag name attributes selfClosing
  | .endTag name => state.endTag name
  | .comment content => state.emit (.comment content)
  | .doctype name publicId systemId _ => state.emit (.doctype name publicId systemId)

/-- Reads a text to its end.  The fuel bounds the number of tokens. -/
def readAll : (fuel : Nat) → List Char → State → State
  | 0, _, state => state
  | fuel + 1, text, state =>
    if text.isEmpty then state
    else
      let (tokens, rest) := readTokens state.content false text
      readAll fuel rest (tokens.foldl take { state with content := .markup })

end State

/-- The events of a text, properly nested. -/
def events (text : List Char) : List Event :=
  let state := State.readAll (text.length + 1) text .initial
  (state.popWhile fun _ => true).events.reverse

end PageBlocks.Html.Lenient
