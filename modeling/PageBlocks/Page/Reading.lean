import PageBlocks.Html.Assembly
import PageBlocks.Html.Construction
import PageBlocks.Text.Blank
/-!
# Reading a page

Markup is cleaned of characters that no page should hold, and then read by one of the readers.
Reading never fails: what the literal reader gives up on is read leniently.

## Main results

* `cleanMarkup_noControls` — clean markup has no control characters but tabs and line breaks.
-/

namespace PageBlocks

/-- Control characters other than the tab and the line breaks. -/
def isForbiddenControl (c : Char) : Bool :=
  c.toNat < 32 && c ≠ '\t' && c ≠ '\n' && c ≠ '\r'

/-- Markup without control characters, and with one kind of line break. -/
def cleanMarkup (markup : List Char) : List Char :=
  (Text.unifyLineBreaks (markup.filter fun c => c.toNat ≠ 0)).filter fun c => !isForbiddenControl c

theorem cleanMarkup_noControls {markup : List Char} {c : Char} (h : c ∈ cleanMarkup markup) :
    isForbiddenControl c = false := by
  simpa using (List.mem_filter.1 h).2

/-- `cleanMarkup` on strings. -/
def cleanMarkupString (markup : String) : String :=
  String.ofList (cleanMarkup markup.toList)

/-- The ways to read markup. -/
inductive PageReader where
  /-- As browsers read it: what is missing is supplied, and what is misplaced is moved. -/
  | browser
  /-- Nothing is supplied but a root and a body. -/
  | lenient
  /-- Nothing is supplied at all. -/
  | literal
deriving DecidableEq, Repr

namespace PageReader

/-- The names of the readers. -/
def names : List (String × PageReader) :=
  [("html5lib", browser), ("html5", browser), ("lxml", lenient), ("html.parser", literal),
    ("strict", literal)]

/-- The reader with a name; no name stands for the way of browsers. -/
def ofName (name : String) : PageReader :=
  if name.isEmpty then browser else (names.lookup name).getD lenient

/-- The page that a text writes. -/
def read (reader : PageReader) (text : String) : Dom :=
  match reader with
  | browser => Html.parse text
  | lenient => Html.parseLenient text
  | literal => (Html.parseLiteral? text).getD (Html.parseLenient text)

end PageReader

/-- The page that markup writes, read by a reader, with its nodes numbered in document order. -/
def Dom.readBy (reader : PageReader) (markup : String) : Dom :=
  (reader.read (cleanMarkupString markup)).numbered

/-- The page that markup writes, read as browsers read it. -/
def Dom.ofMarkup (markup : String) : Dom :=
  .readBy .browser markup

/-- The first element of a name in the document. -/
def Dom.firstNamed? (dom : Dom) (name : String) : Option NodeId :=
  (dom.document.descendants.find? fun node => node.isElement && node.name == name).map Node.id

/-- The body of a page, or the document where there is none. -/
def Dom.bodyOrDocument (dom : Dom) : NodeId :=
  (dom.firstNamed? "body").getD Dom.documentId

end PageBlocks
