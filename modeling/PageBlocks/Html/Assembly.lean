import PageBlocks.Dom.Edit
import PageBlocks.Dom.Text
import PageBlocks.Html.Lenient
import PageBlocks.Html.Literal.Reader
import PageBlocks.Html.WordList
/-!
# Putting pages together

The events of the literal and the lenient reading are put together to pages.  Pieces of text that
follow each other become one.  Text of nothing but blanks shrinks to one of them, unless it is
preformatted.
-/

namespace PageBlocks.Html

/-- Text without any characters but blanks shrinks to a line break, when it has one, or to a blank. -/
def shrinkBlanks (content : List Char) : List Char :=
  if content.all isSpace then
    if content.contains '\n' then ['\n'] else [' ']
  else content

/-- `shrinkBlanks` on strings. -/
def shrinkBlankString (content : String) : String :=
  String.ofList (shrinkBlanks content.toList)

/-- A leaf whose content has shrunk. -/
def shrinkLeaf : Leaf → Leaf
  | .text kind content => .text kind (shrinkBlankString content)
  | .comment content => .comment (shrinkBlankString content)
  | .cdata content => .cdata (shrinkBlankString content)
  | .doctype content => .doctype (shrinkBlankString content)
  | .declaration content => .declaration (shrinkBlankString content)
  | .instruction content => .instruction (shrinkBlankString content)

/-- An element that is open, with its content so far, the latest node first. -/
structure OpenPart where
  id : NodeId
  tag : Tag
  content : List Node
deriving DecidableEq, Repr

/-- A page that is being put together. -/
structure Assembly where
  /-- The open elements, the innermost one first. -/
  opened : List OpenPart
  /-- The nodes at the top of the page, the latest one first. -/
  top : List Node
  /-- The least identity not in use. -/
  fresh : NodeId
  /-- Text that has not been put in yet, the latest piece first. -/
  pending : List (List Char)
deriving Repr

namespace Assembly

/-- Nothing has been put in. -/
def initial : Assembly :=
  ⟨[], [], 1, []⟩

/-- Puts a node into the innermost open element. -/
def put (assembly : Assembly) (node : Node) : Assembly :=
  match assembly.opened with
  | [] => { assembly with top := node :: assembly.top }
  | part :: outer =>
    { assembly with opened := { part with content := node :: part.content } :: outer }

/-- Is the text of an open element kept as it is written? -/
def keepsBlanks (assembly : Assembly) : Bool :=
  assembly.opened.any fun part => ["pre", "textarea"].contains part.tag.name

/-- The kind of text that the open elements make of plain text. -/
def textKind (assembly : Assembly) : TextKind :=
  ((assembly.opened.map fun part => TextKind.ofName part.tag.name).find? (· ≠ .plain)).getD .plain

/-- Puts a new leaf in as it is. -/
def putExactly (assembly : Assembly) (content : Leaf) : Assembly :=
  { assembly.put (.leaf assembly.fresh content) with fresh := assembly.fresh + 1 }

/-- Puts a new leaf in. -/
def putLeaf (assembly : Assembly) (content : Leaf) : Assembly :=
  assembly.putExactly (if assembly.keepsBlanks then content else shrinkLeaf content)

/-- Puts the text in that has been collected. -/
def flush (assembly : Assembly) : Assembly :=
  if assembly.pending.isEmpty then assembly
  else
    let content := String.ofList assembly.pending.reverse.flatten
    { assembly with pending := [] }.putLeaf (.text assembly.textKind content)

/-- Opens an element.  Of the values of an attribute the last one holds. -/
def start (assembly : Assembly) (name : String) (attributes : WrittenAttributes) : Assembly :=
  let assembly := assembly.flush
  let tag := attributes.foldl
    (fun (tag : Tag) (entry : String × Option String) =>
      tag.setAttribute entry.1 (keptValue name entry.1 (entry.2.getD "")))
    ⟨name, .unspecified, []⟩
  { assembly with
    opened := ⟨assembly.fresh, tag, []⟩ :: assembly.opened
    fresh := assembly.fresh + 1 }

/-- Closes the innermost element. -/
def close (assembly : Assembly) : Assembly :=
  match assembly.opened with
  | [] => assembly
  | part :: outer =>
    { assembly with opened := outer }.put
      (.element part.id part.tag (Forest.ofList part.content.reverse))

/-- Closes elements, from the inside. -/
def closeMany : Nat → Assembly → Assembly
  | 0, assembly => assembly
  | count + 1, assembly => closeMany count assembly.close

/-- Closes elements through the innermost one with a name, if there is one. -/
def closeNamed (assembly : Assembly) (name : String) : Assembly :=
  match assembly.opened.findIdx? (·.tag.name = name) with
  | some index => assembly.closeMany (index + 1)
  | none => assembly

/-- Collects text. -/
def addText (assembly : Assembly) (content : List Char) : Assembly :=
  { assembly with pending := content :: assembly.pending }

/-- Takes an event of the literal reading. -/
def takeLiteral (assembly : Assembly) : Literal.Event → Assembly
  | .start name attributes => assembly.start name attributes
  | .finish name => assembly.flush.closeNamed name
  | .text content => assembly.addText content
  | .leaf content => assembly.flush.putLeaf content

/-- Takes an event of the lenient reading. -/
def takeLenient (assembly : Assembly) : Lenient.Event → Assembly
  | .start name attributes => assembly.start name attributes
  | .finish => assembly.flush.close
  | .text content => assembly.addText content
  | .comment content => assembly.flush.putLeaf (.comment content)
  | .doctype name publicId systemId =>
    assembly.flush.putExactly (.doctype (doctypeText name publicId systemId))

/-- The page, with all elements closed. -/
def page (assembly : Assembly) : Dom :=
  let assembly := assembly.flush
  let assembly := assembly.closeMany assembly.opened.length
  ⟨.element Dom.documentId Dom.documentTag (Forest.ofList assembly.top.reverse) .nil,
    assembly.fresh, false⟩

end Assembly

/-- The page that a text writes when it is taken literally; nothing when the reading gives up. -/
def parseLiteral? (text : String) : Option Dom :=
  (Literal.events? text.toList).map fun events =>
    (events.foldl Assembly.takeLiteral .initial).page

/-- The page that a text writes when it is read leniently.  A mark of the byte order at its start
is dropped. -/
def parseLenient (text : String) : Dom :=
  let chars := match text.toList with
    | c :: rest => if c.toNat = 0xFEFF then rest else c :: rest
    | [] => []
  ((Lenient.events chars).foldl Assembly.takeLenient .initial).page

end PageBlocks.Html
